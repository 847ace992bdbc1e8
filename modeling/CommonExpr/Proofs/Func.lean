import CommonExpr.Func.Registry
import CommonExpr.Proofs.Value.Invariant

/-!
Functions that keep an invariant of values.

An overload keeps a property if, run on values that have it, it yields it; what
it does on faults is its own matter as long as it fails at the call.  Main
statement: a call has the property, or a fault of its arguments or of its own.
-/

namespace CommonExpr

open Outcome

variable {V : Value → Prop}

namespace Outcome

/-- Whether all that is there yields a property. -/
def Offers (id : Int) (V : Value → Prop) (r : Option (Outcome Value)) : Prop :=
  ∀ o, r = some o → Yields id V o

theorem offers_none {id : Int} : Offers id V none := fun _ ho => nomatch ho

theorem offers_some {id : Int} {o : Outcome Value} (ho : Yields id V o) : Offers id V (some o) :=
  fun _ heq => Option.some.inj heq ▸ ho

end Outcome

/-- Whether a body yields the property on values that have it. -/
def Body.Keeps (V : Value → Prop) : Body → Prop
  | .strict run => ∀ id args, (∀ v ∈ args, V v) → Yields id V (run id args)
  | .lenient run => ∀ id args, Yields id V (run id args)

def Overload.Keeps (V : Value → Prop) (o : Overload) : Prop := o.body.Keeps V

def Func.Keeps (V : Value → Prop) (f : Func) : Prop := ∀ o ∈ f.overloads, o.Keeps V

theorem Overload.keeps_ofValues {function id : String} {params : List Ty}
    {run : (id : Int) → List Value → Option (Outcome Value)}
    (hrun : ∀ node args, (∀ v ∈ args, V v) → Offers node V (run node args)) :
    (Overload.ofValues function id params run).Keeps V :=
  fun node args hargs => Meets.getD (hrun node args hargs) yields_noOverload

theorem Func.keeps_nil {name : String} : Func.Keeps V ⟨name, []⟩ :=
  fun _ ho => absurd ho List.not_mem_nil

theorem Func.keeps_cons {name : String} {o : Overload} {rest : List Overload} (ho : o.Keeps V)
    (hrest : Func.Keeps V ⟨name, rest⟩) : Func.Keeps V ⟨name, o :: rest⟩ :=
  List.forall_mem_cons.mpr ⟨ho, hrest⟩

theorem Func.keeps_append {name : String} {first second : List Overload}
    (hfirst : Func.Keeps V ⟨name, first⟩) (hsecond : Func.Keeps V ⟨name, second⟩) :
    Func.Keeps V ⟨name, first ++ second⟩ :=
  List.forall_mem_append.mpr ⟨hfirst, hsecond⟩

theorem Func.keeps_single {name : String} {o : Overload} (ho : o.Keeps V) :
    Func.Keeps V ⟨name, [o]⟩ :=
  keeps_cons ho keeps_nil

section Dispatch

variable (hV : Value.Invariant V) {F : Fault → Prop} (hF : Fault.Merges F) {id : Int}
  (hid : ∀ f, f.At id → F f) {args : List (Outcome Value)} (hargs : ∀ o ∈ args, Meets V F o)

include hV hF hid hargs

theorem Func.dispatchAmong_meets {overloads : List Overload} (hkeeps : ∀ o ∈ overloads, o.Keeps V)
    {result : Outcome Value} (hresult : Func.dispatchAmong id args overloads = some result) :
    Meets V F result := by
  induction overloads with
  | nil => cases hresult
  | cons o rest ih =>
      obtain ⟨ho, hrest⟩ := List.forall_mem_cons.mp hkeeps
      rw [Overload.Keeps] at ho
      rw [Func.dispatchAmong] at hresult
      split at hresult
      · next run hbody =>
          rw [hbody] at ho
          split at hresult
          · obtain rfl := Option.some.inj hresult
            exact (ho id args).mono (fun _ h => h) hid
          · exact ih hrest hresult
      · next run hbody =>
          rw [hbody] at ho
          have hcollect := meets_collect hF hargs
          split at hresult
          · next f hf =>
              obtain rfl := Option.some.inj hresult
              exact meets_error.mpr (hcollect.fault hf)
          · next values hvalues =>
              dsimp only at hresult
              split at hresult
              · obtain rfl := Option.some.inj hresult
                have hunwrap := hV.map_unwrap (hcollect.value hvalues)
                exact (ho id _ hunwrap).mono (fun _ h => h) hid
              · exact ih hrest hresult

/-- A call yields a value with the property, a fault of its arguments, or one of
its own. -/
theorem Func.dispatchFirst_meets {name : String} {candidates : List Func}
    (hkeeps : ∀ f ∈ candidates, f.Keeps V) :
    Meets V F (Func.dispatchFirst id name args candidates) := by
  induction candidates with
  | nil =>
      have hcollect := meets_collect hF hargs
      rw [Func.dispatchFirst]
      split
      · next f hf => exact meets_error.mpr (hcollect.fault hf)
      · exact yields_noOverload.mono (fun _ h => h) hid
  | cons f rest ih =>
      obtain ⟨hf, hrest⟩ := List.forall_mem_cons.mp hkeeps
      rw [Func.dispatchFirst]
      split
      · next result hresult => exact Func.dispatchAmong_meets hV hF hid hargs hf hresult
      · exact ih hrest

end Dispatch

/-- Whether all functions of a registry keep a property. -/
def Registry.Keeps (V : Value → Prop) (r : Registry) : Prop :=
  ∀ functions ∈ r.functions :: r.ancestors, ∀ f ∈ functions, f.Keeps V

theorem Registry.keeps_ofFunctions {functions : List Func} (hkeeps : ∀ f ∈ functions, f.Keeps V) :
    (Registry.ofFunctions functions).Keeps V :=
  List.forall_mem_cons.mpr ⟨hkeeps, fun _ h => absurd h List.not_mem_nil⟩

theorem Registry.Keeps.find? {r : Registry} (hr : r.Keeps V) {name : String} {f : Func}
    (hf : r.find? name = some f) : f.Keeps V := by
  obtain ⟨functions, hfunctions, hfound⟩ := List.exists_of_findSome?_eq_some hf
  exact hr functions hfunctions f (List.mem_of_find?_eq_some hfound)

/-- Whether all functions of a dispatcher keep a property. -/
def Dispatcher.Keeps (V : Value → Prop) (d : Dispatcher) : Prop := ∀ r ∈ d.registries, r.Keeps V

theorem Dispatcher.Keeps.candidates {d : Dispatcher} (hd : d.Keeps V) (name : String) :
    ∀ f ∈ d.candidates name, f.Keeps V := by
  intro f hf
  obtain ⟨r, hr, hfound⟩ := List.mem_filterMap.mp hf
  exact (hd r hr).find? hfound

end CommonExpr
