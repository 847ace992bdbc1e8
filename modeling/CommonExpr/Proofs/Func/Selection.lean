import CommonExpr.Environment
import CommonExpr.Proofs.Fault
import CommonExpr.Proofs.Plan.Literal
import Mathlib.Data.List.Forall2

/-!
Selection of overloads.

Functions come from registries, registries have ancestors, and an environment takes
registries on at both ends.  A call tries all of this function by function.  Main
statement: on values it runs the first applicable overload of one flat list, in which
the registries that override come last to first, then the standard library, then those
that were appended.
-/

namespace CommonExpr

/-- Whether a parameter of a strict overload takes a value: it is `dyn` or goes by the base
name of the value's type. -/
def Ty.Takes (param : Ty) (v : Value) : Prop := param = .dyn ∨ param.name = v.ty.name

instance (param : Ty) (v : Value) : Decidable (param.Takes v) := inferInstanceAs (Decidable (_ ∨ _))

theorem Ty.admits_iff (param : Ty) (v : Value) : param.admits v.ty = true ↔ param.Takes v := by
  simp [Ty.admits, Ty.equals, Ty.Takes]

theorem admitAll_iff (params : List Ty) (args : List Value) :
    admitAll params args = true ↔ List.Forall₂ Ty.Takes params args := by
  induction params generalizing args with
  | nil => cases args <;> simp [admitAll]
  | cons param params ih =>
      cases args with
      | nil => simp [admitAll]
      | cons v args =>
          rw [admitAll, Bool.and_eq_true, Ty.admits_iff, ih, List.forall₂_cons]

namespace Overload

/-- Whether an overload applies to arguments: there are as many as it has parameters, and
if it is strict, its parameters take them. -/
def Applies (o : Overload) (args : List Value) : Prop :=
  o.params.length = args.length ∧ (o.isStrict = true → List.Forall₂ Ty.Takes o.params args)

instance (o : Overload) (args : List Value) : Decidable (o.Applies args) :=
  inferInstanceAs (Decidable (_ ∧ _))

/-- What an overload yields on values.  Only a strict one has them unwrapped. -/
def run (o : Overload) (id : Int) (values : List Value) : Outcome Value :=
  match o.body with
  | .strict body => body id (values.map Value.unwrap)
  | .lenient body => body id (values.map .ok)

/-- The first overload that applies to values. -/
def first? (overloads : List Overload) (values : List Value) : Option Overload :=
  overloads.find? fun o => o.Applies (values.map Value.unwrap)

theorem applies_of_lenient {o : Overload} {body : Int → List (Outcome Value) → Outcome Value}
    (hbody : o.body = .lenient body) (args : List Value) :
    o.Applies args ↔ o.params.length = args.length := by
  have hlenient : o.isStrict = false := by rw [isStrict, hbody]
  simp [Applies, hlenient]

theorem applies_of_strict {o : Overload} {body : Int → List Value → Outcome Value}
    (hbody : o.body = .strict body) (args : List Value) :
    o.Applies args ↔ o.accepts args = true := by
  have hstrict : o.isStrict = true := by rw [isStrict, hbody]
  rw [Applies, accepts, admitAll_iff]
  constructor
  · intro happlies
    exact happlies.2 hstrict
  · intro htake
    exact ⟨htake.length_eq, fun _ => htake⟩

end Overload

namespace Func

variable (id : Int) (name : String) (values : List Value)

/-- Step: on values an overload runs if it applies, and is passed over if not. -/
theorem dispatchAmong_cons (o : Overload) (rest : List Overload) :
    dispatchAmong id (values.map .ok) (o :: rest) =
      if o.Applies (values.map Value.unwrap) then some (o.run id values)
      else dispatchAmong id (values.map .ok) rest := by
  rw [dispatchAmong, Overload.run]
  cases hbody : o.body with
  | lenient body => simp only [Overload.applies_of_lenient hbody, List.length_map]
  | strict body =>
      have hvalues := (collect_eq_ok_iff (values.map .ok) values).mpr rfl
      simp only [hvalues, Overload.applies_of_strict hbody]

theorem dispatchAmong_values (overloads : List Overload) :
    dispatchAmong id (values.map .ok) overloads =
      (Overload.first? overloads values).map fun o => o.run id values := by
  induction overloads with
  | nil => rfl
  | cons o rest ih =>
      rw [dispatchAmong_cons, ih]
      unfold Overload.first?
      by_cases happlies : o.Applies (values.map Value.unwrap)
      · simp [happlies]
      · simp [happlies]

/-- Functions that are tried in order are one function with all their overloads. -/
theorem dispatchFirst_values (candidates : List Func) :
    dispatchFirst id name (values.map .ok) candidates =
      match Overload.first? (candidates.flatMap Func.overloads) values with
      | some o => o.run id values
      | none => noOverload id name (values.map Value.unwrap) := by
  induction candidates with
  | nil =>
      have hvalues := (collect_eq_ok_iff (values.map .ok) values).mpr rfl
      rw [dispatchFirst, hvalues]
      rfl
  | cons f rest ih =>
      rw [dispatchFirst, dispatch, dispatchAmong_values, ih, List.flatMap_cons]
      rw [Overload.first?, Overload.first?, Overload.first?, List.find?_append]
      cases f.overloads.find? fun o => o.Applies (values.map Value.unwrap) with
      | none => rfl
      | some o => rfl

end Func

/-- The overloads that registered functions and those of the ancestors have for a name: all
of one function, the nearest that goes by the name. -/
def overloadsAmong (name : String) : List (List Func) → List Overload
  | [] => []
  | functions :: ancestors =>
      match findFunc? name functions with
      | some f => f.overloads
      | none => overloadsAmong name ancestors

def Registry.overloads (r : Registry) (name : String) : List Overload :=
  overloadsAmong name (r.functions :: r.ancestors)

theorem overloads_findSome (name : String) (generations : List (List Func)) :
    (generations.findSome? (findFunc? name)).toList.flatMap Func.overloads =
      overloadsAmong name generations := by
  induction generations with
  | nil => rfl
  | cons functions ancestors ih =>
      rw [List.findSome?_cons, overloadsAmong]
      cases findFunc? name functions with
      | none => exact ih
      | some f => simp

theorem Dispatcher.candidates_overloads (d : Dispatcher) (name : String) :
    (d.candidates name).flatMap Func.overloads =
      d.registries.flatMap fun r => r.overloads name := by
  rw [candidates]
  induction d.registries with
  | nil => rfl
  | cons r rest ih =>
      have hhead : (r.find? name).toList.flatMap Func.overloads = r.overloads name :=
        overloads_findSome name (r.functions :: r.ancestors)
      rw [List.filterMap_cons, List.flatMap_cons, ← ih, ← hhead]
      cases r.find? name with
      | none => rfl
      | some f => simp

/-- An addition to the functions of an environment. -/
inductive Registration where
  | append (r : Registry)
  | override (r : Registry)

namespace Registration

def apply (env : Environment) : Registration → Environment
  | .append r => env.appendFunctions r
  | .override r => env.overrideFunctions r

def appended? : Registration → Option Registry
  | .append r => some r
  | .override _ => none

def overriding? : Registration → Option Registry
  | .append _ => none
  | .override r => some r

variable (named? : String → Option ZoneRule)

/-- The registries of a new environment after additions, the foremost first. -/
def registries (history : List Registration) : List Registry :=
  (history.filterMap overriding?).reverse ++
    Library.standard named? :: history.filterMap appended?

/-- The overloads of a name after additions, the foremost first. -/
def overloads (history : List Registration) (name : String) : List Overload :=
  (registries named? history).flatMap fun r => r.overloads name

end Registration

namespace Environment

/-- The environment after additions. -/
def register (env : Environment) (history : List Registration) : Environment :=
  history.foldl Registration.apply env

/-- Run: registries pile up at both ends of those that were there before. -/
theorem registries_register (env : Environment) (history : List Registration) :
    (env.register history).dispatcher.registries =
      (history.filterMap Registration.overriding?).reverse ++ env.dispatcher.registries ++
        history.filterMap Registration.appended? := by
  induction history generalizing env with
  | nil => simp [register]
  | cons registration rest ih =>
      have hrest := ih (registration.apply env)
      rw [register, List.foldl_cons, ← register, hrest]
      cases registration with
      | append r =>
          simp [Registration.apply, appendFunctions, Dispatcher.append, List.filterMap_cons,
            Registration.overriding?, Registration.appended?]
      | override r =>
          simp [Registration.apply, overrideFunctions, Dispatcher.prepend, List.filterMap_cons,
            Registration.overriding?, Registration.appended?]

end Environment

namespace Planner

variable (p : Planner)

/-- An expression calls the functions of a name on operands.  The name is that of the call,
or a full name of which the receiver is a part. -/
inductive Calls (function : String) : Expr → (id : Int) → List Expr → Prop where
  | operands {e : Expr} {id : Int} {operands : List Expr}
      (hfunction : Operator.isSpecialForm function = false)
      (happlies : p.Applies function e id operands) : Calls function e id operands
  | qualified {id : Int} {target : Expr} {method : String} {args : List Expr}
      {candidates : List Func}
      (hname : p.qualifiedFunction? target (Operator.canonical method) =
        some (function, candidates)) :
      Calls function (.memberCall id target method args) id args

variable {p}

theorem candidates_of_firstKnown {d : Dispatcher} {names : List String} {name : String}
    {candidates : List Func} (hknown : firstKnown? d names = some (name, candidates)) :
    candidates = d.candidates name := by
  induction names with
  | nil => cases hknown
  | cons head rest ih =>
      rw [firstKnown?] at hknown
      split at hknown
      · exact ih hknown
      · cases hknown
        rfl

theorem callOn_function {function : String} (hfunction : Operator.isSpecialForm function = false)
    (id : Int) (operands : List Plan) :
    p.callOn id function operands =
      .ok (.call id function (p.dispatcher.candidates function) operands) := by
  simp only [Operator.isSpecialForm, Bool.or_eq_false_iff, beq_eq_false_iff_ne] at hfunction
  obtain ⟨⟨⟨hand, hor⟩, hconditional⟩, hindex⟩ := hfunction
  unfold callOn
  rw [if_neg hand, if_neg hor, if_neg hconditional, if_neg hindex]

theorem Calls.plan_eq {function : String} {e : Expr} {id : Int} {operands : List Expr}
    (hcalls : p.Calls function e id operands) {plans : List Plan}
    (hplans : p.planAll operands = .ok plans) :
    p.plan e = .ok (.call id function (p.dispatcher.candidates function) plans) := by
  cases hcalls with
  | operands hfunction happlies =>
      rw [plan_of_applies happlies, hplans]
      exact callOn_function hfunction id plans
  | @qualified _ _ _ _ candidates hname =>
      have hcandidates : candidates = p.dispatcher.candidates function := by
        rw [qualifiedFunction?] at hname
        split at hname
        · cases hname
        · exact candidates_of_firstKnown hname
      rw [plan, hname]
      simp only [hplans]
      rw [hcandidates]

/-- A call evaluates its operands and dispatches on their outcomes. -/
theorem Calls.evaluates {function : String} {e : Expr} {id : Int} {operands : List Expr}
    (hcalls : p.Calls function e id operands) {vars : Activation} {results : List (Outcome Value)}
    (hresults : List.Forall₂ (p.Evaluates vars) operands results) :
    p.Evaluates vars e (p.dispatcher.dispatch id function results) := by
  obtain ⟨plans, hplans, heval⟩ := exists_planAll hresults
  refine ⟨_, hcalls.plan_eq hplans, ?_⟩
  rw [Plan.eval, heval, Dispatcher.dispatch]

end Planner

/-- The base names of the argument types are all that an error tells of them. -/
theorem Cause.message_noMatchingOverload (function : String) (types : List Ty) :
    (Cause.noMatchingOverload function types).message =
      s!"found no matching overload for '{function}' applied to '(" ++
        ", ".intercalate (types.map Ty.name) ++ ")'" :=
  rfl

namespace Environment

/-- A call on values runs the first applicable overload of the flat list that the history of
registrations makes.  If there is none, it fails with the name of the function and the base
names of the argument types. -/
theorem call_runs_first_applicable (named? : String → Option ZoneRule)
    (history : List Registration) (name : String) (id : Int) (values : List Value) :
    (∀ o, Overload.first? (Registration.overloads named? history name) values = some o →
      (register { zones := named? } history).dispatcher.dispatch id name (values.map .ok) =
        o.run id values) ∧
    (Overload.first? (Registration.overloads named? history name) values = none →
      ∃ e : Error,
        (register { zones := named? } history).dispatcher.dispatch id name (values.map .ok) =
          .error (.error e) ∧
        e.id = id ∧ e.cause = .noMatchingOverload name (values.map fun v => v.unwrap.ty) ∧
        e.message = s!"found no matching overload for '{name}' applied to '(" ++
          ", ".intercalate (values.map fun v => v.unwrap.ty.name) ++ ")'" ∧
        e.additional = []) ∧
    ∀ (p : Planner) (vars : Activation) (e : Expr) (operands : List Expr),
      p.dispatcher = (register { zones := named? } history).dispatcher →
      p.Calls name e id operands → List.Forall₂ (p.Evaluates vars) operands (values.map .ok) →
      p.Evaluates vars e
        ((register { zones := named? } history).dispatcher.dispatch id name
          (values.map .ok)) := by
  have hregistries : (register { zones := named? } history).dispatcher.registries =
      Registration.registries named? history := by
    rw [registries_register, List.append_assoc]
    rfl
  have hdispatch := Func.dispatchFirst_values id name values
    ((register { zones := named? } history).dispatcher.candidates name)
  rw [Dispatcher.candidates_overloads, hregistries, ← Dispatcher.dispatch] at hdispatch
  rw [Registration.overloads]
  refine ⟨?_, ?_, ?_⟩
  · intro o hfirst
    rw [hdispatch, hfirst]
  · intro hfirst
    refine ⟨⟨id, .noMatchingOverload name (values.map fun v => v.unwrap.ty), []⟩, ?_, rfl, rfl,
      ?_, rfl⟩
    · rw [hdispatch, hfirst, noOverload, List.map_map]
      rfl
    · rw [Error.message, Cause.message_noMatchingOverload, List.map_map, Function.comp_def]
  · intro p vars e operands hdispatcher hcalls hresults
    rw [← hdispatcher]
    exact hcalls.evaluates hresults

end Environment

namespace SelectionWitness

/-- An overload that answers with its id. -/
def answering (id : String) (param : Ty) : Overload :=
  ⟨id, [param], .strict fun _ _ => .ok (.string id)⟩

def parent : Registry := .ofFunctions [⟨"size", [answering "hidden" .string]⟩]

/-- Has a `size` of its own, so that its parent's counts for nothing. -/
def near : Registry :=
  { Registry.under parent with functions := [⟨"size", [answering "near" .int]⟩] }

def nearest : Registry := .ofFunctions [⟨"size", [answering "nearest" .uint]⟩]

def far : Registry :=
  .ofFunctions [⟨"size", [answering "far" .string, answering "far" .bool,
    .ofOutcomes "far_pair" 2 fun _ _ => .ok (.string "far_pair")]⟩]

def history : List Registration := [.append far, .override near, .override nearest]

def dispatcher : Dispatcher := (Environment.register {} history).dispatcher

def planner : Planner := (Environment.register {} history).planner

/-- `size(7)` -/
def call : Expr := .call 2 "size" [.literal 1 (.scalar (.int 7))]

theorem call_calls : planner.Calls "size" call 2 [.literal 1 (.scalar (.int 7))] :=
  .operands (by decide) (.call (by decide))

theorem operand_evaluates :
    List.Forall₂ (planner.Evaluates .empty) [.literal 1 (.scalar (.int 7))] [.ok (.int 7)] :=
  .cons ⟨_, rfl, rfl⟩ .nil

/-- The standard library is behind what overrides it and before what was appended. -/
theorem size_selected :
    planner.Evaluates .empty call (.ok (.string "near")) ∧
      (∃ o : Overload, o.id = "size_string" ∧
        dispatcher.dispatch 2 "size" [.ok (.string "ab")] = o.run 2 [.string "ab"]) ∧
      dispatcher.dispatch 2 "size" [.ok .null, .ok .null] = .ok (.string "far_pair") ∧
      dispatcher.dispatch 2 "size" [.ok .null] = fail 2 (.noMatchingOverload "size" [.null]) := by
  obtain ⟨hint, -, hcall⟩ :=
    Environment.call_runs_first_applicable namedZone? history "size" 2 [.int 7]
  obtain ⟨hstring, -, -⟩ :=
    Environment.call_runs_first_applicable namedZone? history "size" 2 [.string "ab"]
  obtain ⟨hpair, -, -⟩ :=
    Environment.call_runs_first_applicable namedZone? history "size" 2 [.null, .null]
  obtain ⟨-, hnull, -⟩ :=
    Environment.call_runs_first_applicable namedZone? history "size" 2 [.null]
  refine ⟨?_, ⟨_, ?_, hstring _ rfl⟩, hpair _ rfl, ?_⟩
  · have hevaluates := hcall planner .empty call _ rfl call_calls operand_evaluates
    rw [hint (answering "near" .int) rfl] at hevaluates
    exact hevaluates
  · rfl
  · obtain ⟨⟨id, cause, additional⟩, he, rfl, rfl, -, rfl⟩ := hnull rfl
    exact he

end SelectionWitness

end CommonExpr
