import CommonExpr.Proofs.Expr
import CommonExpr.Proofs.Fault.Merging
import CommonExpr.Proofs.Plan.Chain

/-!
Faults in literals.

A literal evaluates all of its operands, whatever the first of them come to.  Main
statement: a list, a map or a message of a known type has the merged fault of all its
operands in order, if one of them has a fault.
-/

namespace CommonExpr

namespace Planner

/-- Whether an expression can be planned and comes to an outcome. -/
def Evaluates (p : Planner) (vars : Activation) (e : Expr) (r : Outcome Value) : Prop :=
  ∃ o, p.plan e = .ok o ∧ o.eval vars = r

variable {p : Planner} {vars : Activation} {results : List (Outcome Value)}

theorem Evaluates.unique {e : Expr} {r r' : Outcome Value} (hr : p.Evaluates vars e r)
    (hr' : p.Evaluates vars e r') : r = r' := by
  obtain ⟨o, ho, rfl⟩ := hr
  obtain ⟨o', ho', rfl⟩ := hr'
  rw [Except.ok.inj (ho.symm.trans ho')]

/-- Expressions that all evaluate are planned as a list of plans that do. -/
theorem exists_planAll {es : List Expr} (hresults : List.Forall₂ (p.Evaluates vars) es results) :
    ∃ plans, p.planAll es = .ok plans ∧ Plan.evalAll vars plans = results := by
  induction hresults with
  | nil => exact ⟨[], rfl, rfl⟩
  | cons hresult _ ih =>
      obtain ⟨o, ho, rfl⟩ := hresult
      obtain ⟨plans, hplans, rfl⟩ := ih
      exact ⟨o :: plans, by rw [planAll, ho, hplans], by rw [Plan.evalAll]⟩

theorem exists_planPairs {entries : List Entry} (hfits : ∀ entry ∈ entries, entry.Fits "")
    (hresults : List.Forall₂ (p.Evaluates vars) (entries.flatMap Entry.operands) results) :
    ∃ pairs, p.planPairs entries = .ok pairs ∧ Plan.evalEntries vars pairs = results := by
  induction entries generalizing results with
  | nil =>
      cases hresults
      exact ⟨[], rfl, rfl⟩
  | cons entry rest ih =>
      obtain ⟨hentry, hrest⟩ := List.forall_mem_cons.mp hfits
      cases entry with
      | field id name value => exact absurd rfl hentry
      | pair id key value =>
          obtain _ | ⟨⟨k, hk, rfl⟩, _ | ⟨⟨v, hv, rfl⟩, hresults⟩⟩ := hresults
          obtain ⟨pairs, hpairs, rfl⟩ := ih hrest hresults
          exact ⟨(k, v) :: pairs, by rw [planPairs, hk, hv, hpairs], by rw [Plan.evalEntries]⟩

theorem exists_planFields {message : String} {entries : List Entry} (hmessage : message ≠ "")
    (hfits : ∀ entry ∈ entries, entry.Fits message)
    (hresults : List.Forall₂ (p.Evaluates vars) (entries.flatMap Entry.operands) results) :
    ∃ fields, p.planFields message entries = .ok fields ∧
      Plan.evalFields vars fields = results := by
  induction entries generalizing results with
  | nil =>
      cases hresults
      exact ⟨[], rfl, rfl⟩
  | cons entry rest ih =>
      obtain ⟨hentry, hrest⟩ := List.forall_mem_cons.mp hfits
      cases entry with
      | pair id key value => exact absurd hentry hmessage
      | field id name value =>
          obtain _ | ⟨⟨v, hv, rfl⟩, hresults⟩ := hresults
          obtain ⟨fields, hfields, rfl⟩ := ih hrest hresults
          exact ⟨(name, v) :: fields, by rw [planFields, hv, hfields], by rw [Plan.evalFields]⟩

/-- A list with faulty elements has their merged fault. -/
theorem list_fault (id : Int) {es : List Expr} {f : Fault}
    (hresults : List.Forall₂ (p.Evaluates vars) es results) (hf : collect results = .error f) :
    p.Evaluates vars (.list id es) (.error f) := by
  obtain ⟨plans, hplans, rfl⟩ := exists_planAll hresults
  refine ⟨.list id plans, by rw [plan, hplans], ?_⟩
  rw [Plan.eval, listValue_eq, hf]
  rfl

/-- A map, or a message of a type that is known, with faulty operands has their merged fault. -/
theorem struct_fault (id : Int) {message : String} {entries : List Entry} {f : Fault}
    (hfits : ∀ entry ∈ entries, entry.Fits message)
    (hknown : message ≠ "" → (p.resolveType? message).isSome = true)
    (hresults : List.Forall₂ (p.Evaluates vars) (entries.flatMap Entry.operands) results)
    (hf : collect results = .error f) :
    p.Evaluates vars (.struct id message entries) (.error f) := by
  by_cases hmessage : message = ""
  · subst hmessage
    obtain ⟨pairs, hpairs, rfl⟩ := exists_planPairs hfits hresults
    refine ⟨.map id pairs, by rw [plan, if_pos rfl, hpairs], ?_⟩
    rw [Plan.eval, mapValue_eq, hf]
    rfl
  · obtain ⟨fields, hfields, rfl⟩ := exists_planFields hmessage hfits hresults
    obtain ⟨type, htype⟩ := Option.isSome_iff_exists.mp (hknown hmessage)
    refine ⟨.message id p.provider type fields, ?_, ?_⟩
    · rw [plan, if_neg hmessage, hfields]
      dsimp only
      rw [messageOn, htype]
    · rw [Plan.eval, messageValue_eq, hf]
      rfl

end Planner

/-- Merging is associative and keeps what is carried flat; outcomes are collected as their
values, as the union of the unknowns among them, or as the first error with the others; and
literals come to just this, unless their operands all have values or their type is unknown. -/
theorem Fault.merge_collect_literals :
    (∀ f g h : Fault, (f.merge g).merge h = f.merge (g.merge h)) ∧
    (∀ f g : Fault, f.Flat → g.Flat → (f.merge g).Flat) ∧
    (∀ (α : Type) (outcomes : List (Outcome α)) (values : List α),
      collect outcomes = .ok values ↔ outcomes = values.map .ok) ∧
    (∀ (α : Type) (outcomes : List (Outcome α)), (∃ s, .error (.unknown s) ∈ outcomes) →
      ∃ ids : IdSet, collect outcomes = .error (.unknown ids) ∧
        ∀ x, x ∈ ids.ids ↔ ∃ s, .error (.unknown s) ∈ outcomes ∧ x ∈ s.ids) ∧
    (∀ (α : Type) (outcomes : List (Outcome α)) (e : Error) (es : List Error),
      faults outcomes = (e :: es).map .error →
      collect outcomes = .error (.error
        { e with additional := e.additional ++ es.flatMap fun x => x.bare :: x.additional })) ∧
    (∀ (p : Planner) (vars : Activation) (id : Int) (es : List Expr)
      (results : List (Outcome Value)), List.Forall₂ (p.Evaluates vars) es results →
      (∃ f, .error f ∈ results) →
      ∃ f, collect results = .error f ∧ p.Evaluates vars (.list id es) (.error f)) ∧
    ∀ (p : Planner) (vars : Activation) (id : Int) (message : String) (entries : List Entry)
      (results : List (Outcome Value)), (∀ entry ∈ entries, entry.Fits message) →
      (message ≠ "" → (p.resolveType? message).isSome = true) →
      List.Forall₂ (p.Evaluates vars) (entries.flatMap Entry.operands) results →
      (∃ f, .error f ∈ results) →
      ∃ f, collect results = .error f ∧
        p.Evaluates vars (.struct id message entries) (.error f) := by
  refine ⟨merge_assoc, fun f g => Flat.merge, fun _ => collect_eq_ok_iff,
    fun _ _ => collect_unknown, fun _ _ _ _ => collect_errors,
    fun p vars id es results hresults hfault => ?_,
    fun p vars id message entries results hfits hknown hresults hfault => ?_⟩
  · obtain ⟨f, hf, -⟩ := collect_sum hfault
    exact ⟨f, hf, Planner.list_fault id hresults hf⟩
  · obtain ⟨f, hf, -⟩ := collect_sum hfault
    exact ⟨f, hf, Planner.struct_fault id hfits hknown hresults hf⟩

namespace LiteralWitness

def planner : Planner := ⟨⟨[]⟩, .empty, {}⟩

/-- A host that does not know `x` yet, and has neither `y` nor `z`. -/
def vars : Activation := .ofBindings (.ofList [("x", .error (.unknown (.ofList [42])))])

def x : Expr := .ident 1 "x"
def y : Expr := .ident 2 "y"
def z : Expr := .ident 3 "z"

def unknown : Fault := .unknown (.ofList [42])

def undeclared (id : Int) (name : String) : Error := ⟨id, .undeclaredReference name "", []⟩

theorem x_evaluates : planner.Evaluates vars x (.error unknown) := ⟨_, rfl, rfl⟩

theorem y_evaluates : planner.Evaluates vars y (.error (.error (undeclared 2 "y"))) := ⟨_, rfl, rfl⟩

theorem z_evaluates : planner.Evaluates vars z (.error (.error (undeclared 3 "z"))) := ⟨_, rfl, rfl⟩

/-- `[y, z]` -/
def list : Expr := .list 4 [y, z]

/-- The message `google.protobuf.Int64Value` with the value `x`. -/
def wrapper : Expr := .struct 3 "google.protobuf.Int64Value" [.field 2 "value" x]

/-- The message `pkg.Missing` with the field `x`. -/
def missing : Expr := .struct 3 "pkg.Missing" [.field 2 "f" x]

/-- The type of a message is looked up before there are any operands to evaluate, so an
unknown type hides what these come to. -/
theorem missing_hides_unknown :
    (Entry.field 2 "f" x).Fits "pkg.Missing" ∧
      List.Forall₂ (planner.Evaluates vars) ([Entry.field 2 "f" x].flatMap Entry.operands)
        [.error unknown] ∧
      (∃ f, .error f ∈ [(.error unknown : Outcome Value)]) ∧
      planner.Evaluates vars missing (fail 3 (.typeNotFound "pkg.Missing")) ∧
      ¬ ∃ f, collect [(.error unknown : Outcome Value)] = .error f ∧
        planner.Evaluates vars missing (.error f) := by
  have hmissing : planner.Evaluates vars missing (fail 3 (.typeNotFound "pkg.Missing")) :=
    ⟨_, rfl, rfl⟩
  refine ⟨nofun, .cons x_evaluates .nil, ⟨unknown, List.mem_singleton.mpr rfl⟩, hmissing, ?_⟩
  rintro ⟨f, hf, hfault⟩
  cases hf
  cases hmissing.unique hfault

/-- The error of `y` with that of `z` beside it. -/
def both : Fault := .error { undeclared 2 "y" with additional := [undeclared 3 "z"] }

theorem list_and_wrapper_merge :
    both.Flat ∧
      (∃ ids : IdSet, collect [(.ok .null : Outcome Value), .error unknown] =
        .error (.unknown ids) ∧ 42 ∈ ids.ids) ∧
      collect [(.error (.error (undeclared 2 "y")) : Outcome Value),
        .error (.error (undeclared 3 "z"))] = .error both ∧
      planner.Evaluates vars list (.error both) ∧
      planner.Evaluates vars wrapper (.error unknown) := by
  obtain ⟨-, hflat, -, hunknown, herrors, hlist, hstruct⟩ := Fault.merge_collect_literals
  have hboth := herrors Value
    [.error (.error (undeclared 2 "y")), .error (.error (undeclared 3 "z"))]
    (undeclared 2 "y") [undeclared 3 "z"] rfl
  refine ⟨hflat (.error (undeclared 2 "y")) (.error (undeclared 3 "z")) (fun _ hx => nomatch hx)
    (fun _ hx => nomatch hx), ?_, hboth, ?_, ?_⟩
  · have hmem : .error unknown ∈ [(.ok .null : Outcome Value), .error unknown] :=
      List.mem_cons_of_mem _ List.mem_cons_self
    obtain ⟨ids, hids, hiff⟩ := hunknown Value [.ok .null, .error unknown] ⟨_, hmem⟩
    exact ⟨ids, hids, (hiff 42).mpr ⟨_, hmem, by decide⟩⟩
  · obtain ⟨f, hf, hevaluates⟩ := hlist planner vars 4 [y, z] _
      (.cons y_evaluates (.cons z_evaluates .nil)) ⟨_, List.mem_cons_self⟩
    obtain rfl : f = both := Except.error.inj (hf.symm.trans hboth)
    exact hevaluates
  · obtain ⟨f, hf, hevaluates⟩ := hstruct planner vars 3 "google.protobuf.Int64Value"
      [.field 2 "value" x] _ (List.forall_mem_singleton.mpr nofun) (fun _ => rfl)
      (.cons x_evaluates .nil) ⟨_, List.mem_cons_self⟩
    cases hf
    exact hevaluates

end LiteralWitness

end CommonExpr
