import CommonExpr.Proofs.Library.Standard
import CommonExpr.Proofs.Library.Strings
import CommonExpr.Proofs.Plan.Invariant

/-!
Where faults come from.

Faults arise in many places: in functions, in accesses, and in data that turn out
not to be readable.  Main statement: under the standard libraries every error that
evaluation reports is one of a node of the expression or one that the activation
binds, and every unknown is one that the activation binds.
-/

namespace CommonExpr

open Outcome

/-- Whether functions come from the libraries, with zones from a lookup, and types from a
schema, if from anywhere. -/
structure Planner.IsStandard (p : Planner) (named? : String → Option ZoneRule) : Prop where
  registries : ∀ r ∈ p.dispatcher.registries, r = Library.standard named? ∨ r = Library.strings
  provider : p.provider = .empty ∨ ∃ schema, p.provider = .ofSchema schema

variable {p : Planner} {named? : String → Option ZoneRule}

theorem Planner.IsStandard.dispatcher_keeps (hp : p.IsStandard named?) {V : Value → Prop}
    (hV : Value.Invariant V) : p.dispatcher.Keeps V := by
  intro r hr
  rcases hp.registries r hr with rfl | rfl
  · exact Library.standard_keeps hV named?
  · exact Library.strings_keeps hV

theorem Planner.IsStandard.keeps_trivial (hp : p.IsStandard named?) :
    p.Keeps fun _ => True where
  values := .trivial
  dispatcher := hp.dispatcher_keeps .trivial
  provider := by
    rcases hp.provider with hempty | ⟨schema, hschema⟩
    · rw [hempty]
      exact Provider.empty_keeps .trivial
    · rw [hschema]
      exact Provider.ofSchema_keeps .trivial (fun _ _ _ _ _ _ _ _ _ _ => trivial)
        fun _ _ _ _ _ => trivial

namespace Activation

/-- Whether some name is bound to the error, or to one that carries it. -/
def BindsError (vars : Activation) (x : Error) : Prop :=
  ∃ name e, vars.resolve name = some (.error (.error e)) ∧ x ∈ e :: e.additional

/-- Whether some name is bound to a set of unknowns. -/
def BindsUnknowns (vars : Activation) (ids : IdSet) : Prop :=
  ∃ name, vars.resolve name = some (.error (.unknown ids))

/-- Whether an error is one of the nodes, or is bound under the same id and tells
the same. -/
def Explains (vars : Activation) (nodes : List Int) (x : Error) : Prop :=
  x.id ∈ nodes ∨
    ∃ y, vars.BindsError y ∧ x.id = y.id ∧ x.kind = y.kind ∧ x.message = y.message

/-- Whether each error is explained, or each unknown id comes from a set that is bound. -/
def Accounts (vars : Activation) (nodes : List Int) : Fault → Prop
  | .error e => ∀ x ∈ e :: e.additional, vars.Explains nodes x
  | .unknown s =>
      (∃ bound, vars.BindsUnknowns bound) ∧
        ∀ id ∈ s.ids, ∃ bound, vars.BindsUnknowns bound ∧ id ∈ bound.ids

theorem accounts_merge (vars : Activation) (nodes : List Int) :
    Fault.Merges (vars.Accounts nodes) := by
  intro f g hf hg
  cases f with
  | error a =>
      cases g with
      | unknown ids => exact hg
      | error b =>
          obtain ⟨ha, hadditional⟩ := List.forall_mem_cons.mp hf
          obtain ⟨hb, hothers⟩ := List.forall_mem_cons.mp hg
          exact List.forall_mem_cons.mpr ⟨ha, List.forall_mem_append.mpr
            ⟨hadditional, List.forall_mem_cons.mpr ⟨hb, hothers⟩⟩⟩
  | unknown ids =>
      cases g with
      | error b => exact hf
      | unknown ids' =>
          refine ⟨hf.1, fun id hid => ?_⟩
          rcases (IdSet.mem_union ids ids').mp hid with hid | hid
          · exact hf.2 id hid
          · exact hg.2 id hid

theorem accounts_node (vars : Activation) (nodes : List Int) (id : Int) (f : Fault)
    (hid : id ∈ nodes) (hf : f.At id) : vars.Accounts nodes f := by
  cases f with
  | unknown ids => exact hf.elim
  | error e =>
      refine List.forall_mem_cons.mpr ⟨Or.inl (hf.1 ▸ hid), fun x hx => ?_⟩
      exact Or.inl ((hf.2 x hx).1 ▸ hid)

theorem accounts_bound (vars : Activation) (nodes : List Int) (name : String) (f : Fault)
    (hbound : vars.resolve name = some (.error f)) : vars.Accounts nodes f := by
  cases f with
  | error e => exact fun x hx => Or.inr ⟨x, ⟨name, e, hbound, hx⟩, rfl, rfl, rfl⟩
  | unknown ids => exact ⟨⟨ids, name, hbound⟩, fun id hid => ⟨ids, ⟨name, hbound⟩, hid⟩⟩

theorem supports_accounts (vars : Activation) (nodes : List Int) :
    vars.Supports (fun _ => True) (vars.Accounts nodes) (· ∈ nodes) where
  values := .trivial
  merges := vars.accounts_merge nodes
  nodes := vars.accounts_node nodes
  bound name _ hbound :=
    ⟨fun _ => trivial, fun herror => vars.accounts_bound nodes name _ (herror ▸ hbound)⟩

end Activation

/-- What evaluation fails with is accounted for. -/
theorem Planner.IsStandard.accounts (hp : p.IsStandard named?) {e : Expr} {plan : Plan}
    (hplan : p.plan e = .ok plan) (vars : Activation) {f : Fault}
    (hfault : plan.eval vars = .error f) : vars.Accounts e.ids f := by
  have hkeeps := Planner.plan_keeps hp.keeps_trivial e (fun _ hid => hid) hplan
  exact (Plan.eval_meets (vars.supports_accounts e.ids) plan hkeeps).fault hfault

/-- Every error is one of a node or a bound one, every unknown a bound one.  Where
no fault is bound, nothing is unknown and every error is one of a node. -/
theorem Planner.eval_fault_provenance (hp : p.IsStandard named?) {e : Expr} {plan : Plan}
    (hplan : p.plan e = .ok plan) (vars : Activation) :
    (∀ err, plan.eval vars = .error (.error err) → ∀ x ∈ err :: err.additional,
      x.id ∈ e.ids ∨
        ∃ y, vars.BindsError y ∧ x.id = y.id ∧ x.kind = y.kind ∧ x.message = y.message) ∧
    (∀ s, plan.eval vars = .error (.unknown s) →
      ∀ id ∈ s.ids, ∃ bound, vars.BindsUnknowns bound ∧ id ∈ bound.ids) ∧
    ((∀ name f, vars.resolve name ≠ some (.error f)) →
      (∀ s, plan.eval vars ≠ .error (.unknown s)) ∧
      ∀ err, plan.eval vars = .error (.error err) → ∀ x ∈ err :: err.additional, x.id ∈ e.ids) := by
  have haccounts : ∀ {f}, plan.eval vars = .error f → vars.Accounts e.ids f :=
    fun hfault => hp.accounts hplan vars hfault
  refine ⟨fun err herr => haccounts herr, fun s hs => (haccounts hs).2, fun hfree => ⟨?_, ?_⟩⟩
  · intro s hs
    obtain ⟨⟨bound, name, hbound⟩, -⟩ := haccounts hs
    exact hfree name _ hbound
  · intro err herr x hx
    rcases haccounts herr x hx with hnode | ⟨y, ⟨name, bound, hbound, -⟩, -⟩
    · exact hnode
    · exact absurd hbound (hfree name _)

namespace ProvenanceWitness

/-- `x + 1 / 0` -/
def sum : Expr :=
  .call 5 "_+_" [.ident 1 "x",
    .call 4 "_/_" [.literal 2 (.scalar (.int 1)), .literal 3 (.scalar (.int 0))]]

def planner : Planner := ⟨⟨[Library.standard namedZone?, Library.strings]⟩, .empty, {}⟩

def planned : Plan :=
  .call 5 "_+_" (planner.dispatcher.candidates "_+_") [.attribute (planner.identifier 1 "x"),
    .call 4 "_/_" (planner.dispatcher.candidates "_/_")
      [.value 2 (.int 1), .value 3 (.int 0)]]

/-- An error that came from elsewhere, with one beside it. -/
def elsewhere : Error :=
  ⟨77, .reported .parse "no number", [⟨78, .keyNotFound, []⟩]⟩

def host : Activation := .ofBindings ⟨[("x", .error (.error elsewhere))]⟩

/-- What is reported: the division beside the error that `x` is bound to. -/
def reported : Error := elsewhere.add ⟨4, .divisionByZero .int, []⟩

theorem planner_isStandard : planner.IsStandard namedZone? where
  registries := by simp [planner]
  provider := Or.inl rfl

theorem planned_of_sum : planner.plan sum = .ok planned := rfl

theorem sum_fault_provenance :
    planner.plan sum = .ok planned ∧ planned.eval host = .error (.error reported) ∧
      (reported :: reported.additional).map Error.id = [77, 78, 4] ∧
      ∀ x ∈ reported :: reported.additional,
        x.id ∈ sum.ids ∨
          ∃ y, host.BindsError y ∧ x.id = y.id ∧ x.kind = y.kind ∧ x.message = y.message :=
  ⟨planned_of_sum, rfl, rfl,
    (Planner.eval_fault_provenance planner_isStandard planned_of_sum host).1 reported rfl⟩

end ProvenanceWitness

end CommonExpr
