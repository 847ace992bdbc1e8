import CommonExpr.Proofs.Fault
import CommonExpr.Proofs.Plan.Verdict

/-!
Conjunctions and disjunctions of many operands.

An operator takes two operands, so many of them are bracketed into a tree.  The
invariant of the induction over trees sums up the operands below a node by one
verdict.  Main statement: the outcome of the tree depends neither on the
brackets nor on the order of the operands.
-/

namespace CommonExpr

/-- Operands that one logical operator joins two at a time. -/
inductive Junction where
  | operand (p : Plan)
  | node (id : Int) (left right : Junction)

namespace Junction

/-- The operands from left to right. -/
def operands : Junction → List Plan
  | .operand p => [p]
  | .node _ left right => left.operands ++ right.operands

/-- The tree as a plan, of conjunctions when `decisive` is false and of
disjunctions when it is true. -/
def plan (decisive : Bool) : Junction → Plan
  | .operand p => p
  | .node id left right =>
      match decisive with
      | false => .and id (left.plan false) (right.plan false)
      | true => .or id (left.plan true) (right.plan true)

end Junction

/-- The outcome of a plan as an operand, with no wrapper around it. -/
def Plan.evalOperand (vars : Activation) (p : Plan) : Outcome Value := Value.unwrap <$> p.eval vars

/-- An error, or a value that is no truth value. -/
def IsFailure (r : Outcome Value) : Prop :=
  (∃ e, r = .error (.error e)) ∨ ∃ v, r = .ok v ∧ ∀ b, v ≠ .bool b

theorem not_isFailure_bool (b : Bool) : ¬ IsFailure (.ok (.bool b)) := by
  rintro (⟨e, he⟩ | ⟨v, hv, hother⟩)
  · cases he
  · cases hv
    exact hother b rfl

/-- The outcome that operands have together: that of an operand that decides,
else all unknown ids, else an error if one is a failure, else the other truth
value. -/
structure Combines (decisive : Bool) (results : List (Outcome Value)) (o : Outcome Value) :
    Prop where
  decided : .ok (.bool decisive) ∈ results → o = .ok (.bool decisive)
  unknown : .ok (.bool decisive) ∉ results → (∃ ids, .error (.unknown ids) ∈ results) →
    ∃ all : IdSet, o = .error (.unknown all) ∧
      ∀ x, x ∈ all.ids ↔ ∃ own : IdSet, .error (.unknown own) ∈ results ∧ x ∈ own.ids
  failed : .ok (.bool decisive) ∉ results → (∀ ids, .error (.unknown ids) ∉ results) →
    (∃ r ∈ results, IsFailure r) → ∃ e, o = .error (.error e)
  passed : (∀ r ∈ results, r = .ok (.bool !decisive)) → o = .ok (.bool !decisive)

namespace Verdict

/-- The invariant: the verdict of a node says of its operands what it does of a
single one. -/
def Sums (decisive : Bool) (results : List (Outcome Value)) : Verdict → Prop
  | .decided => .ok (.bool decisive) ∈ results
  | .unknown all => .ok (.bool decisive) ∉ results ∧ (∃ ids, .error (.unknown ids) ∈ results) ∧
      ∀ x, x ∈ all.ids ↔ ∃ own : IdSet, .error (.unknown own) ∈ results ∧ x ∈ own.ids
  | .failed => .ok (.bool decisive) ∉ results ∧ (∀ ids, .error (.unknown ids) ∉ results) ∧
      ∃ r ∈ results, IsFailure r
  | .passed => ∀ r ∈ results, r = .ok (.bool !decisive)

theorem sums_single {decisive : Bool} {o : Outcome Value} {verdict : Verdict}
    (hof : Of decisive o verdict) : verdict.Sums decisive [o] := by
  cases hof with
  | decided => simp [Sums]
  | passed => simp [Sums]
  | unknown ids => simp [Sums]
  | error e => simp [Sums, IsFailure]
  | other v hother => simpa [Sums, IsFailure, (hother decisive).symm] using hother

/-- What two lists of operands amount to, they amount to side by side as joined
verdicts, in each of the combinations of verdicts. -/
theorem Sums.append {decisive : Bool} {first second : List (Outcome Value)} {v w : Verdict}
    (hfirst : v.Sums decisive first) (hsecond : w.Sums decisive second) :
    (v.join w).Sums decisive (first ++ second) := by
  cases v <;> cases w <;> simp only [Sums, join, List.mem_append] at * <;> grind

theorem Sums.of_perm {decisive : Bool} {first second : List (Outcome Value)}
    {verdict : Verdict} (hperm : first.Perm second) (hsums : verdict.Sums decisive first) :
    verdict.Sums decisive second := by
  cases verdict <;> simpa only [Sums, hperm.mem_iff] using hsums

theorem ok_bool_ne_not (b : Bool) : (.ok (.bool b) : Outcome Value) ≠ .ok (.bool !b) := by
  simp

/-- An outcome that shows the verdict of operands is the one they have together. -/
theorem Sums.combines {decisive : Bool} {results : List (Outcome Value)} {o : Outcome Value}
    {verdict : Verdict} (hsums : verdict.Sums decisive results)
    (hshows : verdict.Shows decisive o) : Combines decisive results o := by
  cases verdict with
  | decided =>
      exact {
        decided := fun _ => hshows
        unknown := fun hundecided => absurd hsums hundecided
        failed := fun hundecided => absurd hsums hundecided
        passed := fun hpassed => absurd (hpassed _ hsums) (ok_bool_ne_not decisive) }
  | unknown all =>
      obtain ⟨hundecided, ⟨ids, hids⟩, hall⟩ := hsums
      exact {
        decided := fun hdecided => absurd hdecided hundecided
        unknown := fun _ _ => ⟨all, hshows, hall⟩
        failed := fun _ hknown => absurd hids (hknown ids)
        passed := fun hpassed => by cases hpassed _ hids }
  | failed =>
      obtain ⟨hundecided, hknown, r, hr, hfails⟩ := hsums
      refine {
        decided := fun hdecided => absurd hdecided hundecided
        unknown := fun _ ⟨ids, hids⟩ => absurd hids (hknown ids)
        failed := fun _ _ _ => hshows
        passed := fun hpassed => ?_ }
      rw [hpassed r hr] at hfails
      exact absurd hfails (not_isFailure_bool _)
  | passed =>
      refine {
        decided := fun hdecided => absurd (hsums _ hdecided) (ok_bool_ne_not decisive)
        unknown := fun _ ⟨ids, hids⟩ => by cases hsums _ hids
        failed := fun _ _ ⟨r, hr, hfails⟩ => ?_
        passed := fun _ => hshows }
      rw [hsums r hr] at hfails
      exact absurd hfails (not_isFailure_bool _)

end Verdict

namespace Junction

variable (decisive : Bool) (vars : Activation)

theorem eval_node (id : Int) (left right : Junction) :
    ((node id left right).plan decisive).eval vars =
      logic id (if decisive then Operator.logicalOr else Operator.logicalAnd) decisive
        ((left.plan decisive).eval vars) ((right.plan decisive).eval vars) := by
  cases decisive <;> rfl

/-- Step: a node shows what the operands below it amount to, if its two sides do. -/
theorem node_shows (id : Int) {left right : Junction} {v w : Verdict}
    (hleft : Verdict.Of decisive ((left.plan decisive).evalOperand vars) v)
    (hright : Verdict.Of decisive ((right.plan decisive).evalOperand vars) w) :
    (v.join w).Shows decisive (((node id left right).plan decisive).eval vars) := by
  rw [eval_node]
  exact logic_shows id _ hleft hright

/-- Run: a tree has the verdict that sums up its operands. -/
theorem exists_sums (t : Junction) :
    ∃ verdict : Verdict,
      Verdict.Of decisive ((t.plan decisive).evalOperand vars) verdict ∧
        verdict.Sums decisive (t.operands.map (Plan.evalOperand vars)) := by
  induction t with
  | operand p =>
      obtain ⟨verdict, hof⟩ := Verdict.exists_of decisive (p.evalOperand vars)
      exact ⟨verdict, hof, Verdict.sums_single hof⟩
  | node id left right ihleft ihright =>
      obtain ⟨v, hv, hleft⟩ := ihleft
      obtain ⟨w, hw, hright⟩ := ihright
      refine ⟨v.join w, (node_shows decisive vars id hv hw).of, ?_⟩
      rw [operands, List.map_append]
      exact hleft.append hright

/-- Brackets and order do not matter: two or more operands, joined in any way,
have the outcome that they have together. -/
theorem eval_combines_of_perm (t : Junction) (operands : List Plan)
    (hperm : t.operands.Perm operands) (hlength : 2 ≤ operands.length) :
    Combines decisive (operands.map (Plan.evalOperand vars)) ((t.plan decisive).eval vars) := by
  cases t with
  | operand p =>
      have hsingle : 1 = operands.length := hperm.length_eq
      omega
  | node id left right =>
      obtain ⟨v, hv, hleft⟩ := exists_sums decisive vars left
      obtain ⟨w, hw, hright⟩ := exists_sums decisive vars right
      have hsums := hleft.append hright
      rw [← List.map_append] at hsums
      exact (hsums.of_perm (hperm.map _)).combines (node_shows decisive vars id hv hw)

end Junction

namespace JunctionWitness

def x : Plan := .attribute (.named 1 "x" "" .empty [.mk ["x"] []])

def y : Plan := .attribute (.named 2 "y" "" .empty [.mk ["y"] []])

/-- Binds both variables to unknowns. -/
def host : Activation :=
  .ofBindings ⟨[("x", .error (.unknown (.ofList [7]))), ("y", .error (.unknown (.ofList [3])))]⟩

/-- `x && (1 && y)` -/
def conjunction : Junction :=
  .node 5 (.operand x) (.node 4 (.operand (.value 3 (.int 1))) (.operand y))

theorem conjunction_combines :
    conjunction.operands.Perm [.value 3 (.int 1), x, y] ∧
      (conjunction.plan false).eval host = .error (.unknown (.ofList [3, 7])) ∧
      Combines false ([.value 3 (.int 1), x, y].map (Plan.evalOperand host))
        ((conjunction.plan false).eval host) := by
  have hperm : conjunction.operands.Perm [.value 3 (.int 1), x, y] := List.Perm.swap _ _ _
  exact ⟨hperm, rfl, Junction.eval_combines_of_perm false host conjunction _ hperm (by decide)⟩

end JunctionWitness

end CommonExpr
