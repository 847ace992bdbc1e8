import CommonExpr.Plan.Evaluation

/-!
What operands contribute to a logical operator.

Of an operand a logical operator asks one of four things only: whether it
decides, whether it is unknown and by which ids, whether it fails, or whether it
passes without deciding anything.  These verdicts have a join, and the operator
computes it.
-/

namespace CommonExpr

/-- What an operand of a logical operator amounts to. -/
inductive Verdict where
  /-- The truth value that leaves the decision to others. -/
  | passed
  /-- An error, or a value that is no truth value. -/
  | failed
  | unknown (ids : IdSet)
  /-- The truth value that decides. -/
  | decided

namespace Verdict

/-- The verdict of two operands: the stronger one, and of two unknowns both. -/
def join : Verdict → Verdict → Verdict
  | .decided, _ => .decided
  | _, .decided => .decided
  | .unknown a, .unknown b => .unknown (a.union b)
  | .unknown a, _ => .unknown a
  | _, .unknown b => .unknown b
  | .failed, _ => .failed
  | _, .failed => .failed
  | .passed, .passed => .passed

/-- The verdict of an unwrapped outcome. -/
inductive Of (decisive : Bool) : Outcome Value → Verdict → Prop where
  | decided : Of decisive (.ok (.bool decisive)) .decided
  | passed : Of decisive (.ok (.bool !decisive)) .passed
  | unknown (ids : IdSet) : Of decisive (.error (.unknown ids)) (.unknown ids)
  | error (e : Error) : Of decisive (.error (.error e)) .failed
  | other (v : Value) (hother : ∀ b, v ≠ .bool b) : Of decisive (.ok v) .failed

/-- The outcomes in which a verdict of a whole operator shows. -/
def Shows (decisive : Bool) (o : Outcome Value) : Verdict → Prop
  | .decided => o = .ok (.bool decisive)
  | .passed => o = .ok (.bool !decisive)
  | .unknown ids => o = .error (.unknown ids)
  | .failed => ∃ e, o = .error (.error e)

theorem exists_of (decisive : Bool) (o : Outcome Value) : ∃ verdict, Of decisive o verdict := by
  cases o with
  | error f =>
      cases f with
      | error e => exact ⟨_, .error e⟩
      | unknown ids => exact ⟨_, .unknown ids⟩
  | ok v =>
      by_cases hbool : ∃ b, v = .bool b
      · obtain ⟨b, rfl⟩ := hbool
        by_cases hdecisive : b = decisive
        · subst hdecisive
          exact ⟨_, .decided⟩
        · rw [Bool.eq_not_of_ne hdecisive]
          exact ⟨_, .passed⟩
      · exact ⟨_, .other v fun b hv => hbool ⟨b, hv⟩⟩

/-- What shows as a verdict has it: nothing is wrapped any more. -/
theorem Shows.of {decisive : Bool} {o : Outcome Value} {verdict : Verdict}
    (hshows : verdict.Shows decisive o) : Of decisive (Value.unwrap <$> o) verdict := by
  cases verdict with
  | passed =>
      rw [show o = .ok (.bool !decisive) from hshows]
      exact .passed
  | failed =>
      obtain ⟨e, rfl⟩ := hshows
      exact .error e
  | unknown ids =>
      rw [show o = .error (.unknown ids) from hshows]
      exact .unknown ids
  | decided =>
      rw [show o = .ok (.bool decisive) from hshows]
      exact .decided

end Verdict

variable {decisive : Bool} {left right : Outcome Value}

/-- A logical operator shows the join of the verdicts of its operands. -/
theorem logic_shows (id : Int) (function : String) {v w : Verdict}
    (hleft : Verdict.Of decisive (Value.unwrap <$> left) v)
    (hright : Verdict.Of decisive (Value.unwrap <$> right) w) :
    (v.join w).Shows decisive (logic id function decisive left right) := by
  unfold logic
  generalize Value.unwrap <$> left = l at hleft ⊢
  generalize Value.unwrap <$> right = r at hright ⊢
  cases hleft <;> cases hright <;>
    simp [isBool, Verdict.join, Verdict.Shows, noOverload, fail, Fault.merge, *]

/-- A logical operator has a value if an operand decides, or if both pass. -/
theorem logic_eq_ok_iff {id : Int} {function : String} {value : Value} :
    logic id function decisive left right = .ok value ↔
      (value = .bool decisive ∧ (Value.unwrap <$> left = .ok (.bool decisive) ∨
        Value.unwrap <$> right = .ok (.bool decisive))) ∨
      (value = .bool !decisive ∧ Value.unwrap <$> left = .ok (.bool !decisive) ∧
        Value.unwrap <$> right = .ok (.bool !decisive)) := by
  obtain ⟨v, hleft⟩ := Verdict.exists_of decisive (Value.unwrap <$> left)
  obtain ⟨w, hright⟩ := Verdict.exists_of decisive (Value.unwrap <$> right)
  have hshows := logic_shows id function hleft hright
  generalize logic id function decisive left right = o at hshows ⊢
  generalize Value.unwrap <$> left = l at hleft ⊢
  generalize Value.unwrap <$> right = r at hright ⊢
  cases hleft <;> cases hright <;> simp only [Verdict.join, Verdict.Shows] at hshows <;> grind

end CommonExpr
