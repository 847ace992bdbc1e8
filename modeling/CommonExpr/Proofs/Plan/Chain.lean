import CommonExpr.Plan.Planner
import CommonExpr.Proofs.Plan.Steps
import Mathlib.Data.List.Forall2

/-!
Chains of selections and indexings.

Planning flattens the expression `e.f[k].g` into the attribute of `e` with three
accesses.  Here this is said of chains of any length, together with what planning
makes of operators, be they written as calls or with a receiver.
-/

namespace CommonExpr

/-- A plan and the attribute that it becomes have the same outcome. -/
theorem Plan.eval_toAttribute (vars : Activation) (o : Plan) :
    o.toAttribute.eval vars = o.eval vars := by
  unfold Plan.toAttribute
  split
  · rfl
  · rw [Attribute.eval_relative]
    exact bind_pure (o.eval vars)

namespace Planner

variable (p : Planner)

/-- An expression is planned as an operator on these operands.  A receiver is the
first operand, unless it turns out to be part of a function's name. -/
inductive Applies (operator : String) : Expr → (id : Int) → List Expr → Prop where
  | call {id : Int} {function : String} {args : List Expr}
      (hname : Operator.canonical function = operator) :
      Applies operator (.call id function args) id args
  | member {id : Int} {target : Expr} {function : String} {args : List Expr}
      (hname : Operator.canonical function = operator)
      (hmethod : p.qualifiedFunction? target operator = none) :
      Applies operator (.memberCall id target function args) id (target :: args)

variable {p}

theorem plan_of_applies {operator : String} {e : Expr} {id : Int} {operands : List Expr}
    (happlies : p.Applies operator e id operands) :
    p.plan e = p.planAll operands >>= p.callOn id operator := by
  cases happlies with
  | call hname =>
      rw [plan, hname]
      cases p.planAll operands <;> rfl
  | @member _ target function args hname hmethod =>
      rw [plan, hname, hmethod, planAll]
      cases p.plan target with
      | error f => rfl
      | ok receiver => cases p.planAll args <;> rfl

theorem planAll_eq_ok_iff (es : List Expr) (plans : List Plan) :
    p.planAll es = .ok plans ↔ List.Forall₂ (fun e o => p.plan e = .ok o) es plans := by
  induction es generalizing plans with
  | nil => cases plans <;> simp [planAll]
  | cons e rest ih =>
      rw [planAll, List.forall₂_cons_left_iff]
      cases he : p.plan e with
      | error f => simp
      | ok o =>
          simp only [Except.ok.injEq, ← ih]
          cases hrest : p.planAll rest with
          | error f => simp
          | ok tail => simp [eq_comm]

theorem planPairs_cons_iff {id : Int} {key value : Expr} {rest : List Entry}
    {pairs : List (Plan × Plan)} :
    p.planPairs (.pair id key value :: rest) = .ok pairs ↔ ∃ k v tail,
      p.plan key = .ok k ∧ p.plan value = .ok v ∧ p.planPairs rest = .ok tail ∧
        pairs = (k, v) :: tail := by
  rw [planPairs]
  cases p.plan key with
  | error f => simp
  | ok k =>
      cases p.plan value with
      | error f => simp
      | ok v =>
          cases p.planPairs rest with
          | error f => simp
          | ok tail => simp [eq_comm]

theorem planFields_cons_iff {message : String} {id : Int} {name : String} {value : Expr}
    {rest : List Entry} {fields : List (String × Plan)} :
    p.planFields message (.field id name value :: rest) = .ok fields ↔ ∃ v tail,
      p.plan value = .ok v ∧ p.planFields message rest = .ok tail ∧
        fields = (name, v) :: tail := by
  rw [planFields]
  cases p.plan value with
  | error f => simp
  | ok v =>
      cases p.planFields message rest with
      | error f => simp
      | ok tail => simp [eq_comm]

/-- An operator is planned if its operands are and they are as many as it takes. -/
theorem plan_eq_ok_iff_of_applies {operator : String} {e : Expr} {id : Int}
    {operands : List Expr} (happlies : p.Applies operator e id operands) (o : Plan) :
    p.plan e = .ok o ↔ ∃ plans,
      List.Forall₂ (fun e o => p.plan e = .ok o) operands plans ∧
        p.callOn id operator plans = .ok o := by
  rw [plan_of_applies happlies]
  simp only [← planAll_eq_ok_iff]
  cases p.planAll operands with
  | error f =>
      constructor
      · intro hcall
        cases hcall
      · rintro ⟨plans, hplans, -⟩
        cases hplans
  | ok all =>
      constructor
      · exact fun hcall => ⟨all, rfl, hcall⟩
      · rintro ⟨plans, hplans, hcall⟩
        cases hplans
        exact hcall

theorem plan_select_iff {id : Int} {operand : Expr} {field : String} {o : Plan} :
    p.plan (.select id operand field) = .ok o ↔
      ∃ a, p.plan operand = .ok a ∧ o = .attribute (a.toAttribute.add (.field id field)) := by
  rw [plan]
  cases p.plan operand with
  | error f => simp
  | ok a => simp [eq_comm]

theorem plan_index_iff {e operand key : Expr} {id : Int} {o : Plan}
    (happlies : p.Applies Operator.index e id [operand, key]) :
    p.plan e = .ok o ↔ ∃ a k, p.plan operand = .ok a ∧ p.plan key = .ok k ∧
      o = .attribute (a.toAttribute.add (indexAccess id k)) := by
  rw [plan_eq_ok_iff_of_applies happlies]
  constructor
  · rintro ⟨plans, hplans, hcall⟩
    obtain ⟨a, _, ha, hrest, rfl⟩ := List.forall₂_cons_left_iff.mp hplans
    obtain ⟨k, _, hk, hnil, rfl⟩ := List.forall₂_cons_left_iff.mp hrest
    obtain rfl := List.forall₂_nil_left_iff.mp hnil
    cases hcall
    exact ⟨a, k, ha, hk, rfl⟩
  · rintro ⟨a, k, ha, hk, rfl⟩
    exact ⟨[a, k], .cons ha (.cons hk .nil), rfl⟩

theorem plan_conditional_iff {e c t f : Expr} {id : Int} {o : Plan}
    (happlies : p.Applies Operator.conditional e id [c, t, f]) :
    p.plan e = .ok o ↔ ∃ condition yes no,
      p.plan c = .ok condition ∧ p.plan t = .ok yes ∧ p.plan f = .ok no ∧
        o = .attribute (.conditional id condition yes.toAttribute no.toAttribute) := by
  rw [plan_eq_ok_iff_of_applies happlies]
  constructor
  · rintro ⟨plans, hplans, hcall⟩
    obtain ⟨condition, _, hc, hbranches, rfl⟩ := List.forall₂_cons_left_iff.mp hplans
    obtain ⟨yes, _, ht, hlast, rfl⟩ := List.forall₂_cons_left_iff.mp hbranches
    obtain ⟨no, _, hf, hnil, rfl⟩ := List.forall₂_cons_left_iff.mp hlast
    obtain rfl := List.forall₂_nil_left_iff.mp hnil
    cases hcall
    exact ⟨condition, yes, no, hc, ht, hf, rfl⟩
  · rintro ⟨condition, yes, no, hc, ht, hf, rfl⟩
    exact ⟨[condition, yes, no], .cons hc (.cons ht (.cons hf .nil)), rfl⟩

variable (p)

/-- An expression is a chain of accesses on another one, the innermost first. -/
inductive Chain (base : Expr) : Expr → List Access → Prop where
  | nil : Chain base base []
  | select {e : Expr} {accesses : List Access} (id : Int) (field : String)
      (hchain : Chain base e accesses) :
      Chain base (.select id e field) (accesses ++ [.field id field])
  | index {e e' key : Expr} {accesses : List Access} {id : Int} {k : Plan}
      (hchain : Chain base e accesses) (happlies : p.Applies Operator.index e' id [e, key])
      (hkey : p.plan key = .ok k) :
      Chain base e' (accesses ++ [indexAccess id k])

variable {p}

/-- The attribute of a chain is that of its base with all accesses added. -/
theorem Chain.exists_plan {base e : Expr} {accesses : List Access} {b : Plan}
    (hchain : p.Chain base e accesses) (hbase : p.plan base = .ok b) :
    ∃ o, p.plan e = .ok o ∧
      o.toAttribute = accesses.foldl (fun a access => a.add access) b.toAttribute := by
  induction hchain with
  | nil => exact ⟨b, hbase, rfl⟩
  | select id field hchain ih =>
      obtain ⟨o, ho, hadded⟩ := ih
      refine ⟨_, plan_select_iff.mpr ⟨o, ho, rfl⟩, ?_⟩
      rw [List.foldl_append, ← hadded]
      rfl
  | index hchain happlies hkey ih =>
      obtain ⟨o, ho, hadded⟩ := ih
      refine ⟨_, (plan_index_iff happlies).mpr ⟨o, _, ho, hkey, rfl⟩, ?_⟩
      rw [List.foldl_append, ← hadded]
      rfl

end Planner

end CommonExpr
