import CommonExpr.Proofs.Plan.Chain

/-!
Accesses compose.

Accesses are moved into the attribute that they are made on, and through a
condition into both of its branches.  Unless an identifier stands at the root,
where a field may belong to a name, this changes nothing.  Main statement: an
access on an expression is evaluated after the expression, and accesses
distribute over conditions.
-/

namespace CommonExpr

namespace Attribute

/-- No branch of an attribute is a name, so that accesses are just appended. -/
def Settled : Attribute → Prop
  | .named _ _ _ _ _ => False
  | .relative _ _ _ => True
  | .conditional _ _ yes no => yes.Settled ∧ no.Settled

theorem settled_add (access : Access) (a : Attribute) :
    (a.add access).Settled ↔ a.Settled := by
  match a with
  | .named _ _ _ _ _ => exact Iff.rfl
  | .relative _ _ _ => exact Iff.rfl
  | .conditional _ _ yes no =>
      exact and_congr (settled_add access yes) (settled_add access no)

/-- An access added to a settled attribute is made on its value.  Conditions
within conditions are one induction, in which both branches take the access. -/
theorem eval_add (vars : Activation) (access : Access) (a : Attribute)
    (hsettled : a.Settled) :
    (a.add access).eval vars = a.eval vars >>= fun v => access.apply vars v := by
  match a with
  | .relative id operand accesses =>
      rw [add, eval_relative, eval_relative, bind_assoc]
      congr
      funext v
      rw [Access.applyAll_append]
      congr
      funext part
      rw [Access.applyAll_cons]
      exact bind_pure (access.apply vars part)
  | .conditional id condition yes no =>
      rw [add, eval_conditional, eval_conditional, eval_add vars access yes hsettled.1,
        eval_add vars access no hsettled.2, bind_assoc]
      congr
      funext v
      unfold chosen
      split <;> rfl

end Attribute

theorem Plan.settled_toAttribute {o : Plan} (hother : ∀ a, o ≠ .attribute a) :
    o.toAttribute.Settled := by
  unfold Plan.toAttribute
  split
  · next a => exact absurd rfl (hother a)
  · exact trivial

namespace Planner

variable (p : Planner)

theorem eval_indexAccess (vars : Activation) (id : Int) (key : Plan) (v : Value) :
    (indexAccess id key).apply vars v = key.eval vars >>= v.index id := by
  unfold indexAccess
  split <;> rfl

/-- An expression with an identifier at its root: under selections and indexings,
or in a branch of a condition. -/
inductive IdentRooted : Expr → Prop where
  | ident (id : Int) (name : String) : IdentRooted (.ident id name)
  | select {e : Expr} (id : Int) (field : String) (hroot : IdentRooted e) :
      IdentRooted (.select id e field)
  | index {e operand key : Expr} {id : Int}
      (happlies : p.Applies Operator.index e id [operand, key])
      (hroot : IdentRooted operand) : IdentRooted e
  | yes {e c t f : Expr} {id : Int}
      (happlies : p.Applies Operator.conditional e id [c, t, f])
      (hroot : IdentRooted t) : IdentRooted e
  | no {e c t f : Expr} {id : Int}
      (happlies : p.Applies Operator.conditional e id [c, t, f])
      (hroot : IdentRooted f) : IdentRooted e

variable {p}

/-- Only conditions and indexings are planned as attributes. -/
theorem callOn_cases {operator : String} {id : Int} {operands : List Plan} {o : Plan}
    (hcall : p.callOn id operator operands = .ok o) :
    (operator = Operator.conditional ∧ ∃ c t f, operands = [c, t, f] ∧
        o = .attribute (.conditional id c t.toAttribute f.toAttribute)) ∨
      (operator = Operator.index ∧ ∃ a k, operands = [a, k] ∧
        o = .attribute (a.toAttribute.add (indexAccess id k))) ∨
      ∀ a, o ≠ .attribute a := by
  unfold callOn at hcall
  split at hcall
  · split at hcall <;> cases hcall
    exact Or.inr (Or.inr fun a h => by cases h)
  split at hcall
  · split at hcall <;> cases hcall
    exact Or.inr (Or.inr fun a h => by cases h)
  split at hcall
  · next hoperator =>
      split at hcall <;> cases hcall
      exact Or.inl ⟨hoperator, _, _, _, rfl, rfl⟩
  split at hcall
  · next hoperator =>
      split at hcall <;> cases hcall
      exact Or.inr (Or.inl ⟨hoperator, _, _, rfl, rfl⟩)
  · cases hcall
    exact Or.inr (Or.inr fun a h => by cases h)

/-- Step: an operator with a name at the root has an operand with one. -/
theorem identRooted_of_applies {operator : String} {e : Expr} {id : Int}
    {operands : List Expr} {o : Plan} (happlies : p.Applies operator e id operands)
    (hplan : p.plan e = .ok o) (hroot : ¬ o.toAttribute.Settled)
    (hoperands : ∀ operand ∈ operands, ∀ o, p.plan operand = .ok o →
      ¬ o.toAttribute.Settled → p.IdentRooted operand) :
    p.IdentRooted e := by
  obtain ⟨plans, hplans, hcall⟩ := (plan_eq_ok_iff_of_applies happlies o).mp hplan
  rcases callOn_cases hcall with ⟨rfl, c, t, f, rfl, rfl⟩ | ⟨rfl, a, k, rfl, rfl⟩ | hother
  · obtain ⟨ec, _, hc, hbranches, rfl⟩ := List.forall₂_cons_right_iff.mp hplans
    obtain ⟨et, _, ht, hlast, rfl⟩ := List.forall₂_cons_right_iff.mp hbranches
    obtain ⟨ef, _, hf, hnil, rfl⟩ := List.forall₂_cons_right_iff.mp hlast
    obtain rfl := List.forall₂_nil_right_iff.mp hnil
    by_cases hyes : t.toAttribute.Settled
    · have hno : ¬ f.toAttribute.Settled := fun hno => hroot ⟨hyes, hno⟩
      exact .no happlies (hoperands ef (by simp) f hf hno)
    · exact .yes happlies (hoperands et (by simp) t ht hyes)
  · obtain ⟨ea, _, ha, hkey, rfl⟩ := List.forall₂_cons_right_iff.mp hplans
    obtain ⟨ek, _, hk, hnil, rfl⟩ := List.forall₂_cons_right_iff.mp hkey
    obtain rfl := List.forall₂_nil_right_iff.mp hnil
    have hoperand : ¬ a.toAttribute.Settled := by
      rwa [Plan.toAttribute, Attribute.settled_add] at hroot
    exact .index happlies (hoperands ea (by simp) a ha hoperand)
  · exact absurd (Plan.settled_toAttribute hother) hroot

/-- Only an identifier at the root is planned as an attribute with a name in a
branch. -/
theorem identRooted_of_plan (e : Expr) (o : Plan) (hplan : p.plan e = .ok o)
    (hroot : ¬ o.toAttribute.Settled) : p.IdentRooted e := by
  match e with
  | .literal id value =>
      cases hplan
      exact absurd trivial hroot
  | .ident id name => exact .ident id name
  | .select id operand field =>
      obtain ⟨a, ha, rfl⟩ := plan_select_iff.mp hplan
      rw [Plan.toAttribute, Attribute.settled_add] at hroot
      exact .select id field (identRooted_of_plan operand a ha hroot)
  | .has id operand field =>
      rw [plan] at hplan
      split at hplan <;> cases hplan
      exact absurd trivial hroot
  | .call id function args =>
      refine identRooted_of_applies (.call rfl) hplan hroot ?_
      intro operand hmem a
      exact identRooted_of_plan operand a
  | .memberCall id target function args =>
      cases hmethod : p.qualifiedFunction? target (Operator.canonical function) with
      | some known =>
          rw [plan, hmethod] at hplan
          dsimp only at hplan
          split at hplan <;> cases hplan
          exact absurd trivial hroot
      | none =>
          refine identRooted_of_applies (.member rfl hmethod) hplan hroot ?_
          intro operand hmem a
          exact identRooted_of_plan operand a
  | .list id elements =>
      rw [plan] at hplan
      split at hplan <;> cases hplan
      exact absurd trivial hroot
  | .struct id message entries =>
      rw [plan] at hplan
      split at hplan <;> split at hplan <;> cases hplan
      · exact absurd trivial hroot
      · refine absurd (Plan.settled_toAttribute fun a => ?_) hroot
        unfold messageOn
        split <;> simp
termination_by sizeOf e
decreasing_by
  · decreasing_tactic
  · have hsize := List.sizeOf_lt_of_mem hmem
    simp only [Expr.call.sizeOf_spec]
    omega
  · have hsize := List.sizeOf_lt_of_mem hmem
    simp only [Expr.memberCall.sizeOf_spec, List.cons.sizeOf_spec] at hsize ⊢
    omega

theorem not_settled_of_identRooted {e : Expr} {o : Plan} (hroot : p.IdentRooted e)
    (hplan : p.plan e = .ok o) : ¬ o.toAttribute.Settled := by
  induction hroot generalizing o with
  | ident id name =>
      cases hplan
      exact fun hsettled => hsettled
  | select id field hroot ih =>
      obtain ⟨a, ha, rfl⟩ := plan_select_iff.mp hplan
      rw [Plan.toAttribute, Attribute.settled_add]
      exact ih ha
  | index happlies hroot ih =>
      obtain ⟨a, k, ha, hk, rfl⟩ := (plan_index_iff happlies).mp hplan
      rw [Plan.toAttribute, Attribute.settled_add]
      exact ih ha
  | yes happlies hroot ih =>
      obtain ⟨condition, yes, no, hc, ht, hf, rfl⟩ := (plan_conditional_iff happlies).mp hplan
      exact fun hsettled => ih ht hsettled.1
  | no happlies hroot ih =>
      obtain ⟨condition, yes, no, hc, ht, hf, rfl⟩ := (plan_conditional_iff happlies).mp hplan
      exact fun hsettled => ih hf hsettled.2

/-- An access added to the plan of an expression without a name at its root is
made on the value of the expression. -/
theorem eval_add_of_not_identRooted {e : Expr} {o : Plan} (hplan : p.plan e = .ok o)
    (hroot : ¬ p.IdentRooted e) (vars : Activation) (access : Access) :
    (o.toAttribute.add access).eval vars =
      o.eval vars >>= fun v => access.apply vars v := by
  have hsettled : o.toAttribute.Settled := by
    by_contra hnot
    exact hroot (identRooted_of_plan e o hplan hnot)
  rw [Attribute.eval_add vars access o.toAttribute hsettled, Plan.eval_toAttribute]

/-- A selection on a condition is planned as the condition of the selections. -/
theorem plan_select_conditional {e e' c t f : Expr} {id sid : Int} {field : String}
    (he : p.Applies Operator.conditional e id [c, t, f])
    (he' : p.Applies Operator.conditional e' id [c, .select sid t field, .select sid f field])
    (o : Plan) : p.plan (.select sid e field) = .ok o ↔ p.plan e' = .ok o := by
  rw [plan_select_iff, plan_conditional_iff he']
  simp only [plan_conditional_iff he, plan_select_iff]
  constructor
  · rintro ⟨_, ⟨condition, yes, no, hc, ht, hf, rfl⟩, rfl⟩
    exact ⟨condition, _, _, hc, ⟨yes, ht, rfl⟩, ⟨no, hf, rfl⟩, rfl⟩
  · rintro ⟨condition, _, _, hc, ⟨yes, ht, rfl⟩, ⟨no, hf, rfl⟩, rfl⟩
    exact ⟨_, ⟨condition, yes, no, hc, ht, hf, rfl⟩, rfl⟩

/-- An indexing of a condition is planned as the condition of the indexings. -/
theorem plan_index_conditional {e e' c t f key u t' f' : Expr} {id kid : Int}
    (he : p.Applies Operator.conditional e id [c, t, f])
    (hu : p.Applies Operator.index u kid [e, key])
    (ht' : p.Applies Operator.index t' kid [t, key])
    (hf' : p.Applies Operator.index f' kid [f, key])
    (he' : p.Applies Operator.conditional e' id [c, t', f'])
    (o : Plan) : p.plan u = .ok o ↔ p.plan e' = .ok o := by
  rw [plan_index_iff hu, plan_conditional_iff he']
  simp only [plan_conditional_iff he, plan_index_iff ht', plan_index_iff hf']
  constructor
  · rintro ⟨_, k, ⟨condition, yes, no, hc, ht, hf, rfl⟩, hk, rfl⟩
    exact ⟨condition, _, _, hc, ⟨yes, k, ht, hk, rfl⟩, ⟨no, k, hf, hk, rfl⟩, rfl⟩
  · rintro ⟨condition, _, _, hc, ⟨yes, k, ht, hk, rfl⟩, ⟨no, k', hf, hk', rfl⟩, rfl⟩
    rw [hk, Except.ok.injEq] at hk'
    subst hk'
    exact ⟨_, k, ⟨condition, yes, no, hc, ht, hf, rfl⟩, hk, rfl⟩

/-- Accesses compose: without a name at the root, an access is made on the value
of its operand, after which its key is evaluated; and in every case accesses on a
condition have the same plan as the condition of the accesses. -/
theorem accesses_compose (p : Planner) :
    (∀ e o, p.plan e = .ok o → ¬ p.IdentRooted e →
      (∀ id field, ∃ s, p.plan (.select id e field) = .ok s ∧
        ∀ vars, s.eval vars = o.eval vars >>= fun v => v.field id field) ∧
      (∀ u id key k, p.Applies Operator.index u id [e, key] → p.plan key = .ok k →
        ∃ s, p.plan u = .ok s ∧ ∀ vars, s.eval vars =
          o.eval vars >>= fun v => k.eval vars >>= fun i => v.index id i) ∧
      (∀ id field, ∃ s, p.plan (.has id e field) = .ok s ∧
        ∀ vars, s.eval vars = o.eval vars >>= fun v => .bool <$> v.isSet id field)) ∧
    (∀ e id c t f, p.Applies Operator.conditional e id [c, t, f] →
      (∀ sid field e', p.Applies Operator.conditional e' id
          [c, .select sid t field, .select sid f field] →
        ∀ s, p.plan (.select sid e field) = .ok s ↔ p.plan e' = .ok s) ∧
      (∀ kid key u t' f' e', p.Applies Operator.index u kid [e, key] →
        p.Applies Operator.index t' kid [t, key] → p.Applies Operator.index f' kid [f, key] →
        p.Applies Operator.conditional e' id [c, t', f'] →
        ∀ s, p.plan u = .ok s ↔ p.plan e' = .ok s)) := by
  refine ⟨?_, ?_⟩
  · intro e o hplan hroot
    refine ⟨?_, ?_, ?_⟩
    · intro id field
      refine ⟨_, plan_select_iff.mpr ⟨o, hplan, rfl⟩, fun vars => ?_⟩
      exact eval_add_of_not_identRooted hplan hroot vars (.field id field)
    · intro u id key k hu hkey
      refine ⟨_, (plan_index_iff hu).mpr ⟨o, k, hplan, hkey, rfl⟩, fun vars => ?_⟩
      rw [Plan.eval, eval_add_of_not_identRooted hplan hroot]
      congr
      funext v
      exact eval_indexAccess vars id k v
    · intro id field
      refine ⟨.has id o.toAttribute field, by rw [plan, hplan], fun vars => ?_⟩
      rw [Plan.eval_has, Plan.eval_toAttribute]
  · intro e id c t f he
    refine ⟨?_, ?_⟩
    · intro sid field e' he'
      exact plan_select_conditional he he'
    · intro kid key u t' f' e' hu ht' hf' he'
      exact plan_index_conditional he hu ht' hf' he'

end Planner

namespace CompositionWitness

def planner : Planner := ⟨⟨[]⟩, .empty, {}⟩

/-- `true ? {} : [1]` -/
def literals : Expr :=
  .call 5 "_?_:_" [.literal 1 (.scalar (.bool true)), .struct 2 "" [],
    .list 4 [.literal 3 (.scalar (.int 1))]]

def literalsPlan : Plan :=
  .attribute (.conditional 5 (.value 1 (.bool true)) (.relative 2 (.map 2 []) [])
    (.relative 4 (.list 4 [.value 3 (.int 1)]) []))

/-- `c ? x : y` -/
def names : Expr := .call 4 "_?_:_" [.ident 1 "c", .ident 2 "x", .ident 3 "y"]

theorem literals_not_identRooted : ¬ planner.IdentRooted literals := by
  intro hroot
  have hplan : planner.plan literals = .ok literalsPlan := rfl
  exact Planner.not_settled_of_identRooted hroot hplan ⟨trivial, trivial⟩

theorem choices_compose :
    (∃ s, planner.plan (.select 6 literals "f") = .ok s ∧
      ∀ vars, s.eval vars = literalsPlan.eval vars >>= fun v => v.field 6 "f") ∧
    (∃ s, planner.plan (.call 7 "_[_]" [literals, .ident 6 "k"]) = .ok s ∧
      ∀ vars, s.eval vars = literalsPlan.eval vars >>= fun v =>
        (Plan.attribute (planner.identifier 6 "k")).eval vars >>= fun i => v.index 7 i) ∧
    (∃ s, planner.plan (.has 6 literals "f") = .ok s ∧
      ∀ vars, s.eval vars = literalsPlan.eval vars >>= fun v => .bool <$> v.isSet 6 "f") ∧
    (∀ s, planner.plan (.select 5 names "f") = .ok s ↔
      planner.plan (.call 4 "_?_:_" [.ident 1 "c", .select 5 (.ident 2 "x") "f",
        .select 5 (.ident 3 "y") "f"]) = .ok s) ∧
    (∀ s, planner.plan (.call 6 "_[_]" [names, .ident 5 "k"]) = .ok s ↔
      planner.plan (.call 4 "_?_:_" [.ident 1 "c", .call 6 "_[_]" [.ident 2 "x", .ident 5 "k"],
        .call 6 "_[_]" [.ident 3 "y", .ident 5 "k"]]) = .ok s) := by
  obtain ⟨haccess, hconditional⟩ := Planner.accesses_compose planner
  obtain ⟨hselect, hindex, hhas⟩ := haccess literals literalsPlan rfl literals_not_identRooted
  obtain ⟨hselect', hindex'⟩ := hconditional names 4 _ _ _ (.call rfl)
  exact ⟨hselect 6 "f", hindex _ 7 _ _ (.call rfl) rfl, hhas 6 "f",
    hselect' 5 "f" _ (.call rfl),
    hindex' 6 _ _ _ _ _ (.call rfl) (.call rfl) (.call rfl) (.call rfl)⟩

end CompositionWitness

end CommonExpr
