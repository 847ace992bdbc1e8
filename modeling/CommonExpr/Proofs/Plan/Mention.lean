import CommonExpr.Proofs.Expr
import CommonExpr.Proofs.Plan.Composition
import CommonExpr.Proofs.Plan.Names
import CommonExpr.Proofs.Plan.Qualified

/-!
Where the names of a plan come from.

Planning makes names of the candidates of an identifier and of the fields that are
selected on it, be it through conditions.  Main statement: evaluation depends on no
binding but those of such names, and a stack of layers can be replaced by one set of
bindings.
-/

namespace CommonExpr

/-- The names that an access on names spells: a field may belong to each of them. -/
def Access.extend : Access → List String → List String
  | .field _ name, names => names.map (· ++ "." ++ name)
  | .index _ _, _ => []
  | .computed _ _, _ => []

theorem Access.extend_append (access : Access) (names more : List String) :
    access.extend (names ++ more) = access.extend names ++ access.extend more := by
  cases access with
  | field id field => exact List.map_append
  | index id key => rfl
  | computed id key => rfl

theorem Access.listNames_append (accesses : List Access) (access : Access) :
    Access.listNames (accesses ++ [access]) =
      Access.listNames accesses ++ Access.listNames [access] := by
  induction accesses with
  | nil => rfl
  | cons head rest ih =>
      cases head with
      | field id field => exact ih
      | index id key => exact ih
      | computed id key =>
          rw [List.cons_append, Access.listNames, ih, Access.listNames, List.append_assoc]

namespace Reading

/-- The names that a further field may belong to: those without accesses. -/
def openNames (readings : List Reading) : List String :=
  (readings.filter (·.accesses.isEmpty)).flatMap names

theorem qualified_eq_extend (id : Int) (field : String) (readings : List Reading) :
    qualified field readings = (Access.field id field).extend (openNames readings) := by
  rw [qualified, Access.extend, openNames, List.map_flatMap]

theorem openNames_map_add (access : Access) (readings : List Reading) :
    openNames (readings.map (add access)) = [] := by
  rw [openNames, List.flatMap_eq_nil_iff]
  intro r hr
  obtain ⟨hmem, hempty⟩ := List.mem_filter.mp hr
  obtain ⟨⟨names, accesses⟩, -, rfl⟩ := List.mem_map.mp hmem
  simp [add, Reading.accesses] at hempty

/-- The longer names are all that is open after an access. -/
theorem openNames_addAll (access : Access) (readings : List Reading) :
    openNames (addAll access readings) = access.extend (openNames readings) := by
  have hlonger := openNames_map_add access readings
  cases access with
  | index id key => exact hlonger
  | computed id key => exact hlonger
  | field id field =>
      rw [← qualified_eq_extend id field readings, addAll]
      split
      · next hnone => rw [hlonger, hnone]
      · rw [openNames, List.filter_cons_of_pos (by rfl), List.flatMap_cons, ← openNames, hlonger,
          List.append_nil]
        rfl

theorem listNames_map_add {access : Access} {readings : List Reading} {name : String}
    (hname : name ∈ listNames (readings.map (add access))) :
    name ∈ listNames readings ∨ name ∈ Access.listNames [access] := by
  induction readings with
  | nil => exact absurd hname List.not_mem_nil
  | cons reading rest ih =>
      obtain ⟨names, accesses⟩ := reading
      simp only [List.map_cons, add, listNames, Access.listNames_append, List.mem_append] at hname ⊢
      rcases hname with hname | (hname | hname) | hname
      · exact Or.inl (Or.inl hname)
      · exact Or.inl (Or.inr (Or.inl hname))
      · exact Or.inr hname
      · rcases ih hname with hname | hname
        · exact Or.inl (Or.inr (Or.inr hname))
        · exact Or.inr hname

theorem mem_listNames_addAll {access : Access} {readings : List Reading} {name : String}
    (hname : name ∈ listNames (addAll access readings)) :
    name ∈ access.extend (openNames readings) ∨ name ∈ listNames readings ∨
      name ∈ Access.listNames [access] := by
  cases access with
  | index id key => exact Or.inr (listNames_map_add hname)
  | computed id key => exact Or.inr (listNames_map_add hname)
  | field id field =>
      rw [← qualified_eq_extend id field readings]
      rw [addAll] at hname
      split at hname
      · exact Or.inr (listNames_map_add hname)
      · rw [listNames, Access.listNames, List.nil_append, List.mem_append] at hname
        exact hname.imp_right listNames_map_add

end Reading

namespace Attribute

/-- The names that a further field may belong to, in all branches. -/
def openNames : Attribute → List String
  | .named _ _ _ _ readings => Reading.openNames readings
  | .relative _ _ _ => []
  | .conditional _ _ yes no => yes.openNames ++ no.openNames

theorem openNames_add (access : Access) (a : Attribute) :
    (a.add access).openNames = access.extend a.openNames := by
  match a with
  | .named _ _ _ _ readings => exact Reading.openNames_addAll access readings
  | .relative _ _ _ => cases access <;> rfl
  | .conditional _ _ yes no =>
      rw [add, openNames, openNames_add access yes, openNames_add access no, openNames,
        Access.extend_append]

/-- Step: an access adds the longer names and those of its key. -/
theorem mem_names_add {access : Access} {name : String} (a : Attribute)
    (hname : name ∈ (a.add access).names) :
    name ∈ access.extend a.openNames ∨ name ∈ a.names ∨ name ∈ Access.listNames [access] := by
  match a with
  | .named _ _ _ _ readings => exact Reading.mem_listNames_addAll hname
  | .relative id operand accesses =>
      rw [add, names, Access.listNames_append, ← List.append_assoc, List.mem_append] at hname
      exact Or.inr hname
  | .conditional id condition yes no =>
      simp only [add, names, openNames, Access.extend_append, List.mem_append] at hname ⊢
      rcases hname with hname | hname | hname
      · exact Or.inr (Or.inl (Or.inl hname))
      · rcases mem_names_add yes hname with hname | hname | hname
        · exact Or.inl (Or.inl hname)
        · exact Or.inr (Or.inl (Or.inr (Or.inl hname)))
        · exact Or.inr (Or.inr hname)
      · rcases mem_names_add no hname with hname | hname | hname
        · exact Or.inl (Or.inr hname)
        · exact Or.inr (Or.inl (Or.inr (Or.inr hname)))
        · exact Or.inr (Or.inr hname)

end Attribute

@[simp]
theorem Plan.names_toAttribute (o : Plan) : o.toAttribute.names = o.names := by
  unfold Plan.toAttribute
  split
  · rfl
  · exact List.append_nil _

theorem Plan.openNames_toAttribute {o : Plan} (hother : ∀ a, o ≠ .attribute a) :
    o.toAttribute.openNames = [] := by
  unfold Plan.toAttribute
  split
  · next a => exact absurd rfl (hother a)
  · rfl

namespace Planner

variable {p : Planner}

theorem extend_indexAccess (id : Int) (key : Plan) (names : List String) :
    (indexAccess id key).extend names = [] := by
  unfold indexAccess
  split <;> rfl

theorem mem_names_of_indexAccess {id : Int} {key : Plan} {name : String}
    (hname : name ∈ Access.listNames [indexAccess id key]) : name ∈ key.names := by
  unfold indexAccess at hname
  split at hname
  · exact absurd hname List.not_mem_nil
  · simpa [Access.listNames] using hname

theorem Applies.operands_eq {operator : String} {e : Expr} {id : Int} {operands : List Expr}
    (happlies : p.Applies operator e id operands) : e.operands = operands := by
  cases happlies <;> rfl

/-- Whether the plan of one of these expressions asks for a name. -/
def Asks (p : Planner) (es : List Expr) (name : String) : Prop :=
  ∃ e ∈ es, ∃ o, p.plan e = .ok o ∧ name ∈ o.names

theorem Asks.mono {es es' : List Expr} {name : String} (hasks : p.Asks es name)
    (hsub : ∀ e ∈ es, e ∈ es') : p.Asks es' name := by
  obtain ⟨e, he, o, ho, hname⟩ := hasks
  exact ⟨e, hsub e he, o, ho, hname⟩

theorem asks_of_planAll {es : List Expr} {plans : List Plan} (hplan : p.planAll es = .ok plans)
    {name : String} (hname : name ∈ Plan.listNames plans) : p.Asks es name := by
  rw [planAll_eq_ok_iff] at hplan
  induction hplan with
  | nil => exact absurd hname List.not_mem_nil
  | @cons e o es plans ho _ ih =>
      rcases List.mem_append.mp hname with hname | hname
      · exact ⟨e, List.mem_cons_self, o, ho, hname⟩
      · exact (ih hname).mono fun _ => List.mem_cons_of_mem e

theorem asks_of_planPairs {entries : List Entry} {pairs : List (Plan × Plan)}
    (hplan : p.planPairs entries = .ok pairs) {name : String}
    (hname : name ∈ Plan.entryNames pairs) : p.Asks (entries.flatMap Entry.operands) name := by
  induction entries generalizing pairs with
  | nil =>
      cases hplan
      exact absurd hname List.not_mem_nil
  | cons entry rest ih =>
      cases entry with
      | field id field value => cases hplan
      | pair id key value =>
          obtain ⟨k, v, tail, hk, hv, htail, rfl⟩ := planPairs_cons_iff.mp hplan
          simp only [Plan.entryNames, List.mem_append] at hname
          rcases hname with hname | hname | hname
          · exact ⟨key, by simp [Entry.operands], k, hk, hname⟩
          · exact ⟨value, by simp [Entry.operands], v, hv, hname⟩
          · exact (ih htail hname).mono fun e he => List.mem_append_right _ he

theorem asks_of_planFields {message : String} {entries : List Entry}
    {fields : List (String × Plan)} (hplan : p.planFields message entries = .ok fields)
    {name : String} (hname : name ∈ Plan.fieldNames fields) :
    p.Asks (entries.flatMap Entry.operands) name := by
  induction entries generalizing fields with
  | nil =>
      cases hplan
      exact absurd hname List.not_mem_nil
  | cons entry rest ih =>
      cases entry with
      | pair id key value => cases hplan
      | field id field value =>
          obtain ⟨v, tail, hv, htail, rfl⟩ := planFields_cons_iff.mp hplan
          rcases List.mem_append.mp hname with hname | hname
          · exact ⟨value, by simp [Entry.operands], v, hv, hname⟩
          · exact (ih htail hname).mono fun e he => List.mem_append_right _ he

theorem mem_listNames_of_callOn {operator : String} {id : Int} {operands : List Plan} {o : Plan}
    (hcall : p.callOn id operator operands = .ok o) {name : String} (hname : name ∈ o.names) :
    name ∈ Plan.listNames operands := by
  unfold callOn at hcall
  split at hcall
  · split at hcall <;> cases hcall
    simpa [Plan.names, Plan.listNames] using hname
  split at hcall
  · split at hcall <;> cases hcall
    simpa [Plan.names, Plan.listNames] using hname
  split at hcall
  · split at hcall <;> cases hcall
    simpa [Plan.names, Attribute.names, Plan.listNames] using hname
  split at hcall
  · split at hcall <;> cases hcall
    next operand key =>
      rcases Attribute.mem_names_add _ hname with hname | hname | hname
      · rw [extend_indexAccess] at hname
        exact absurd hname List.not_mem_nil
      · rw [Plan.names_toAttribute] at hname
        exact List.mem_append_left _ hname
      · exact List.mem_append_right _ (List.mem_append_left _ (mem_names_of_indexAccess hname))
  · cases hcall
    exact hname

theorem asks_of_applies {operator : String} {e : Expr} {id : Int} {operands : List Expr}
    {o : Plan} (happlies : p.Applies operator e id operands) (hplan : p.plan e = .ok o)
    {name : String} (hname : name ∈ o.names) : p.Asks e.operands name := by
  rw [plan_eq_ok_iff_of_applies happlies] at hplan
  obtain ⟨plans, hplans, hcall⟩ := hplan
  rw [happlies.operands_eq]
  have hplanAll := (planAll_eq_ok_iff operands plans).mpr hplans
  exact asks_of_planAll hplanAll (mem_listNames_of_callOn hcall hname)

variable (p)

/-- An expression spells a name and fields: it selects these fields one after the other on an
identifier of this name, or on a condition that does so in a branch. -/
inductive Spells : Expr → (name : String) → (fields : List (Int × String)) → Prop where
  | ident (id : Int) (name : String) : Spells (.ident id name) name []
  | select {e : Expr} {name : String} {fields : List (Int × String)} (id : Int) (field : String)
      (hspells : Spells e name fields) : Spells (.select id e field) name (fields ++ [(id, field)])
  | yes {e c t f : Expr} {id : Int} {name : String} {fields : List (Int × String)}
      (happlies : p.Applies Operator.conditional e id [c, t, f])
      (hspells : Spells t name fields) : Spells e name fields
  | no {e c t f : Expr} {id : Int} {name : String} {fields : List (Int × String)}
      (happlies : p.Applies Operator.conditional e id [c, t, f])
      (hspells : Spells f name fields) : Spells e name fields

/-- A full name that an expression may stand for: a candidate of the identifier that it
spells, with the fields. -/
def Denotes (e : Expr) (full : String) : Prop :=
  ∃ name fields, p.Spells e name fields ∧ ∃ c ∈ p.scope.candidates name, full = dotted c fields

variable {p}

/-- Step: the names that stay open under an operator are those of the branches of a condition. -/
theorem denotes_of_applies {operator : String} {e : Expr} {id : Int} {operands : List Expr}
    {o : Plan} (happlies : p.Applies operator e id operands) (hplan : p.plan e = .ok o)
    {full : String} (hfull : full ∈ o.toAttribute.openNames)
    (hoperands : ∀ operand ∈ operands, ∀ o, p.plan operand = .ok o →
      full ∈ o.toAttribute.openNames → p.Denotes operand full) :
    p.Denotes e full := by
  obtain ⟨plans, hplans, hcall⟩ := (plan_eq_ok_iff_of_applies happlies o).mp hplan
  rcases callOn_cases hcall with ⟨rfl, c, t, f, rfl, rfl⟩ | ⟨rfl, a, k, rfl, rfl⟩ | hother
  · obtain ⟨ec, _, hc, hbranches, rfl⟩ := List.forall₂_cons_right_iff.mp hplans
    obtain ⟨et, _, ht, hlast, rfl⟩ := List.forall₂_cons_right_iff.mp hbranches
    obtain ⟨ef, _, hf, hnil, rfl⟩ := List.forall₂_cons_right_iff.mp hlast
    obtain rfl := List.forall₂_nil_right_iff.mp hnil
    rcases List.mem_append.mp hfull with hfull | hfull
    · obtain ⟨name, fields, hspells, hname⟩ := hoperands et (by simp) t ht hfull
      exact ⟨name, fields, .yes happlies hspells, hname⟩
    · obtain ⟨name, fields, hspells, hname⟩ := hoperands ef (by simp) f hf hfull
      exact ⟨name, fields, .no happlies hspells, hname⟩
  · rw [Plan.toAttribute, Attribute.openNames_add, extend_indexAccess] at hfull
    exact absurd hfull List.not_mem_nil
  · rw [Plan.openNames_toAttribute hother] at hfull
    exact absurd hfull List.not_mem_nil

/-- What an expression is planned as: an identifier, a selection, an operator, or a plan that
takes no fields into names. -/
theorem plan_cases (e : Expr) {o : Plan} (hplan : p.plan e = .ok o) :
    (∃ id name, e = .ident id name ∧ o = .attribute (p.identifier id name)) ∨
      (∃ id operand field a, e = .select id operand field ∧ p.plan operand = .ok a ∧
        o = .attribute (a.toAttribute.add (.field id field))) ∨
      (∃ operator id, p.Applies operator e id e.operands) ∨
      (∀ a, o ≠ .attribute a) ∧ ∀ name ∈ o.names, p.Asks e.operands name := by
  cases e with
  | literal id value =>
      cases hplan
      refine Or.inr (Or.inr (Or.inr ⟨?_, ?_⟩))
      · intro a ha
        cases ha
      · intro name hname
        exact absurd hname List.not_mem_nil
  | ident id name =>
      cases hplan
      exact Or.inl ⟨id, name, rfl, rfl⟩
  | select id operand field =>
      obtain ⟨a, ha, rfl⟩ := plan_select_iff.mp hplan
      exact Or.inr (Or.inl ⟨id, operand, field, a, rfl, ha, rfl⟩)
  | has id operand field =>
      rw [plan] at hplan
      split at hplan <;> cases hplan
      next a ha =>
        refine Or.inr (Or.inr (Or.inr ⟨?_, ?_⟩))
        · intro a ha
          cases ha
        · intro name hname
          rw [Plan.names, Plan.names_toAttribute] at hname
          exact ⟨operand, List.mem_singleton.mpr rfl, a, ha, hname⟩
  | call id function args => exact Or.inr (Or.inr (Or.inl ⟨_, id, .call rfl⟩))
  | memberCall id target function args =>
      cases hmethod : p.qualifiedFunction? target (Operator.canonical function) with
      | none => exact Or.inr (Or.inr (Or.inl ⟨_, id, .member rfl hmethod⟩))
      | some known =>
          rw [plan, hmethod] at hplan
          dsimp only at hplan
          split at hplan <;> cases hplan
          next operands hoperands =>
            refine Or.inr (Or.inr (Or.inr ⟨?_, ?_⟩))
            · intro a ha
              cases ha
            · intro name hname
              exact (asks_of_planAll hoperands hname).mono fun _ => List.mem_cons_of_mem target
  | list id elements =>
      rw [plan] at hplan
      split at hplan <;> cases hplan
      next plans hplans =>
        refine Or.inr (Or.inr (Or.inr ⟨?_, ?_⟩))
        · intro a ha
          cases ha
        · intro name hname
          exact asks_of_planAll hplans hname
  | struct id message entries =>
      rw [plan] at hplan
      split at hplan <;> split at hplan <;> cases hplan
      · next pairs hpairs =>
          refine Or.inr (Or.inr (Or.inr ⟨?_, ?_⟩))
          · intro a ha
            cases ha
          · intro name hname
            exact asks_of_planPairs hpairs hname
      · next fields hfields =>
          refine Or.inr (Or.inr (Or.inr ?_))
          unfold messageOn
          split
          · refine ⟨?_, ?_⟩
            · intro a ha
              cases ha
            · intro name hname
              exact asks_of_planFields hfields hname
          · refine ⟨?_, ?_⟩
            · intro a ha
              cases ha
            · intro name hname
              exact absurd hname List.not_mem_nil

/-- The names that stay open in a plan are full names of the expression. -/
theorem denotes_of_mem_openNames (e : Expr) {o : Plan} (hplan : p.plan e = .ok o) {full : String}
    (hfull : full ∈ o.toAttribute.openNames) : p.Denotes e full := by
  induction e using Expr.induction_on_operands generalizing o full with
  | step e ih =>
      rcases plan_cases e hplan with ⟨id, name, rfl, rfl⟩ | ⟨id, operand, field, a, rfl, ha, rfl⟩ |
        ⟨operator, id, happlies⟩ | ⟨hother, -⟩
      · refine ⟨name, [], .ident id name, full, ?_, rfl⟩
        simpa [Plan.toAttribute, identifier, Attribute.openNames, Reading.openNames,
          Reading.accesses, Reading.names] using hfull
      · rw [Plan.toAttribute, Attribute.openNames_add] at hfull
        obtain ⟨shorter, hshorter, rfl⟩ := List.mem_map.mp hfull
        obtain ⟨name, fields, hspells, c, hc, rfl⟩ :=
          ih operand (List.mem_singleton.mpr rfl) ha hshorter
        exact ⟨name, fields ++ [(id, field)], .select id field hspells, c, hc,
          (dotted_concat c fields (id, field)).symm⟩
      · refine denotes_of_applies happlies hplan hfull ?_
        intro operand hoperand a ha
        exact ih operand hoperand ha
      · rw [Plan.openNames_toAttribute hother] at hfull
        exact absurd hfull List.not_mem_nil

/-- Step: a name of a plan is a full name of the expression or one of an operand's plan. -/
theorem denotes_or_asks {e : Expr} {o : Plan} (hplan : p.plan e = .ok o) {name : String}
    (hname : name ∈ o.names) : p.Denotes e name ∨ p.Asks e.operands name := by
  rcases plan_cases e hplan with ⟨id, base, rfl, rfl⟩ | ⟨id, operand, field, a, rfl, ha, rfl⟩ |
    ⟨operator, id, happlies⟩ | ⟨-, hasks⟩
  · left
    apply denotes_of_mem_openNames _ hplan
    simpa [Plan.toAttribute, Plan.names, identifier, Attribute.names, Reading.listNames,
      Access.listNames, Attribute.openNames, Reading.openNames, Reading.accesses,
      Reading.names] using hname
  · rcases Attribute.mem_names_add _ hname with hname | hname | hname
    · left
      apply denotes_of_mem_openNames _ hplan
      rwa [Plan.toAttribute, Attribute.openNames_add]
    · rw [Plan.names_toAttribute] at hname
      exact Or.inr ⟨operand, List.mem_singleton.mpr rfl, a, ha, hname⟩
    · exact absurd hname List.not_mem_nil
  · exact Or.inr (asks_of_applies happlies hplan hname)
  · exact Or.inr (hasks name hname)

/-- Run: every name of a plan is a full name of some expression that occurs. -/
theorem exists_denotes (e : Expr) {o : Plan} (hplan : p.plan e = .ok o) {name : String}
    (hname : name ∈ o.names) : ∃ part, part.Occurs e ∧ p.Denotes part name := by
  induction e using Expr.induction_on_operands generalizing o with
  | step e ih =>
      rcases denotes_or_asks hplan hname with hdenotes | ⟨operand, hoperand, a, ha, hname⟩
      · exact ⟨e, .whole, hdenotes⟩
      · obtain ⟨part, hpart, hdenotes⟩ := ih operand hoperand ha hname
        exact ⟨part, .operand hoperand hpart, hdenotes⟩

/-- Evaluation depends on no binding but those of the plan's names, so that a stack of layers
comes to one set of bindings in which the inner ones have overwritten the outer ones; and the
names of a plan are candidates of identifiers in the expression, with fields that are selected
on them. -/
theorem eval_depends_on_names :
    (∀ (o : Plan) (vars vars' : Activation),
      (∀ name ∈ o.names, vars.resolve name = vars'.resolve name) → o.eval vars = o.eval vars') ∧
    (∀ (o : Plan) (base : Bindings) (stack : List Bindings),
      o.eval ((Activation.ofBindings base).layers stack) =
        o.eval (.ofBindings (base.flatten stack))) ∧
    (∀ (o : Plan) (outer : Activation) (stack : List Bindings),
      o.eval (outer.layers stack) =
        o.eval (.ofBindings ((outer.bindingsOf o.names).flatten stack))) ∧
    ∀ (p : Planner) (e : Expr) (o : Plan), p.plan e = .ok o → ∀ full ∈ o.names,
      ∃ part name fields, part.Occurs e ∧ p.Spells part name fields ∧
        ∃ c ∈ p.scope.candidates name, full = dotted c fields := by
  refine ⟨fun o vars vars' hagree => Plan.eval_eq_of_agreeOn o hagree, ?_, ?_, ?_⟩
  · intro o base stack
    rw [Activation.layers_ofBindings]
  · intro o outer stack
    rw [← Activation.layers_ofBindings]
    apply Plan.eval_eq_of_agreeOn
    exact (outer.agreeOn_bindingsOf o.names).layers stack
  · intro p e o hplan full hfull
    obtain ⟨part, hpart, name, fields, hspells, hcandidate⟩ := exists_denotes e hplan hfull
    exact ⟨part, name, fields, hpart, hspells, hcandidate⟩

end Planner

namespace MentionWitness

def planner : Planner := ⟨⟨[]⟩, .empty, { name := "a" }⟩

/-- `(c ? x.f : 1).g` -/
def choice : Expr :=
  .select 6 (.call 5 "_?_:_" [.ident 1 "c", .select 3 (.ident 2 "x") "f",
    .literal 4 (.scalar (.int 1))]) "g"

/-- Two layers, of which the inner one binds the longest name anew. -/
def layers : List Bindings :=
  [⟨[("c", .ok (.bool true)), ("a.x.f.g", .ok .null)]⟩, ⟨[("a.x.f.g", .ok (.int 7))]⟩]

def host : Activation := Activation.empty.layers layers

/-- A name that stands in the expression as a field only. -/
def elsewhere : Activation := host.layer ⟨[("g", .error (.unknown (.ofList [1])))]⟩

theorem choice_depends_on_names :
    ∃ o, planner.plan choice = .ok o ∧
      o.names = ["a.c", "c", "a.x.f.g", "x.f.g", "a.x.f", "x.f", "a.x", "x"] ∧
      o.eval elsewhere = .ok (.int 7) ∧
      o.eval (.ofBindings ((Activation.empty.bindingsOf o.names).flatten layers)) = .ok (.int 7) ∧
      ∃ part name fields, part.Occurs choice ∧ planner.Spells part name fields ∧
        ∃ c ∈ planner.scope.candidates name, "a.x.f.g" = dotted c fields := by
  obtain ⟨hagree, -, hflatten, hnames⟩ := Planner.eval_depends_on_names
  refine ⟨_, rfl, rfl, ?_, ?_, hnames planner choice _ rfl "a.x.f.g" (by decide)⟩
  · rw [hagree _ elsewhere host]
    · rfl
    · intro name hname
      have hother : name ≠ "g" := by
        revert name
        decide
      change (Bindings.find? ⟨[("g", _)]⟩ name).or (host.resolve name) = host.resolve name
      rw [Bindings.find?_cons, if_neg hother]
      rfl
  · rw [← hflatten]
    rfl

end MentionWitness

end CommonExpr
