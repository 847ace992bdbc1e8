import CommonExpr.Plan.Planner
import CommonExpr.Proofs.Plan.Chain
import CommonExpr.Proofs.Provider

/-!
Invariants of evaluation.

A plan holds what it needs to make values: constants, functions, providers, and
the nodes at which it may fail.  If all of these keep a property of values, and
the activation binds names to values with it, then so does evaluation; and its
faults are those that the activation binds, those of the nodes, and what they
merge into.  Main statements: planning gives plans that keep a property, and what
they evaluate to has it.
-/

namespace CommonExpr

open Outcome

mutual

/-- The ids of the nodes of an expression. -/
def Expr.ids : Expr → List Int
  | .literal id _ => [id]
  | .ident id _ => [id]
  | .select id operand _ => id :: operand.ids
  | .has id operand _ => id :: operand.ids
  | .call id _ args => id :: Expr.listIds args
  | .memberCall id target _ args => id :: (target.ids ++ Expr.listIds args)
  | .list id elements => id :: Expr.listIds elements
  | .struct id _ entries => id :: Entry.listIds entries

def Expr.listIds : List Expr → List Int
  | [] => []
  | e :: rest => e.ids ++ Expr.listIds rest

/-- The ids of the nodes in entries, which themselves are no nodes. -/
def Entry.listIds : List Entry → List Int
  | [] => []
  | .field _ _ value :: rest => value.ids ++ Entry.listIds rest
  | .pair _ key value :: rest => key.ids ++ value.ids ++ Entry.listIds rest

end

mutual

/-- Whether a plan is made of what keeps the property `V` and fails only at nodes
with the property `S`. -/
def Plan.Keeps (V : Value → Prop) (S : Int → Prop) : Plan → Prop
  | .value _ v => V v
  | .attribute a => a.Keeps V S
  | .has id operand _ => S id ∧ operand.Keeps V S
  | .and id left right => S id ∧ left.Keeps V S ∧ right.Keeps V S
  | .or id left right => S id ∧ left.Keeps V S ∧ right.Keeps V S
  | .call id _ candidates args => S id ∧ (∀ f ∈ candidates, f.Keeps V) ∧ Plan.AllKeep V S args
  | .list _ elements => Plan.AllKeep V S elements
  | .map id entries => S id ∧ Plan.EntriesKeep V S entries
  | .message id provider _ fields => S id ∧ provider.Keeps V ∧ Plan.FieldsKeep V S fields
  | .failure id _ => S id

def Attribute.Keeps (V : Value → Prop) (S : Int → Prop) : Attribute → Prop
  | .named id _ _ provider readings => S id ∧ provider.Keeps V ∧ Reading.AllKeep V S readings
  | .relative _ operand accesses => operand.Keeps V S ∧ Access.AllKeep V S accesses
  | .conditional id condition yes no =>
      S id ∧ condition.Keeps V S ∧ yes.Keeps V S ∧ no.Keeps V S

def Reading.AllKeep (V : Value → Prop) (S : Int → Prop) : List Reading → Prop
  | [] => True
  | .mk _ accesses :: rest => Access.AllKeep V S accesses ∧ Reading.AllKeep V S rest

def Access.Keeps (V : Value → Prop) (S : Int → Prop) : Access → Prop
  | .field id _ => S id
  | .index id _ => S id
  | .computed id key => S id ∧ key.Keeps V S

def Access.AllKeep (V : Value → Prop) (S : Int → Prop) : List Access → Prop
  | [] => True
  | access :: rest => access.Keeps V S ∧ Access.AllKeep V S rest

def Plan.AllKeep (V : Value → Prop) (S : Int → Prop) : List Plan → Prop
  | [] => True
  | p :: rest => p.Keeps V S ∧ Plan.AllKeep V S rest

def Plan.EntriesKeep (V : Value → Prop) (S : Int → Prop) : List (Plan × Plan) → Prop
  | [] => True
  | (k, v) :: rest => k.Keeps V S ∧ v.Keeps V S ∧ Plan.EntriesKeep V S rest

def Plan.FieldsKeep (V : Value → Prop) (S : Int → Prop) : List (String × Plan) → Prop
  | [] => True
  | (_, p) :: rest => p.Keeps V S ∧ Plan.FieldsKeep V S rest

end

variable {V : Value → Prop} {S : Int → Prop}

/-! Planning -/

theorem Plan.toAttribute_keeps {p : Plan} (hp : p.Keeps V S) : p.toAttribute.Keeps V S := by
  unfold Plan.toAttribute
  split
  · exact hp
  · exact ⟨hp, trivial⟩

theorem Access.allKeep_append {accesses : List Access} {access : Access}
    (haccesses : Access.AllKeep V S accesses) (haccess : access.Keeps V S) :
    Access.AllKeep V S (accesses ++ [access]) := by
  induction accesses with
  | nil => exact ⟨haccess, trivial⟩
  | cons head rest ih => exact ⟨haccesses.1, ih haccesses.2⟩

theorem Reading.addAll_keep {access : Access} (haccess : access.Keeps V S)
    {readings : List Reading} (hreadings : Reading.AllKeep V S readings) :
    Reading.AllKeep V S (Reading.addAll access readings) := by
  have hlonger : Reading.AllKeep V S (readings.map (Reading.add access)) := by
    induction readings with
    | nil => trivial
    | cons reading rest ih =>
        obtain ⟨names, accesses⟩ := reading
        exact ⟨Access.allKeep_append hreadings.1 haccess, ih hreadings.2⟩
  unfold Reading.addAll
  dsimp only
  split
  · split
    · exact hlonger
    · exact ⟨trivial, hlonger⟩
  · exact hlonger

theorem Attribute.add_keeps {access : Access} (haccess : access.Keeps V S) (a : Attribute)
    (ha : a.Keeps V S) : (a.add access).Keeps V S := by
  match a with
  | .named id name container provider readings =>
      exact ⟨ha.1, ha.2.1, Reading.addAll_keep haccess ha.2.2⟩
  | .relative id operand accesses => exact ⟨ha.1, Access.allKeep_append ha.2 haccess⟩
  | .conditional id condition yes no =>
      exact ⟨ha.1, ha.2.1, Attribute.add_keeps haccess yes ha.2.2.1,
        Attribute.add_keeps haccess no ha.2.2.2⟩

namespace Planner

theorem indexAccess_keeps {id : Int} (hid : S id) {key : Plan} (hkey : key.Keeps V S) :
    (indexAccess id key).Keeps V S := by
  unfold indexAccess
  split
  · exact hid
  · exact ⟨hid, hkey⟩

/-- Whether all that expressions are planned with keeps a property. -/
structure Keeps (V : Value → Prop) (p : Planner) : Prop where
  values : Value.Invariant V
  dispatcher : p.dispatcher.Keeps V
  provider : p.provider.Keeps V

variable {p : Planner} (h : p.Keeps V)

include h

theorem firstKnown?_keeps {names : List String} {name : String} {candidates : List Func}
    (hfirst : firstKnown? p.dispatcher names = some (name, candidates)) :
    ∀ f ∈ candidates, f.Keeps V := by
  induction names with
  | nil => cases hfirst
  | cons head rest ih =>
      rw [firstKnown?] at hfirst
      split at hfirst
      · exact ih hfirst
      · obtain ⟨-, rfl⟩ := Prod.mk.inj (Option.some.inj hfirst)
        exact h.dispatcher.candidates head

theorem qualifiedFunction?_keeps {target : Expr} {function name : String} {candidates : List Func}
    (hqualified : p.qualifiedFunction? target function = some (name, candidates)) :
    ∀ f ∈ candidates, f.Keeps V := by
  unfold qualifiedFunction? at hqualified
  split at hqualified
  · cases hqualified
  · exact firstKnown?_keeps h hqualified

theorem messageOn_keeps {id : Int} (hid : S id) (message : String) {fields : List (String × Plan)}
    (hfields : Plan.FieldsKeep V S fields) : (p.messageOn id message fields).Keeps V S := by
  unfold messageOn
  split
  · exact ⟨hid, h.provider, hfields⟩
  · exact hid

theorem callOn_keeps {id : Int} (hid : S id) {function : String} {operands : List Plan}
    (hoperands : Plan.AllKeep V S operands) {o : Plan}
    (hcall : p.callOn id function operands = .ok o) : o.Keeps V S := by
  unfold callOn at hcall
  split at hcall
  · split at hcall
    · obtain rfl := Except.ok.inj hcall
      exact ⟨hid, hoperands.1, hoperands.2.1⟩
    · cases hcall
  · split at hcall
    · split at hcall
      · obtain rfl := Except.ok.inj hcall
        exact ⟨hid, hoperands.1, hoperands.2.1⟩
      · cases hcall
    · split at hcall
      · split at hcall
        · obtain rfl := Except.ok.inj hcall
          exact ⟨hid, hoperands.1, Plan.toAttribute_keeps hoperands.2.1,
            Plan.toAttribute_keeps hoperands.2.2.1⟩
        · cases hcall
      · split at hcall
        · split at hcall
          · obtain rfl := Except.ok.inj hcall
            exact Attribute.add_keeps (indexAccess_keeps hid hoperands.2.1) _
              (Plan.toAttribute_keeps hoperands.1)
          · cases hcall
        · obtain rfl := Except.ok.inj hcall
          exact ⟨hid, h.dispatcher.candidates function, hoperands⟩

omit h

mutual

/-- Planning is by cases on the expression; each plan fails only at nodes of it. -/
theorem plan_keeps (h : p.Keeps V) (e : Expr) (hids : ∀ id ∈ e.ids, S id) {o : Plan}
    (hplan : p.plan e = .ok o) : o.Keeps V S := by
  match e with
  | .literal id value =>
      obtain rfl := Except.ok.inj hplan
      exact h.values.ofLiteral value
  | .ident id name =>
      obtain rfl := Except.ok.inj hplan
      exact ⟨hids id List.mem_cons_self, h.provider, trivial, trivial⟩
  | .select id operand field =>
      obtain ⟨hid, hids⟩ := List.forall_mem_cons.mp hids
      rw [plan] at hplan
      split at hplan
      · cases hplan
      · next operand' hoperand =>
          obtain rfl := Except.ok.inj hplan
          have haccess : (Access.field id field).Keeps V S := hid
          exact Attribute.add_keeps haccess _
            (Plan.toAttribute_keeps (plan_keeps h operand hids hoperand))
  | .has id operand field =>
      obtain ⟨hid, hids⟩ := List.forall_mem_cons.mp hids
      rw [plan] at hplan
      split at hplan
      · cases hplan
      · next operand' hoperand =>
          obtain rfl := Except.ok.inj hplan
          exact ⟨hid, Plan.toAttribute_keeps (plan_keeps h operand hids hoperand)⟩
  | .call id function args =>
      obtain ⟨hid, hids⟩ := List.forall_mem_cons.mp hids
      rw [plan] at hplan
      split at hplan
      · cases hplan
      · next operands hoperands =>
          exact callOn_keeps h hid (planAll_keep h args hids hoperands) hplan
  | .memberCall id target function args =>
      obtain ⟨hid, hids⟩ := List.forall_mem_cons.mp hids
      obtain ⟨htarget, hargs⟩ := List.forall_mem_append.mp hids
      rw [plan] at hplan
      split at hplan
      · next name candidates hqualified =>
          split at hplan
          · cases hplan
          · next operands hoperands =>
              obtain rfl := Except.ok.inj hplan
              exact ⟨hid, qualifiedFunction?_keeps h hqualified,
                planAll_keep h args hargs hoperands⟩
      · split at hplan
        · cases hplan
        · next receiver hreceiver =>
            split at hplan
            · cases hplan
            · next operands hoperands =>
                have hall : Plan.AllKeep V S (receiver :: operands) :=
                  ⟨plan_keeps h target htarget hreceiver, planAll_keep h args hargs hoperands⟩
                exact callOn_keeps h hid hall hplan
  | .list id elements =>
      obtain ⟨hid, hids⟩ := List.forall_mem_cons.mp hids
      rw [plan] at hplan
      split at hplan
      · cases hplan
      · next plans hplans =>
          obtain rfl := Except.ok.inj hplan
          exact planAll_keep h elements hids hplans
  | .struct id message entries =>
      obtain ⟨hid, hids⟩ := List.forall_mem_cons.mp hids
      rw [plan] at hplan
      split at hplan
      · split at hplan
        · cases hplan
        · next pairs hpairs =>
            obtain rfl := Except.ok.inj hplan
            exact ⟨hid, planPairs_keep h entries hids hpairs⟩
      · split at hplan
        · cases hplan
        · next fields hfields =>
            obtain rfl := Except.ok.inj hplan
            exact messageOn_keeps h hid message (planFields_keep h message entries hids hfields)

theorem planAll_keep (h : p.Keeps V) (es : List Expr) (hids : ∀ id ∈ Expr.listIds es, S id)
    {plans : List Plan} (hplan : p.planAll es = .ok plans) : Plan.AllKeep V S plans := by
  match es with
  | [] =>
      obtain rfl := Except.ok.inj hplan
      trivial
  | e :: rest =>
      obtain ⟨he, hrest⟩ := List.forall_mem_append.mp hids
      rw [planAll_eq_ok_iff, List.forall₂_cons_left_iff] at hplan
      obtain ⟨head, tail, hhead, htail, rfl⟩ := hplan
      rw [← planAll_eq_ok_iff] at htail
      exact ⟨plan_keeps h e he hhead, planAll_keep h rest hrest htail⟩

theorem planPairs_keep (h : p.Keeps V) (entries : List Entry)
    (hids : ∀ id ∈ Entry.listIds entries, S id) {pairs : List (Plan × Plan)}
    (hplan : p.planPairs entries = .ok pairs) : Plan.EntriesKeep V S pairs := by
  match entries with
  | [] =>
      obtain rfl := Except.ok.inj hplan
      trivial
  | .field id name value :: rest => cases hplan
  | .pair id key value :: rest =>
      obtain ⟨hhead, hrest⟩ := List.forall_mem_append.mp hids
      obtain ⟨hkey, hvalue⟩ := List.forall_mem_append.mp hhead
      obtain ⟨k, v, tail, hk, hv, htail, rfl⟩ := planPairs_cons_iff.mp hplan
      exact ⟨plan_keeps h key hkey hk, plan_keeps h value hvalue hv,
        planPairs_keep h rest hrest htail⟩

theorem planFields_keep (h : p.Keeps V) (message : String) (entries : List Entry)
    (hids : ∀ id ∈ Entry.listIds entries, S id) {fields : List (String × Plan)}
    (hplan : p.planFields message entries = .ok fields) : Plan.FieldsKeep V S fields := by
  match entries with
  | [] =>
      obtain rfl := Except.ok.inj hplan
      trivial
  | .pair id key value :: rest => cases hplan
  | .field id name value :: rest =>
      obtain ⟨hvalue, hrest⟩ := List.forall_mem_append.mp hids
      obtain ⟨v, tail, hv, htail, rfl⟩ := planFields_cons_iff.mp hplan
      exact ⟨plan_keeps h value hvalue hv, planFields_keep h message rest hrest htail⟩

end

end Planner

/-! Evaluation -/

/-- What an activation has to offer for evaluation to keep `V`, with faults that
all have the property `F`. -/
structure Activation.Supports (V : Value → Prop) (F : Fault → Prop) (S : Int → Prop)
    (vars : Activation) : Prop where
  values : Value.Invariant V
  merges : Fault.Merges F
  nodes : ∀ id f, S id → f.At id → F f
  bound : ∀ name o, vars.resolve name = some o → Meets V F o

variable {F : Fault → Prop} {vars : Activation}

namespace Activation.Supports

variable (h : vars.Supports V F S)

include h

/-- What fails only at a node fails as the plan may. -/
theorem of_yields {id : Int} (hid : S id) {o : Outcome Value} (ho : Yields id V o) :
    Meets V F o :=
  ho.mono (fun _ hv => hv) fun f hf => h.nodes id f hid hf

theorem logic_meets {id : Int} (hid : S id) (function : String) (decisive : Bool)
    {left right : Outcome Value} (hleft : Meets V F left) (hright : Meets V F right) :
    Meets V F (logic id function decisive left right) := by
  have hl : Meets V F (Value.unwrap <$> left) := hleft.map fun _ hv => h.values.unwrap hv
  have hr : Meets V F (Value.unwrap <$> right) := hright.map fun _ hv => h.values.unwrap hv
  unfold logic
  dsimp only
  split
  · exact meets_ok.mpr (h.values.scalar _)
  · split
    · exact meets_ok.mpr (h.values.scalar _)
    · next f g hf hg => exact meets_error.mpr (h.merges f g (hl.fault hf) (hr.fault hg))
    · next f _ hf _ => exact meets_error.mpr (hl.fault hf)
    · next _ g _ hg => exact meets_error.mpr (hr.fault hg)
    · exact h.of_yields hid yields_noOverload

theorem lookupName_meets {provider : Provider} (hprovider : provider.Keeps V) {id : Int}
    (hid : S id) (bare : Bool) (names : List String) {o : Outcome Value}
    (hlookup : lookupName vars provider id bare names = some o) : Meets V F o := by
  rw [lookupName_eq_findSome?] at hlookup
  obtain ⟨name, -, hname⟩ := List.exists_of_findSome?_eq_some hlookup
  rcases Option.or_eq_some_iff.mp hname with hbound | ⟨-, hknown⟩
  · exact h.bound name o hbound
  · split at hknown
    · exact h.of_yields hid (hprovider.findIdent id name o hknown)
    · cases hknown

theorem messageValue_meets {id : Int} (hid : S id) {provider : Provider}
    (hprovider : provider.Keeps V) (type : String) (names : List String)
    {values : List (Outcome Value)} (hvalues : ∀ o ∈ values, Meets V F o) :
    Meets V F (messageValue id provider type names values) := by
  rw [messageValue_eq]
  refine (meets_collect h.merges hvalues).bind fun vs hvs => ?_
  refine h.of_yields hid ?_
  split
  · exact yields_fail
  · refine Meets.getD (hprovider.newValue id type (names.zip vs) ?_) yields_fail
    exact fun field hfield => hvs _ (List.of_mem_zip hfield).2

end Activation.Supports

mutual

/-- One case for each form of plan: what its operands have, its value has. -/
theorem Plan.eval_meets (h : vars.Supports V F S) (p : Plan) (hp : p.Keeps V S) :
    Meets V F (p.eval vars) := by
  match p with
  | .value id v => exact meets_ok.mpr hp
  | .attribute a => exact Attribute.eval_meets h a hp
  | .has id operand field =>
      rw [Plan.eval_has]
      refine (Attribute.eval_meets h operand hp.2).bind fun v hv => ?_
      refine h.of_yields hp.1 ?_
      exact Meets.map (v.isSet_failsAt id field) fun b _ => h.values.scalar (.bool b)
  | .and id left right =>
      exact h.logic_meets hp.1 _ _ (Plan.eval_meets h left hp.2.1)
        (Plan.eval_meets h right hp.2.2)
  | .or id left right =>
      exact h.logic_meets hp.1 _ _ (Plan.eval_meets h left hp.2.1)
        (Plan.eval_meets h right hp.2.2)
  | .call id function candidates args =>
      exact Func.dispatchFirst_meets h.values h.merges (fun f hf => h.nodes id f hp.1 hf)
        (Plan.evalAll_meet h args hp.2.2) hp.2.1
  | .list id elements => exact h.values.listValue_meets h.merges (Plan.evalAll_meet h elements hp)
  | .map id entries =>
      exact h.values.mapValue_meets h.merges (fun f hf => h.nodes id f hp.1 hf)
        (Plan.evalEntries_meet h entries hp.2)
  | .message id provider type fields =>
      exact h.messageValue_meets hp.1 hp.2.1 type _
        (Plan.evalFields_meet h fields hp.2.2)
  | .failure id cause => exact h.of_yields hp yields_fail

theorem Attribute.eval_meets (h : vars.Supports V F S) (a : Attribute) (ha : a.Keeps V S) :
    Meets V F (a.eval vars) := by
  match a with
  | .named id name container provider readings =>
      rw [Attribute.eval]
      split
      · next result hresult =>
          exact Reading.search_meets h provider ha.2.1 id ha.1 readings ha.2.2 hresult
      · exact h.of_yields ha.1 yields_fail
  | .relative id operand accesses =>
      rw [Attribute.eval_relative]
      exact (Plan.eval_meets h operand ha.1).bind fun v hv =>
        Access.applyAll_meets h accesses ha.2 v hv
  | .conditional id condition yes no =>
      rw [Attribute.eval_conditional]
      refine (Plan.eval_meets h condition ha.2.1).bind fun v _ => ?_
      unfold chosen
      split
      · exact Attribute.eval_meets h yes ha.2.2.1
      · exact Attribute.eval_meets h no ha.2.2.2
      · exact h.of_yields ha.1 yields_noOverload

theorem Reading.search_meets (h : vars.Supports V F S) (provider : Provider)
    (hprovider : provider.Keeps V) (id : Int) (hid : S id) (readings : List Reading)
    (hreadings : Reading.AllKeep V S readings) {result : Outcome Value}
    (hresult : Reading.search vars provider id readings = some result) : Meets V F result := by
  match readings with
  | [] => cases hresult
  | .mk names accesses :: rest =>
      rw [Reading.search] at hresult
      split at hresult
      · next f hf =>
          obtain rfl := Option.some.inj hresult
          exact meets_error.mpr
            ((h.lookupName_meets hprovider hid _ _ hf).fault rfl)
      · next v hv =>
          obtain rfl := Option.some.inj hresult
          exact Access.applyAll_meets h accesses hreadings.1 v
            ((h.lookupName_meets hprovider hid _ _ hv).value rfl)
      · exact Reading.search_meets h provider hprovider id hid rest hreadings.2 hresult

theorem Access.applyAll_meets (h : vars.Supports V F S) (accesses : List Access)
    (haccesses : Access.AllKeep V S accesses) (v : Value) (hv : V v) :
    Meets V F (Access.applyAll vars accesses v) := by
  match accesses with
  | [] => exact meets_ok.mpr hv
  | .field id name :: rest =>
      rw [Access.applyAll_cons]
      exact (h.of_yields haccesses.1 (h.values.field_yields hv id name)).bind
        (Access.applyAll_meets h rest haccesses.2)
  | .index id key :: rest =>
      rw [Access.applyAll_cons]
      exact (h.of_yields haccesses.1 (h.values.index_yields hv id key)).bind
        (Access.applyAll_meets h rest haccesses.2)
  | .computed id key :: rest =>
      rw [Access.applyAll_cons]
      refine Meets.bind ?_ (Access.applyAll_meets h rest haccesses.2)
      exact (Plan.eval_meets h key haccesses.1.2).bind fun k _ =>
        h.of_yields haccesses.1.1 (h.values.index_yields hv id k)

theorem Plan.evalAll_meet (h : vars.Supports V F S) (plans : List Plan)
    (hplans : Plan.AllKeep V S plans) :
    ∀ o ∈ Plan.evalAll vars plans, Meets V F o := by
  match plans with
  | [] => exact fun _ ho => absurd ho List.not_mem_nil
  | p :: rest =>
      exact List.forall_mem_cons.mpr
        ⟨Plan.eval_meets h p hplans.1, Plan.evalAll_meet h rest hplans.2⟩

theorem Plan.evalEntries_meet (h : vars.Supports V F S) (entries : List (Plan × Plan))
    (hentries : Plan.EntriesKeep V S entries) :
    ∀ o ∈ Plan.evalEntries vars entries, Meets V F o := by
  match entries with
  | [] => exact fun _ ho => absurd ho List.not_mem_nil
  | (k, v) :: rest =>
      obtain ⟨hk, hv, hrest⟩ := hentries
      exact List.forall_mem_cons.mpr ⟨Plan.eval_meets h k hk, List.forall_mem_cons.mpr
        ⟨Plan.eval_meets h v hv, Plan.evalEntries_meet h rest hrest⟩⟩

theorem Plan.evalFields_meet (h : vars.Supports V F S) (fields : List (String × Plan))
    (hfields : Plan.FieldsKeep V S fields) :
    ∀ o ∈ Plan.evalFields vars fields, Meets V F o := by
  match fields with
  | [] => exact fun _ ho => absurd ho List.not_mem_nil
  | (name, p) :: rest =>
      exact List.forall_mem_cons.mpr
        ⟨Plan.eval_meets h p hfields.1, Plan.evalFields_meet h rest hfields.2⟩

end

end CommonExpr
