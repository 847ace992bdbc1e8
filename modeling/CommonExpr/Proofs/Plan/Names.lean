import CommonExpr.Proofs.Plan.Steps

/-!
The names that a plan asks for.

Evaluation asks an activation for the names in the readings of a plan, and for no other.
Main statement: activations that bind these names alike give the same outcome.  In
particular a stack of layers can be replaced by one set of bindings.
-/

namespace CommonExpr

mutual

/-- The names in all readings of a plan. -/
def Plan.names : Plan → List String
  | .value _ _ => []
  | .attribute a => a.names
  | .has _ operand _ => operand.names
  | .and _ left right => left.names ++ right.names
  | .or _ left right => left.names ++ right.names
  | .call _ _ _ args => Plan.listNames args
  | .list _ elements => Plan.listNames elements
  | .map _ entries => Plan.entryNames entries
  | .message _ _ _ fields => Plan.fieldNames fields
  | .failure _ _ => []

def Attribute.names : Attribute → List String
  | .named _ _ _ _ readings => Reading.listNames readings
  | .relative _ operand accesses => operand.names ++ Access.listNames accesses
  | .conditional _ condition yes no => condition.names ++ (yes.names ++ no.names)

def Reading.listNames : List Reading → List String
  | [] => []
  | .mk names accesses :: rest => names ++ (Access.listNames accesses ++ Reading.listNames rest)

/-- The names in the keys of accesses. -/
def Access.listNames : List Access → List String
  | [] => []
  | .field _ _ :: rest => Access.listNames rest
  | .index _ _ :: rest => Access.listNames rest
  | .computed _ key :: rest => key.names ++ Access.listNames rest

def Plan.listNames : List Plan → List String
  | [] => []
  | p :: rest => p.names ++ Plan.listNames rest

def Plan.entryNames : List (Plan × Plan) → List String
  | [] => []
  | (k, v) :: rest => k.names ++ (v.names ++ Plan.entryNames rest)

def Plan.fieldNames : List (String × Plan) → List String
  | [] => []
  | (_, p) :: rest => p.names ++ Plan.fieldNames rest

end

/-- Whether two activations bind these names alike. -/
def Activation.AgreeOn (names : List String) (vars vars' : Activation) : Prop :=
  ∀ name ∈ names, vars.resolve name = vars'.resolve name

namespace Activation

variable {vars vars' : Activation} {names : List String}

theorem agreeOn_append {more : List String} :
    AgreeOn (names ++ more) vars vars' ↔ AgreeOn names vars vars' ∧ AgreeOn more vars vars' :=
  List.forall_mem_append

/-- The same layer over activations that agree. -/
theorem AgreeOn.layer (hagree : AgreeOn names vars vars') (locals : Bindings) :
    AgreeOn names (vars.layer locals) (vars'.layer locals) := by
  intro name hname
  simp only [Activation.layer]
  rw [hagree name hname]

theorem AgreeOn.layers (hagree : AgreeOn names vars vars') (stack : List Bindings) :
    AgreeOn names (vars.layers stack) (vars'.layers stack) := by
  induction stack generalizing vars vars' with
  | nil => exact hagree
  | cons locals rest ih => exact ih (hagree.layer locals)

end Activation

/-! Evaluation -/

theorem lookupName_eq_of_agreeOn {vars vars' : Activation} (provider : Provider) (id : Int)
    (bare : Bool) {names : List String} (hagree : Activation.AgreeOn names vars vars') :
    lookupName vars provider id bare names = lookupName vars' provider id bare names := by
  induction names with
  | nil => rfl
  | cons name rest ih =>
      have hrest := ih fun other hother => hagree other (List.mem_cons_of_mem _ hother)
      rw [lookupName, lookupName, hagree name List.mem_cons_self, hrest]

variable {vars vars' : Activation}

mutual

/-- Equal bindings of the names give equal outcomes: one case for each form of plan. -/
theorem Plan.eval_eq_of_agreeOn (p : Plan) (hagree : Activation.AgreeOn p.names vars vars') :
    p.eval vars = p.eval vars' := by
  match p with
  | .value _ _ => rfl
  | .attribute a => exact Attribute.eval_eq_of_agreeOn a hagree
  | .has id operand field =>
      have hoperand := Attribute.eval_eq_of_agreeOn operand hagree
      rw [Plan.eval_has, Plan.eval_has, hoperand]
  | .and id left right =>
      obtain ⟨hleft, hright⟩ := Activation.agreeOn_append.mp hagree
      rw [Plan.eval, Plan.eval, Plan.eval_eq_of_agreeOn left hleft,
        Plan.eval_eq_of_agreeOn right hright]
  | .or id left right =>
      obtain ⟨hleft, hright⟩ := Activation.agreeOn_append.mp hagree
      rw [Plan.eval, Plan.eval, Plan.eval_eq_of_agreeOn left hleft,
        Plan.eval_eq_of_agreeOn right hright]
  | .call id function candidates args =>
      rw [Plan.eval, Plan.eval, Plan.evalAll_eq_of_agreeOn args hagree]
  | .list id elements =>
      rw [Plan.eval, Plan.eval, Plan.evalAll_eq_of_agreeOn elements hagree]
  | .map id entries =>
      rw [Plan.eval, Plan.eval, Plan.evalEntries_eq_of_agreeOn entries hagree]
  | .message id provider type fields =>
      rw [Plan.eval, Plan.eval, Plan.evalFields_eq_of_agreeOn fields hagree]
  | .failure id cause => rfl

theorem Attribute.eval_eq_of_agreeOn (a : Attribute)
    (hagree : Activation.AgreeOn a.names vars vars') : a.eval vars = a.eval vars' := by
  match a with
  | .named id name container provider readings =>
      rw [Attribute.eval, Attribute.eval,
        Reading.search_eq_of_agreeOn provider id readings hagree]
  | .relative id operand accesses =>
      obtain ⟨hoperand, haccesses⟩ := Activation.agreeOn_append.mp hagree
      rw [Attribute.eval_relative, Attribute.eval_relative,
        Plan.eval_eq_of_agreeOn operand hoperand]
      apply bind_congr
      intro v
      exact Access.applyAll_eq_of_agreeOn accesses haccesses v
  | .conditional id condition yes no =>
      obtain ⟨hcondition, hbranches⟩ := Activation.agreeOn_append.mp hagree
      obtain ⟨hyes, hno⟩ := Activation.agreeOn_append.mp hbranches
      rw [Attribute.eval_conditional, Attribute.eval_conditional,
        Plan.eval_eq_of_agreeOn condition hcondition, Attribute.eval_eq_of_agreeOn yes hyes,
        Attribute.eval_eq_of_agreeOn no hno]

theorem Reading.search_eq_of_agreeOn (provider : Provider) (id : Int) (readings : List Reading)
    (hagree : Activation.AgreeOn (Reading.listNames readings) vars vars') :
    Reading.search vars provider id readings = Reading.search vars' provider id readings := by
  match readings with
  | [] => rfl
  | .mk names accesses :: rest =>
      obtain ⟨hnames, hmore⟩ := Activation.agreeOn_append.mp hagree
      obtain ⟨haccesses, hrest⟩ := Activation.agreeOn_append.mp hmore
      have happly : Access.applyAll vars accesses = Access.applyAll vars' accesses := by
        funext v
        exact Access.applyAll_eq_of_agreeOn accesses haccesses v
      rw [Reading.search, Reading.search, lookupName_eq_of_agreeOn provider id _ hnames,
        Reading.search_eq_of_agreeOn provider id rest hrest, happly]

theorem Access.applyAll_eq_of_agreeOn (accesses : List Access)
    (hagree : Activation.AgreeOn (Access.listNames accesses) vars vars') (v : Value) :
    Access.applyAll vars accesses v = Access.applyAll vars' accesses v := by
  match accesses with
  | [] => rfl
  | .field id name :: rest =>
      rw [Access.applyAll_cons, Access.applyAll_cons]
      apply bind_congr
      intro part
      exact Access.applyAll_eq_of_agreeOn rest hagree part
  | .index id key :: rest =>
      rw [Access.applyAll_cons, Access.applyAll_cons]
      apply bind_congr
      intro part
      exact Access.applyAll_eq_of_agreeOn rest hagree part
  | .computed id key :: rest =>
      obtain ⟨hkey, hrest⟩ := Activation.agreeOn_append.mp hagree
      rw [Access.applyAll_cons, Access.applyAll_cons, Access.apply, Access.apply,
        Plan.eval_eq_of_agreeOn key hkey]
      apply bind_congr
      intro part
      exact Access.applyAll_eq_of_agreeOn rest hrest part

theorem Plan.evalAll_eq_of_agreeOn (plans : List Plan)
    (hagree : Activation.AgreeOn (Plan.listNames plans) vars vars') :
    Plan.evalAll vars plans = Plan.evalAll vars' plans := by
  match plans with
  | [] => rfl
  | p :: rest =>
      obtain ⟨hp, hrest⟩ := Activation.agreeOn_append.mp hagree
      rw [Plan.evalAll, Plan.evalAll, Plan.eval_eq_of_agreeOn p hp,
        Plan.evalAll_eq_of_agreeOn rest hrest]

theorem Plan.evalEntries_eq_of_agreeOn (entries : List (Plan × Plan))
    (hagree : Activation.AgreeOn (Plan.entryNames entries) vars vars') :
    Plan.evalEntries vars entries = Plan.evalEntries vars' entries := by
  match entries with
  | [] => rfl
  | (k, v) :: rest =>
      obtain ⟨hk, hmore⟩ := Activation.agreeOn_append.mp hagree
      obtain ⟨hv, hrest⟩ := Activation.agreeOn_append.mp hmore
      rw [Plan.evalEntries, Plan.evalEntries, Plan.eval_eq_of_agreeOn k hk,
        Plan.eval_eq_of_agreeOn v hv, Plan.evalEntries_eq_of_agreeOn rest hrest]

theorem Plan.evalFields_eq_of_agreeOn (fields : List (String × Plan))
    (hagree : Activation.AgreeOn (Plan.fieldNames fields) vars vars') :
    Plan.evalFields vars fields = Plan.evalFields vars' fields := by
  match fields with
  | [] => rfl
  | (name, p) :: rest =>
      obtain ⟨hp, hrest⟩ := Activation.agreeOn_append.mp hagree
      rw [Plan.evalFields, Plan.evalFields, Plan.eval_eq_of_agreeOn p hp,
        Plan.evalFields_eq_of_agreeOn rest hrest]

end

/-! Layers -/

namespace Bindings

theorem find?_cons (name : String) (o : Outcome Value) (rest : List (String × Outcome Value))
    (other : String) :
    find? ⟨(name, o) :: rest⟩ other = if other = name then some o else find? ⟨rest⟩ other := by
  simp only [find?, List.lookup_cons]
  by_cases hother : other = name
  · simp [hother]
  · simp [hother, beq_eq_false_iff_ne.mpr hother]

theorem find?_erase (b : Bindings) (name other : String) :
    (b.erase name).find? other = if other = name then none else b.find? other := by
  obtain ⟨entries⟩ := b
  rw [erase]
  induction entries with
  | nil => simp [find?]
  | cons entry rest ih =>
      obtain ⟨n, o⟩ := entry
      by_cases hn : n = name
      · rw [List.filter_cons_of_neg (by simp [hn]), ih, find?_cons, hn]
        by_cases hother : other = name
        · rw [if_pos hother, if_pos hother]
        · rw [if_neg hother, if_neg hother, if_neg hother]
      · rw [List.filter_cons_of_pos (by simp [hn]), find?_cons, find?_cons, ih]
        by_cases hother : other = name
        · rw [if_pos hother, if_pos hother, if_neg (fun heq => hn (heq.symm.trans hother))]
        · rw [if_neg hother, if_neg hother]

theorem find?_insert (b : Bindings) (name : String) (o : Outcome Value) (other : String) :
    (b.insert name o).find? other = if other = name then some o else b.find? other := by
  have herase := find?_erase b name other
  simp only [find?] at herase ⊢
  rw [insert, List.lookup_append, herase]
  by_cases hother : other = name
  · simp [hother]
  · simp [hother, List.lookup_cons, beq_eq_false_iff_ne.mpr hother]

/-- Inner bindings overwrite outer ones. -/
def overlay (outer inner : Bindings) : Bindings :=
  inner.entries.foldr (fun entry b => b.insert entry.1 entry.2) outer

/-- Step: what one layer resolves, the bindings with the layer written over them do. -/
theorem find?_overlay (outer inner : Bindings) (name : String) :
    (outer.overlay inner).find? name = (inner.find? name).or (outer.find? name) := by
  obtain ⟨entries⟩ := inner
  induction entries with
  | nil => rfl
  | cons entry rest ih =>
      obtain ⟨n, o⟩ := entry
      rw [overlay, List.foldr_cons, find?_insert, find?_cons]
      by_cases hname : name = n
      · rw [if_pos hname, if_pos hname, Option.some_or]
      · rw [if_neg hname, if_neg hname]
        exact ih

/-- Bindings with a stack of layers written over them, the last of which are innermost. -/
def flatten (base : Bindings) (stack : List Bindings) : Bindings := stack.foldl overlay base

end Bindings

namespace Activation

theorem layer_ofBindings (outer inner : Bindings) :
    (ofBindings outer).layer inner = ofBindings (outer.overlay inner) := by
  rw [layer, ofBindings, ofBindings, mk.injEq]
  funext name
  exact (Bindings.find?_overlay outer inner name).symm

/-- Run: a stack of layers over bindings is one set of bindings. -/
theorem layers_ofBindings (base : Bindings) (stack : List Bindings) :
    (ofBindings base).layers stack = ofBindings (base.flatten stack) := by
  induction stack generalizing base with
  | nil => rfl
  | cons locals rest ih =>
      rw [layers, List.foldl_cons, layer_ofBindings]
      exact ih (base.overlay locals)

/-- What an activation binds these names to, each name once. -/
def bindingsOf (vars : Activation) (names : List String) : Bindings :=
  ⟨names.eraseDups.filterMap fun name => (vars.resolve name).map fun o => (name, o)⟩

theorem find?_bindings (vars : Activation) (names : List String) (name : String) :
    Bindings.find? ⟨names.filterMap fun n => (vars.resolve n).map fun o => (n, o)⟩ name =
      if name ∈ names then vars.resolve name else none := by
  induction names with
  | nil => rfl
  | cons head rest ih =>
      rw [List.filterMap_cons]
      by_cases hname : name = head
      · subst hname
        cases hbound : vars.resolve name with
        | none => simp [ih, hbound]
        | some o => simp [Bindings.find?_cons]
      · cases hbound : vars.resolve head with
        | none => simp [ih, hname]
        | some o => simp [ih, hname, Bindings.find?_cons]

theorem agreeOn_bindingsOf (vars : Activation) (names : List String) :
    AgreeOn names vars (ofBindings (vars.bindingsOf names)) := by
  intro name hname
  have hdistinct : name ∈ names.eraseDups := List.mem_eraseDups.mpr hname
  have hfind := vars.find?_bindings names.eraseDups name
  rw [if_pos hdistinct] at hfind
  exact hfind.symm

end Activation

end CommonExpr
