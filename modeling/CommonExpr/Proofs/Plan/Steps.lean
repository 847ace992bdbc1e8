import CommonExpr.Plan.Evaluation

/-!
Evaluation as composition of outcomes.

Every form of plan but the logical operators and calls evaluates its operands
and goes on with their values, up to the first fault.  Here this is said with
the composition of outcomes, one equation for each form, so that the theory of
evaluation need not open the evaluator again.
-/

namespace CommonExpr

/-- One access on a value. -/
def Access.apply (vars : Activation) (v : Value) : Access → Outcome Value
  | .field id name => v.field id name
  | .index id key => v.index id key
  | .computed id key => key.eval vars >>= v.index id

/-- The outcome that a condition chooses. -/
def chosen (id : Int) (yes no : Outcome Value) (condition : Value) : Outcome Value :=
  match condition.unwrap with
  | .bool true => yes
  | .bool false => no
  | other => noOverload id Operator.conditional [other]

theorem listValue_eq (elements : List (Outcome Value)) :
    listValue elements =
      collect elements >>= fun vs => .ok (.list (.list (commonType vs)) (.values vs)) := by
  unfold listValue
  cases collect elements <;> rfl

theorem mapValue_eq (id : Int) (parts : List (Outcome Value)) :
    mapValue id parts = collect parts >>= fun vs =>
      Value.newMap id
        (.map (commonType ((pairUp vs).map (·.1))) (commonType ((pairUp vs).map (·.2))))
        (.values (pairUp vs)) := by
  unfold mapValue
  cases collect parts <;> rfl

theorem messageValue_eq (id : Int) (provider : Provider) (type : String)
    (names : List String) (values : List (Outcome Value)) :
    messageValue id provider type names values = collect values >>= fun vs =>
      match repeatedName? [] names with
      | some name => fail id (.mapKeyConflict name)
      | none =>
          (provider.newValue id type (names.zip vs)).getD (fail id (.typeNotFound type)) := by
  unfold messageValue
  cases collect values <;> rfl

theorem Plan.eval_has (vars : Activation) (id : Int) (operand : Attribute) (field : String) :
    (Plan.has id operand field).eval vars =
      operand.eval vars >>= fun v => Value.bool <$> v.isSet id field := by
  rw [Plan.eval]
  cases operand.eval vars <;> rfl

theorem Attribute.eval_relative (vars : Activation) (id : Int) (operand : Plan)
    (accesses : List Access) :
    (Attribute.relative id operand accesses).eval vars =
      operand.eval vars >>= Access.applyAll vars accesses := by
  rw [Attribute.eval]
  cases operand.eval vars <;> rfl

theorem Attribute.eval_conditional (vars : Activation) (id : Int) (condition : Plan)
    (yes no : Attribute) :
    (Attribute.conditional id condition yes no).eval vars =
      condition.eval vars >>= chosen id (yes.eval vars) (no.eval vars) := by
  rw [Attribute.eval]
  cases condition.eval vars <;> rfl

theorem Access.applyAll_cons (vars : Activation) (access : Access) (rest : List Access)
    (v : Value) :
    Access.applyAll vars (access :: rest) v =
      access.apply vars v >>= Access.applyAll vars rest := by
  cases access with
  | field id name =>
      rw [Access.applyAll, Access.apply]
      cases v.field id name <;> rfl
  | index id key =>
      rw [Access.applyAll, Access.apply]
      cases v.index id key <;> rfl
  | computed id key =>
      rw [Access.applyAll, Access.apply]
      cases key.eval vars with
      | error f => rfl
      | ok k =>
          change _ = v.index id k >>= Access.applyAll vars rest
          cases hpart : v.index id k <;> simp only [hpart] <;> rfl

/-- Accesses are applied from left to right, up to the first fault. -/
theorem Access.applyAll_eq_foldlM (vars : Activation) (accesses : List Access) (v : Value) :
    Access.applyAll vars accesses v = accesses.foldlM (Access.apply vars) v := by
  induction accesses generalizing v with
  | nil => rfl
  | cons access rest ih =>
      rw [Access.applyAll_cons, List.foldlM_cons]
      congr
      funext part
      exact ih part

theorem Access.applyAll_append (vars : Activation) (first second : List Access) (v : Value) :
    Access.applyAll vars (first ++ second) v =
      Access.applyAll vars first v >>= Access.applyAll vars second := by
  rw [Access.applyAll_eq_foldlM, Access.applyAll_eq_foldlM, List.foldlM_append]
  congr
  funext part
  exact (Access.applyAll_eq_foldlM vars second part).symm

/-- A look-up asks for one name after the other. -/
theorem lookupName_eq_findSome? (vars : Activation) (provider : Provider) (id : Int)
    (bare : Bool) (names : List String) :
    lookupName vars provider id bare names = names.findSome? fun name =>
      (vars.resolve name).or (if bare then provider.findIdent id name else none) := by
  induction names with
  | nil => rfl
  | cons name rest ih =>
      rw [lookupName, List.findSome?_cons]
      cases vars.resolve name with
      | some bound => rfl
      | none =>
          rw [Option.none_or]
          cases (if bare then provider.findIdent id name else none) with
          | some known => rfl
          | none => exact ih

/-- The first reading with a known name counts. -/
theorem Reading.search_eq_findSome? (vars : Activation) (provider : Provider) (id : Int)
    (readings : List Reading) :
    Reading.search vars provider id readings = readings.findSome? fun r =>
      (lookupName vars provider id r.accesses.isEmpty r.names).map
        (· >>= Access.applyAll vars r.accesses) := by
  induction readings with
  | nil => rfl
  | cons reading rest ih =>
      obtain ⟨names, accesses⟩ := reading
      rw [Reading.search, List.findSome?_cons, Reading.names, Reading.accesses]
      cases lookupName vars provider id accesses.isEmpty names with
      | none => exact ih
      | some bound => cases bound <;> rfl

end CommonExpr
