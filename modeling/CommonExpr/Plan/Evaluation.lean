import CommonExpr.Activation
import CommonExpr.Operator
import CommonExpr.Plan.Basic
import CommonExpr.Value.Access

/-!
Evaluation of plans.

Evaluation never stops at the first fault it meets: operands are all evaluated
and their faults merged, and an operand that decides `&&` or `||` does so
whatever the other one is.
-/

namespace CommonExpr

/-- The type that all values share, or `dyn`. -/
def commonType : List Value → Ty
  | [] => .dyn
  | v :: rest => if rest.all fun w => w.ty.identical v.ty then v.ty else .dyn

/-- Whether an outcome is this truth value. -/
def isBool (b : Bool) : Outcome Value → Bool
  | .ok (.bool c) => b == c
  | _ => false

/-- Conjunction when `decisive` is false, disjunction when it is true.  Either
operand decides; else faults go before operands that are no truth values. -/
def logic (id : Int) (function : String) (decisive : Bool) (left right : Outcome Value) :
    Outcome Value :=
  let l := Value.unwrap <$> left
  let r := Value.unwrap <$> right
  if isBool decisive l || isBool decisive r then .ok (.bool decisive)
  else
    match l, r with
    | .ok (.bool _), .ok (.bool _) => .ok (.bool !decisive)
    | .error f, .error g => .error (f.merge g)
    | .error f, .ok _ => .error f
    | .ok _, .error g => .error g
    | .ok a, .ok b => noOverload id function [a, b]

/-- The list of elements, typed by what they have in common. -/
def listValue (elements : List (Outcome Value)) : Outcome Value :=
  match collect elements with
  | .error f => .error f
  | .ok vs => .ok (.list (.list (commonType vs)) (.values vs))

/-- Splits keys and values that alternate. -/
def pairUp : List Value → List (Value × Value)
  | k :: v :: rest => (k, v) :: pairUp rest
  | _ => []

/-- The map of keys and values that alternate. -/
def mapValue (id : Int) (parts : List (Outcome Value)) : Outcome Value :=
  match collect parts with
  | .error f => .error f
  | .ok vs =>
      let entries := pairUp vs
      Value.newMap id (.map (commonType (entries.map (·.1))) (commonType (entries.map (·.2))))
        (.values entries)

/-- The first name that an earlier field has already. -/
def repeatedName? : (seen : List String) → List String → Option String
  | _, [] => none
  | seen, name :: rest =>
      if seen.contains name then some name else repeatedName? (name :: seen) rest

/-- The message of named fields. -/
def messageValue (id : Int) (provider : Provider) (type : String) (names : List String)
    (values : List (Outcome Value)) : Outcome Value :=
  match collect values with
  | .error f => .error f
  | .ok vs =>
      match repeatedName? [] names with
      | some name => fail id (.mapKeyConflict name)
      | none => (provider.newValue id type (names.zip vs)).getD (fail id (.typeNotFound type))

/-- What the first name stands for that is bound, or, for names without
accesses, that the provider knows. -/
def lookupName (vars : Activation) (provider : Provider) (id : Int) (bare : Bool) :
    List String → Option (Outcome Value)
  | [] => none
  | name :: rest =>
      match vars.resolve name with
      | some bound => some bound
      | none =>
          match (if bare then provider.findIdent id name else none) with
          | some known => some known
          | none => lookupName vars provider id bare rest

mutual

/-- The outcome of a plan. -/
def Plan.eval (vars : Activation) : Plan → Outcome Value
  | .value _ v => .ok v
  | .attribute a => a.eval vars
  | .has id operand field =>
      match operand.eval vars with
      | .error f => .error f
      | .ok v => Value.bool <$> v.isSet id field
  | .and id left right =>
      logic id Operator.logicalAnd false (left.eval vars) (right.eval vars)
  | .or id left right => logic id Operator.logicalOr true (left.eval vars) (right.eval vars)
  | .call id function candidates args =>
      Func.dispatchFirst id function (Plan.evalAll vars args) candidates
  | .list _ elements => listValue (Plan.evalAll vars elements)
  | .map id entries => mapValue id (Plan.evalEntries vars entries)
  | .message id provider type fields =>
      messageValue id provider type (fields.map (·.1)) (Plan.evalFields vars fields)
  | .failure id cause => fail id cause

/-- The outcome of an attribute. -/
def Attribute.eval (vars : Activation) : Attribute → Outcome Value
  | .named id name container provider readings =>
      match Reading.search vars provider id readings with
      | some result => result
      | none => fail id (.undeclaredReference name container)
  | .relative _ operand accesses =>
      match operand.eval vars with
      | .error f => .error f
      | .ok v => Access.applyAll vars accesses v
  | .conditional id condition yes no =>
      match condition.eval vars with
      | .error f => .error f
      | .ok v =>
          match v.unwrap with
          | .bool true => yes.eval vars
          | .bool false => no.eval vars
          | other => noOverload id Operator.conditional [other]

/-- The outcome of the first reading with a known name. -/
def Reading.search (vars : Activation) (provider : Provider) (id : Int) :
    List Reading → Option (Outcome Value)
  | [] => none
  | .mk names accesses :: rest =>
      match lookupName vars provider id accesses.isEmpty names with
      | some (.error f) => some (.error f)
      | some (.ok v) => some (Access.applyAll vars accesses v)
      | none => Reading.search vars provider id rest

/-- Goes from a value along accesses, up to the first fault. -/
def Access.applyAll (vars : Activation) : List Access → Value → Outcome Value
  | [], v => .ok v
  | .field id name :: rest, v =>
      match v.field id name with
      | .error f => .error f
      | .ok part => Access.applyAll vars rest part
  | .index id key :: rest, v =>
      match v.index id key with
      | .error f => .error f
      | .ok part => Access.applyAll vars rest part
  | .computed id key :: rest, v =>
      match key.eval vars with
      | .error f => .error f
      | .ok k =>
          match v.index id k with
          | .error f => .error f
          | .ok part => Access.applyAll vars rest part

/-- The outcomes of plans in order. -/
def Plan.evalAll (vars : Activation) : List Plan → List (Outcome Value)
  | [] => []
  | p :: rest => p.eval vars :: Plan.evalAll vars rest

/-- The outcomes of keys and values in order. -/
def Plan.evalEntries (vars : Activation) : List (Plan × Plan) → List (Outcome Value)
  | [] => []
  | (k, v) :: rest => k.eval vars :: v.eval vars :: Plan.evalEntries vars rest

/-- The outcomes of fields in order. -/
def Plan.evalFields (vars : Activation) : List (String × Plan) → List (Outcome Value)
  | [] => []
  | (_, p) :: rest => p.eval vars :: Plan.evalFields vars rest

end

end CommonExpr
