import CommonExpr.Expr
import CommonExpr.Func.Registry
import CommonExpr.Namespace
import CommonExpr.Operator
import CommonExpr.Plan.Basic

/-!
Planning of expressions: the functions that go by a name, the names that an
identifier may stand for in its container, and the types of message literals
are all looked up before anything is evaluated.
-/

namespace CommonExpr

/-- Why an expression cannot be planned. -/
inductive PlanFault where
  | wrongArity (id : Int) (function : String) (expected found : Nat)
  | fieldInMap (id : Int) (name : String)
  | pairInMessage (id : Int) (message : String)
  deriving DecidableEq, Repr

namespace PlanFault

/-- The node or entry that is at fault. -/
def id : PlanFault → Int
  | .wrongArity id _ _ _ => id
  | .fieldInMap id _ => id
  | .pairInMessage id _ => id

def reason : PlanFault → String
  | .wrongArity _ function expected found =>
      s!"{function} expects {expected} arguments, got {found}"
  | .fieldInMap _ name => s!"field key '{name}' in map literal"
  | .pairInMessage _ message => s!"map key in {message} literal"

def message (f : PlanFault) : String := s!"invalid expression {f.id}: {f.reason}"

end PlanFault

/-- The functions, the types and the container that expressions are planned with. -/
structure Planner where
  dispatcher : Dispatcher
  provider : Provider
  scope : Namespace

namespace Planner

/-- The name without leading dots. -/
def bareName (name : String) : String := String.ofList (name.toList.dropWhile (· == '.'))

/-- An identifier, with the names it may stand for. -/
def identifier (p : Planner) (id : Int) (name : String) : Attribute :=
  .named id (bareName name) p.scope.name p.provider [.mk (p.scope.candidates name) []]

/-- The first of several full names that functions go by, and these functions. -/
def firstKnown? (d : Dispatcher) : List String → Option (String × List Func)
  | [] => none
  | name :: rest =>
      match d.candidates name with
      | [] => firstKnown? d rest
      | candidates => some (name, candidates)

/-- The functions that a call on `target` means when the target, too, is part
of the function's name. -/
def qualifiedFunction? (p : Planner) (target : Expr) (function : String) :
    Option (String × List Func) :=
  match target.qualifiedName? with
  | none => none
  | some q => firstKnown? p.dispatcher (p.scope.candidates (q ++ "." ++ function))

/-- The first full name of a type that the provider knows. -/
def resolveType? (p : Planner) (name : String) : Option String :=
  (p.scope.candidates name).find? fun candidate => (p.provider.findType candidate).isSome

/-- The access that an index operator makes. -/
def indexAccess (id : Int) : Plan → Access
  | .value _ key => .index id key
  | key => .computed id key

/-- A call with all its operands, the receiver first. -/
def callOn (p : Planner) (id : Int) (function : String) (operands : List Plan) :
    Except PlanFault Plan :=
  if function = Operator.logicalAnd then
    match operands with
    | [l, r] => .ok (.and id l r)
    | _ => .error (.wrongArity id function 2 operands.length)
  else if function = Operator.logicalOr then
    match operands with
    | [l, r] => .ok (.or id l r)
    | _ => .error (.wrongArity id function 2 operands.length)
  else if function = Operator.conditional then
    match operands with
    | [c, t, f] => .ok (.attribute (.conditional id c t.toAttribute f.toAttribute))
    | _ => .error (.wrongArity id function 3 operands.length)
  else if function = Operator.index then
    match operands with
    | [operand, key] => .ok (.attribute (operand.toAttribute.add (indexAccess id key)))
    | _ => .error (.wrongArity id function 2 operands.length)
  else .ok (.call id function (p.dispatcher.candidates function) operands)

/-- A message literal, an error for a type that is not known. -/
def messageOn (p : Planner) (id : Int) (message : String) (fields : List (String × Plan)) : Plan :=
  match p.resolveType? message with
  | some type => .message id p.provider type fields
  | none => .failure id (.typeNotFound message)

mutual

/-- Plans an expression. -/
def plan (p : Planner) : Expr → Except PlanFault Plan
  | .literal id value => .ok (.value id (.ofLiteral value))
  | .ident id name => .ok (.attribute (p.identifier id name))
  | .select id operand field =>
      match p.plan operand with
      | .error f => .error f
      | .ok o => .ok (.attribute (o.toAttribute.add (.field id field)))
  | .has id operand field =>
      match p.plan operand with
      | .error f => .error f
      | .ok o => .ok (.has id o.toAttribute field)
  | .call id function args =>
      match p.planAll args with
      | .error f => .error f
      | .ok operands => p.callOn id (Operator.canonical function) operands
  | .memberCall id target function args =>
      match p.qualifiedFunction? target (Operator.canonical function) with
      | some (name, candidates) =>
          match p.planAll args with
          | .error f => .error f
          | .ok operands => .ok (.call id name candidates operands)
      | none =>
          match p.plan target with
          | .error f => .error f
          | .ok receiver =>
              match p.planAll args with
              | .error f => .error f
              | .ok operands => p.callOn id (Operator.canonical function) (receiver :: operands)
  | .list id elements =>
      match p.planAll elements with
      | .error f => .error f
      | .ok plans => .ok (.list id plans)
  | .struct id message entries =>
      if message = "" then
        match p.planPairs entries with
        | .error f => .error f
        | .ok pairs => .ok (.map id pairs)
      else
        match p.planFields message entries with
        | .error f => .error f
        | .ok fields => .ok (p.messageOn id message fields)

/-- Plans expressions in order, up to the first fault. -/
def planAll (p : Planner) : List Expr → Except PlanFault (List Plan)
  | [] => .ok []
  | e :: rest =>
      match p.plan e with
      | .error f => .error f
      | .ok head =>
          match p.planAll rest with
          | .error f => .error f
          | .ok tail => .ok (head :: tail)

/-- Plans the entries of a map literal. -/
def planPairs (p : Planner) : List Entry → Except PlanFault (List (Plan × Plan))
  | [] => .ok []
  | .field id name _ :: _ => .error (.fieldInMap id name)
  | .pair _ key value :: rest =>
      match p.plan key with
      | .error f => .error f
      | .ok k =>
          match p.plan value with
          | .error f => .error f
          | .ok v =>
              match p.planPairs rest with
              | .error f => .error f
              | .ok tail => .ok ((k, v) :: tail)

/-- Plans the fields of a message literal. -/
def planFields (p : Planner) (message : String) :
    List Entry → Except PlanFault (List (String × Plan))
  | [] => .ok []
  | .pair id _ _ :: _ => .error (.pairInMessage id message)
  | .field _ name value :: rest =>
      match p.plan value with
      | .error f => .error f
      | .ok v =>
          match p.planFields message rest with
          | .error f => .error f
          | .ok tail => .ok ((name, v) :: tail)

end

end Planner

end CommonExpr
