import CommonExpr.Func
import CommonExpr.Provider

/-!
Plans: expressions with every name resolved as far as that is possible without
the variables.

A chain of accesses on an identifier is an attribute.  Inside container `x`,
`a.b.c` may be the variable `x.a.b.c`, the field `c` of the variable `x.a.b`, and
so on; an attribute keeps every reading, the most qualified first.
-/

namespace CommonExpr

mutual

/-- A planned expression. -/
inductive Plan where
  | value (id : Int) (v : Value)
  | attribute (a : Attribute)
  /-- Whether the operand has a field set. -/
  | has (id : Int) (operand : Attribute) (field : String)
  | and (id : Int) (left right : Plan)
  | or (id : Int) (left right : Plan)
  /-- A call, with the functions that go by its name. -/
  | call (id : Int) (function : String) (candidates : List Func) (args : List Plan)
  | list (id : Int) (elements : List Plan)
  | map (id : Int) (entries : List (Plan × Plan))
  | message (id : Int) (provider : Provider) (type : String) (fields : List (String × Plan))
  /-- An error whatever the variables are. -/
  | failure (id : Int) (cause : Cause)

/-- A reference to a value, to which further accesses can be added. -/
inductive Attribute where
  /-- An identifier and its readings; `name` and `container` serve messages. -/
  | named (id : Int) (name container : String) (provider : Provider) (readings : List Reading)
  /-- Accesses on the value of any expression. -/
  | relative (id : Int) (operand : Plan) (accesses : List Access)
  /-- The attribute that a condition chooses. -/
  | conditional (id : Int) (condition : Plan) (yes no : Attribute)

/-- Variables by any of several names, and accesses on them. -/
inductive Reading where
  | mk (names : List String) (accesses : List Access)

/-- A step from a value to a part of it. -/
inductive Access where
  | field (id : Int) (name : String)
  | index (id : Int) (key : Value)
  /-- An index that is evaluated first. -/
  | computed (id : Int) (key : Plan)

end

namespace Attribute

def id : Attribute → Int
  | .named id _ _ _ _ => id
  | .relative id _ _ => id
  | .conditional id _ _ _ => id

end Attribute

/-- The id of the node a plan came from. -/
def Plan.id : Plan → Int
  | .value id _ => id
  | .attribute a => a.id
  | .has id _ _ => id
  | .and id _ _ => id
  | .or id _ _ => id
  | .call id _ _ _ => id
  | .list id _ => id
  | .map id _ => id
  | .message id _ _ _ => id
  | .failure id _ => id

/-- A plan as an attribute that takes accesses. -/
def Plan.toAttribute : Plan → Attribute
  | .attribute a => a
  | other => .relative other.id other []

namespace Reading

def names : Reading → List String
  | .mk names _ => names

def accesses : Reading → List Access
  | .mk _ accesses => accesses

/-- The reading with one more access. -/
def add (access : Access) : Reading → Reading
  | .mk names accesses => .mk names (accesses ++ [access])

/-- The names of readings without accesses, each with a field appended. -/
def qualified (field : String) (readings : List Reading) : List String :=
  (readings.filter (·.accesses.isEmpty)).flatMap fun r => r.names.map (· ++ "." ++ field)

/-- Adds an access to all readings.  A field may also belong to a name. -/
def addAll (access : Access) (readings : List Reading) : List Reading :=
  let longer := readings.map (add access)
  match access with
  | .field _ name =>
      match qualified name readings with
      | [] => longer
      | names => .mk names [] :: longer
  | _ => longer

end Reading

/-- Adds an access to an attribute. -/
def Attribute.add (access : Access) : Attribute → Attribute
  | .named id name container provider readings =>
      .named id name container provider (Reading.addAll access readings)
  | .relative id operand accesses => .relative id operand (accesses ++ [access])
  | .conditional id condition yes no =>
      .conditional id condition (yes.add access) (no.add access)

end CommonExpr
