import CommonExpr.Scalar

/-!
Expression trees.  Every node and every entry of a map or message literal has
an id, which faults refer to.  Operators are calls of functions with reserved
names.
-/

namespace CommonExpr

mutual

/-- An expression. -/
inductive Expr where
  | literal (id : Int) (value : Literal)
  | ident (id : Int) (name : String)
  | select (id : Int) (operand : Expr) (field : String)
  /-- Whether the operand has the field set. -/
  | has (id : Int) (operand : Expr) (field : String)
  | call (id : Int) (function : String) (args : List Expr)
  | memberCall (id : Int) (target : Expr) (function : String) (args : List Expr)
  | list (id : Int) (elements : List Expr)
  /-- A map when `message` is empty, else a message of that type. -/
  | struct (id : Int) (message : String) (entries : List Entry)

/-- An entry of a map or message literal. -/
inductive Entry where
  | field (id : Int) (name : String) (value : Expr)
  | pair (id : Int) (key value : Expr)

end

namespace Expr

def id : Expr → Int
  | .literal id _ => id
  | .ident id _ => id
  | .select id _ _ => id
  | .has id _ _ => id
  | .call id _ _ => id
  | .memberCall id _ _ _ => id
  | .list id _ => id
  | .struct id _ _ => id

/-- The same node under another id. -/
def withId (id : Int) : Expr → Expr
  | .literal _ value => .literal id value
  | .ident _ name => .ident id name
  | .select _ operand field => .select id operand field
  | .has _ operand field => .has id operand field
  | .call _ function args => .call id function args
  | .memberCall _ target function args => .memberCall id target function args
  | .list _ elements => .list id elements
  | .struct _ message entries => .struct id message entries

/-- The dotted name that an identifier or a chain of selections spells. -/
def qualifiedName? : Expr → Option String
  | .ident _ name => some name
  | .select _ operand field => operand.qualifiedName?.map (· ++ "." ++ field)
  | _ => none

end Expr

def Entry.id : Entry → Int
  | .field id _ _ => id
  | .pair id _ _ => id

mutual

/-- Equality of trees, with numeric equality of double literals. -/
def Expr.same : Expr → Expr → Bool
  | .literal i a, .literal j b => i == j && a.same b
  | .ident i a, .ident j b => i == j && a == b
  | .select i e f, .select j e' f' => i == j && e.same e' && f == f'
  | .has i e f, .has j e' f' => i == j && e.same e' && f == f'
  | .call i f args, .call j f' args' => i == j && f == f' && Expr.sameList args args'
  | .memberCall i e f args, .memberCall j e' f' args' =>
      i == j && e.same e' && f == f' && Expr.sameList args args'
  | .list i es, .list j es' => i == j && Expr.sameList es es'
  | .struct i m es, .struct j m' es' => i == j && m == m' && Entry.sameList es es'
  | _, _ => false

def Expr.sameList : List Expr → List Expr → Bool
  | [], [] => true
  | a :: as, b :: bs => a.same b && Expr.sameList as bs
  | _, _ => false

def Entry.same : Entry → Entry → Bool
  | .field i n e, .field j n' e' => i == j && n == n' && e.same e'
  | .pair i k e, .pair j k' e' => i == j && k.same k' && e.same e'
  | _, _ => false

def Entry.sameList : List Entry → List Entry → Bool
  | [], [] => true
  | a :: as, b :: bs => a.same b && Entry.sameList as bs
  | _, _ => false

end

end CommonExpr
