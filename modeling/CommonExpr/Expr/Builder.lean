import CommonExpr.Expr

/-!
Building trees with fresh ids.  A node draws its id after its children, so ids
rise in post-order; a map or message literal draws one id per entry just before
its own.
-/

namespace CommonExpr

/-- A computation that draws ids; the state is the last id drawn. -/
abbrev Builder := StateM Int

namespace Builder

def run' {α : Type} (b : Builder α) : α := (b.run 0).1

/-- Draws the next id. -/
def fresh : Builder Int := modifyGet fun last => (last + 1, last + 1)

def literal (value : Literal) : Builder Expr := return .literal (← fresh) value

def ident (name : String) : Builder Expr := return .ident (← fresh) name

def select (operand : Expr) (field : String) : Builder Expr :=
  return .select (← fresh) operand field

def has (operand : Expr) (field : String) : Builder Expr :=
  return .has (← fresh) operand field

def call (function : String) (args : List Expr) : Builder Expr :=
  return .call (← fresh) function args

def memberCall (target : Expr) (function : String) (args : List Expr) : Builder Expr :=
  return .memberCall (← fresh) target function args

def index (operand key : Expr) : Builder Expr := call "_[_]" [operand, key]

def conditional (condition yes no : Expr) : Builder Expr := call "_?_:_" [condition, yes, no]

def list (elements : List Expr) : Builder Expr := return .list (← fresh) elements

/-- Draws an id for each pair. -/
def pairs : List (Expr × Expr) → Builder (List Entry)
  | [] => return []
  | (key, value) :: rest => do
      let id ← fresh
      return .pair id key value :: (← pairs rest)

/-- Draws an id for each field. -/
def fields : List (String × Expr) → Builder (List Entry)
  | [] => return []
  | (name, value) :: rest => do
      let id ← fresh
      return .field id name value :: (← fields rest)

def map (entries : List (Expr × Expr)) : Builder Expr := do
  let entries ← pairs entries
  return .struct (← fresh) "" entries

def message (name : String) (entries : List (String × Expr)) : Builder Expr := do
  let entries ← fields entries
  return .struct (← fresh) name entries

end Builder

end CommonExpr
