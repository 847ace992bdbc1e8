import CommonExpr.Number.Comparison
import CommonExpr.Number.Decimal
import CommonExpr.Text.Quoted
import CommonExpr.Ty

/-!
Scalars and literals.
-/

namespace CommonExpr

/-- A value without parts. -/
inductive Scalar where
  | bool (b : Bool)
  | int (i : Int64)
  | uint (u : UInt64)
  | double (d : Double)
  | string (s : String)
  | bytes (b : List UInt8)
  deriving DecidableEq, Repr

def boolText (b : Bool) : String := if b then "true" else "false"

namespace Scalar

def ty : Scalar → Ty
  | .bool _ => .bool
  | .int _ => .int
  | .uint _ => .uint
  | .double _ => .double
  | .string _ => .string
  | .bytes _ => .bytes

/-- The number that a numeric scalar is. -/
def number? : Scalar → Option Number
  | .int i => some (.integer i.toInt)
  | .uint u => some (.integer u.toNat)
  | .double d => some (.double d)
  | _ => none

/-- Text for messages; strings are quoted and escaped. -/
def display : Scalar → String
  | .bool b => boolText b
  | .int i => toString i.toInt
  | .uint u => toString u.toNat ++ "u"
  | .double d => d.text
  | .string s => Text.quoted s
  | .bytes b => Text.quotedBytes b

/-- Equality of literals: numbers of one kind compare numerically. -/
def sameLiteral : Scalar → Scalar → Bool
  | .double a, .double b => a.equals b
  | a, b => a = b

end Scalar

/-- A constant of an expression. -/
inductive Literal where
  | null
  | scalar (s : Scalar)
  deriving DecidableEq, Repr

namespace Literal

def ty : Literal → Ty
  | .null => .null
  | .scalar s => s.ty

/-- The constant as it stands in an expression; strings are not escaped. -/
def display : Literal → String
  | .null => "null"
  | .scalar (.string s) => "\"" ++ s ++ "\""
  | .scalar (.bytes b) => "b\"" ++ Utf8.lossy b ++ "\""
  | .scalar s => s.display

def same : Literal → Literal → Bool
  | .null, .null => true
  | .scalar a, .scalar b => a.sameLiteral b
  | _, _ => false

end Literal

end CommonExpr
