import CommonExpr.Fault
import CommonExpr.Value.Basic

/-!
Canonical map keys.  All numbers share one space, so `1`, `1u` and `1.0` are
the same key; booleans, strings and bytes are keys of their own.
-/

namespace CommonExpr

/-- The canonical form of a map key. -/
inductive Key where
  | bool (b : Bool)
  | number (i : Int)
  | string (s : String)
  | bytes (b : List UInt8)
  deriving DecidableEq, Repr

/-- The first magnitude beyond which doubles are no keys. -/
def keyBound : Int := 18446744073709551616

/-- The key of a scalar, `none` for doubles that no integer word equals. -/
def Scalar.key? : Scalar → Option Key
  | .bool b => some (.bool b)
  | .int i => some (.number i.toInt)
  | .uint u => some (.number u.toNat)
  | .double d =>
      match d.integer? with
      | some i => if -keyBound < i ∧ i < keyBound then some (.number i) else none
      | none => none
  | .string s => some (.string s)
  | .bytes b => some (.bytes b)

/-- The key of a value; only scalars, bare or wrapped, have one. -/
def Value.key? : Value → Option Key
  | .scalar s => s.key?
  | .wrapped s => s.key?
  | _ => none

def Key.display : Key → String
  | .bool b => boolText b
  | .number i => toString i
  | .string s => Text.quoted s
  | .bytes b => Text.quotedBytes b

/-- Walks over read keys, each of which must have a canonical form that none
before it had. -/
def checkKeys (id : Int) : (seen : List Key) → List (Outcome Value) → Outcome Unit
  | _, [] => .ok ()
  | _, .error f :: _ => .error f
  | seen, .ok v :: rest =>
      match v.key? with
      | none => fail id .unsupportedKeyType
      | some key =>
          if key ∈ seen then fail id (.mapKeyConflict v.display)
          else checkKeys id (key :: seen) rest

end CommonExpr
