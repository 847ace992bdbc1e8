import CommonExpr.Value.Access

/-!
Values as JSON.  Times become their text, bytes a list of numbers, and a map an
object whose keys are the text of its keys.
-/

namespace CommonExpr

/-- The member name of a map key. -/
def jsonKey (id : Int) : Value → Outcome String
  | .string s => .ok s
  | .int i => .ok (toString i.toInt)
  | .uint u => .ok (toString u.toNat)
  | .bool b => .ok (boolText b)
  | other => fail id (.typeMismatch "string" other.ty)

/-- A scalar as JSON. -/
def Scalar.toJson (id : Int) : Scalar → Outcome Json
  | .bool b => .ok (.bool b)
  | .int i => .ok (.ofInt64 i)
  | .uint u => .ok (.ofUInt64 u)
  | .double d =>
      if d.isFinite then .ok (.double d)
      else fail id (.invalidArgument "json" (d.text ++ " is not representable"))
  | .string s => .ok (.string s)
  | .bytes b => .ok (.array (b.map fun o => .ofUInt64 (UInt64.ofNat o.toNat)))

/-- Name and value of one map entry, the name's fault first. -/
def memberOf (id : Int) (convert : Value → Outcome Json) (entry : Value × Value) :
    Outcome (String × Json) := do
  let name ← jsonKey id entry.1
  let value ← convert entry.2
  return (name, value)

namespace Value

/-- A value at most `fuel` levels deep as JSON. -/
def toJsonWithin (id : Int) : (fuel : Nat) → Value → Outcome Json
  | 0, _ => .ok .null
  | fuel + 1, v =>
      match v with
      | .null => .ok .null
      | .typedNull _ _ => .ok .null
      | .scalar s => s.toJson id
      | .wrapped s => s.toJson id
      | .timestamp t => .ok (.string t.text)
      | .duration d => .ok (.string d.text)
      | .list _ items => do
          let values ← items.collect id
          let items ← values.mapM (toJsonWithin id fuel)
          return .array items
      | .map _ entries => do
          let pairs ← entries.collectPairs id
          let members ← pairs.mapM (memberOf id (toJsonWithin id fuel))
          return .ofMembers members
      | .object schema m => do
          let members ← (m.type.fields.filter m.has).mapM fun field => do
            let value ← m.fieldValue schema id field
            return (field.name, ← toJsonWithin id fuel value)
          return .ofMembers members
      | .type t => .ok (.string t.fullName)

/-- A value as JSON. -/
def toJson (v : Value) (id : Int) : Outcome Json := toJsonWithin id (v.depth + 1) v

end Value

end CommonExpr
