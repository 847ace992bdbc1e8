import CommonExpr.Value.Reading

/-!
Access to elements, entries and fields.
-/

namespace CommonExpr

/-- The text of a double that no list index can be. -/
def nonIntegralIndex (d : Double) : String := "non-integral index " ++ d.text

/-- The nearest number that fits a signed 128-bit word. -/
def saturate128 (i : Int) : Int :=
  max (-170141183460469231731687303715884105728)
    (min 170141183460469231731687303715884105727 i)

namespace Items

/-- Converts every element, merging faults. -/
def collect (items : Items) (id : Int) : Outcome (List Value) := CommonExpr.collect (items.read id)

/-- The element at a position counted from zero; others are errors. -/
def element (items : Items) (id : Int) (index : Int) : Outcome Value :=
  if 0 ≤ index then
    match items.get? id index.toNat with
    | some v => v
    | none => fail id (.indexOutOfBounds index items.length)
  else fail id (.indexOutOfBounds index items.length)

/-- The element at a numeric value. -/
def index (items : Items) (id : Int) (key : Value) : Outcome Value :=
  match key.unwrap with
  | .int i => items.element id i.toInt
  | .uint u => items.element id u.toNat
  | .double d =>
      match d.integer? with
      | some i => items.element id (saturate128 i)
      | none => fail id (.invalidArgument "_[_]" (nonIntegralIndex d))
  | other => fail id (.badIndexAccess other.ty)

end Items

namespace Entries

/-- The value of a key, `none` when there is no such entry, an error when the
key can be no map key. -/
def get (entries : Entries) (id : Int) (key : Value) : Outcome (Option Value) :=
  match key.key? with
  | none => fail id .unsupportedKeyType
  | some key =>
      match entries.find? id key with
      | none => .ok none
      | some (.ok v) => .ok (some v)
      | some (.error f) => .error f

def contains (entries : Entries) (id : Int) (key : Value) : Bool :=
  match key.key? with
  | none => false
  | some key => (entries.find? id key).isSome

/-- Converts every key, merging faults. -/
def collectKeys (entries : Entries) (id : Int) : Outcome (List Value) := collect (entries.keys id)

/-- Key and value of an entry, the key's fault first. -/
def pair : Outcome Value × Outcome Value → Outcome (Value × Value)
  | (.error f, _) => .error f
  | (.ok _, .error f) => .error f
  | (.ok k, .ok v) => .ok (k, v)

/-- Converts every entry, merging faults. -/
def collectPairs (entries : Entries) (id : Int) : Outcome (List (Value × Value)) :=
  collect ((entries.read id).map pair)

end Entries

/-- The elements of one list, then those of another.  The type stays when both
are of one type. -/
def concat (id : Int) (ty : Ty) (xs : Items) (ty' : Ty) (ys : Items) : Outcome Value :=
  match xs.collect id with
  | .error f => .error f
  | .ok a =>
      match ys.collect id with
      | .error f => .error f
      | .ok b => .ok (.list (if ty.identical ty' then ty else .dynList) (.values (a ++ b)))

namespace Value

/-- The entry or field of a name, `none` when there is none. -/
def byName? (id : Int) (name : String) : Value → Option (Outcome Value)
  | .map _ entries =>
      match entries.get id (.string name) with
      | .ok none => none
      | .ok (some v) => some (.ok v)
      | .error f => some (.error f)
  | .object schema m => m.fieldValue? schema id name
  | .typedNull _ zero => zero.byName? id name
  | _ => none

/-- Whether an entry or field of a name is set. -/
def isSet (id : Int) (name : String) : Value → Outcome Bool
  | .map _ entries => .ok (entries.contains id (.string name))
  | .object _ m => m.isSet id name
  | .null => .ok false
  | .typedNull _ _ => .ok false
  | other => fail id (.badStringAccess other.ty)

/-- The element or entry at a key, `none` when the value cannot be indexed. -/
def byIndex? : (container : Value) → (id : Int) → (key : Value) → Option (Outcome Value)
  | .list _ items, id, key => some (items.index id key)
  | .map _ entries, id, key =>
      match entries.get id key with
      | .ok (some v) => some (.ok v)
      | .ok none => some (fail id .keyNotFound)
      | .error f => some (.error f)
  | .typedNull _ zero, id, key => zero.byIndex? id key
  | _, _, _ => none

/-- The string keys of a map, or the field names of a message. -/
def fieldNames : Value → List String
  | .map _ entries =>
      match entries.collectKeys 0 with
      | .error _ => []
      | .ok keys => keys.filterMap fun
          | .string s => some s
          | _ => none
  | .object _ m => m.type.fields.map Protobuf.Field.name
  | _ => []

/-- The entry or field of a name, whose lack is an error. -/
def field (v : Value) (id : Int) (name : String) : Outcome Value :=
  match v.byName? id name with
  | some result => result
  | none =>
      match v with
      | .map _ _ => fail id (.fieldNotFound name none)
      | .object _ m => fail id (.fieldNotFound name (some m.name))
      | .typedNull _ zero => fail id (.fieldNotFound name (some zero.ty.name))
      | other => fail id (.badStringAccess other.ty)

/-- The element or entry at a key, whose lack is an error. -/
def index (v : Value) (id : Int) (key : Value) : Outcome Value :=
  match v.byIndex? id key with
  | some result => result
  | none => fail id (.badIndexAccess v.ty)

end Value

end CommonExpr
