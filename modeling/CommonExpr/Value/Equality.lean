import CommonExpr.Value.Reading

/-!
Equality and order of values.

Numbers compare exactly whatever their types.  Lists compare element by
element and maps by canonical key.  When both sides hold their elements in one
form, the left side's schema reads both.
-/

namespace CommonExpr

/-- Equality of scalars: numbers by value, all else within its own type. -/
def Scalar.equals : Scalar → Scalar → Bool
  | .bool a, .bool b => a == b
  | .string a, .string b => a == b
  | .bytes a, .bytes b => a == b
  | a, b =>
      match a.number?, b.number? with
      | some x, some y => x.compare? y = some .eq
      | _, _ => false

/-- The order of scalars, `none` when they cannot be ordered. -/
def Scalar.compare? : Scalar → Scalar → Option Ordering
  | .bool a, .bool b => some (compare a b)
  | .string a, .string b => some (compareOfLessAndEq a b)
  | .bytes a, .bytes b => some (compareLex (fun x y => compare x y) a b)
  | a, b =>
      match a.number?, b.number? with
      | some x, some y => x.compare? y
      | _, _ => none
where
  compareLex (cmp : UInt8 → UInt8 → Ordering) : List UInt8 → List UInt8 → Ordering
    | [], [] => .eq
    | [], _ :: _ => .lt
    | _ :: _, [] => .gt
    | x :: xs, y :: ys => (cmp x y).then (compareLex cmp xs ys)

/-- Two read elements are equal when both could be read and are equal. -/
def equalRead (eq : Value → Value → Bool) : Outcome Value → Outcome Value → Bool
  | .ok a, .ok b => eq a b
  | _, _ => false

/-- Whether two lists of read elements agree place by place. -/
def equalLists (eq : Value → Value → Bool) : List (Outcome Value) → List (Outcome Value) → Bool
  | [], [] => true
  | a :: as, b :: bs => equalRead eq a b && equalLists eq as bs
  | _, _ => false

/-- Whether every left entry has a right entry with the same key and an equal value. -/
def equalEntries (eq : Value → Value → Bool) (left right : List (Outcome Value × Outcome Value)) :
    Bool :=
  left.all fun (k, v) =>
    match Entries.keyOf? k with
    | none => false
    | some key =>
        match Entries.valueAt? key right with
        | none => false
        | some w => equalRead eq v w

namespace Items

/-- Compares lists held in one form by reading both with the left schema;
`none` for lists in different forms. -/
def equalsSame? (eq : Value → Value → Bool) : Items → Items → Option Bool
  | .values a, .values b => some (equalLists eq (a.map .ok) (b.map .ok))
  | .json a, .json b => some (equalLists eq (a.map (·.toValue 0)) (b.map (·.toValue 0)))
  | .exchange s a, .exchange _ b =>
      some (equalLists eq (a.map (·.toValue s 0)) (b.map (·.toValue s 0)))
  | .protobuf s a, .protobuf _ b =>
      some (equalLists eq (a.map (·.toValue s 0)) (b.map (·.toValue s 0)))
  | _, _ => none

/-- Compares element by element, each side read with its own schema. -/
def equalsRead (eq : Value → Value → Bool) (a b : Items) : Bool :=
  equalLists eq (a.read 0) (b.read 0)

def equals (eq : Value → Value → Bool) (a b : Items) : Bool :=
  (a.equalsSame? eq b).getD (a.equalsRead eq b)

end Items

namespace Entries

/-- Compares maps held in one form: keys as each side reads them, values read
with the left schema; `none` for maps in different forms. -/
def equalsSame? (eq : Value → Value → Bool) : Entries → Entries → Option Bool
  | .values a, .values b =>
      some (a.length == b.length && equalEntries eq (read 0 (.values a)) (read 0 (.values b)))
  | .json a, .json b =>
      some (a.length == b.length && equalEntries eq (read 0 (.json a)) (read 0 (.json b)))
  | .exchange s a, .exchange s' b =>
      some (a.length == b.length && equalEntries eq (read 0 (.exchange s a))
        (b.map fun (k, v) => (k.toValue s' 0, v.toValue s 0)))
  | .protobuf s a, .protobuf s' b =>
      some (a.length == b.length && equalEntries eq (read 0 (.protobuf s a))
        (b.map fun (k, v) => (k.toValue.toValue s' 0, v.toValue s 0)))
  | _, _ => none

/-- Compares by canonical key, each side read with its own schema. -/
def equalsRead (eq : Value → Value → Bool) (a b : Entries) : Bool :=
  a.length == b.length && equalEntries eq (a.read 0) (b.read 0)

def equals (eq : Value → Value → Bool) (a b : Entries) : Bool :=
  (a.equalsSame? eq b).getD (a.equalsRead eq b)

end Entries

/-- Compares messages field by field, those of either type. -/
def equalMessages (eq : Value → Value → Bool) (s : Protobuf.Schema) (a : Protobuf.Message)
    (s' : Protobuf.Schema) (b : Protobuf.Message) : Bool :=
  a.name == b.name &&
    ((a.type.fields ++ b.type.fields).map Protobuf.Field.name).all fun name =>
      match a.fieldValue? s 0 name, b.fieldValue? s' 0 name with
      | some x, some y => equalRead eq x y
      | _, _ => false

namespace Value

/-- The scalar of a value, bare or wrapped. -/
def scalar? : Value → Option Scalar
  | .scalar s => some s
  | .wrapped s => some s
  | _ => none

/-- Compares the tops of two values, and what they hold by `eq`. -/
def equalsBy (eq : Value → Value → Bool) (a b : Value) : Bool :=
  match a, b with
  | .null, b => b.isNull
  | a, .null => a.isNull
  | .typedNull n _, .typedNull n' _ => n == n'
  | .typedNull _ _, _ => false
  | _, .typedNull _ _ => false
  | .timestamp t, .timestamp t' => t = t'
  | .duration d, .duration d' => d = d'
  | .list _ xs, .list _ ys => xs.equals eq ys
  | .map _ es, .map _ es' => es.equals eq es'
  | .object s m, .object s' m' => equalMessages eq s m s' m'
  | .type t, .type t' => t.equals t'
  | a, b =>
      match a.scalar?, b.scalar? with
      | some s, some s' => s.equals s'
      | _, _ => false

/-- Equality of values at most `fuel` levels deep. -/
def equalsWithin : (fuel : Nat) → Value → Value → Bool
  | 0, _, _ => false
  | fuel + 1, a, b => equalsBy (equalsWithin fuel) a b

/-- Equality of values.  The depth of the left one bounds the comparison. -/
def equals (a b : Value) : Bool := equalsWithin (a.depth + 1) a b

/-- Compares two lists or two maps held in one form. -/
def equalsSame? : Value → Value → Option Bool
  | .list ty xs, .list _ ys => xs.equalsSame? (equalsWithin (Value.list ty xs).depth) ys
  | .map ty es, .map _ es' => es.equalsSame? (equalsWithin (Value.map ty es).depth) es'
  | _, _ => none

/-- The order of values, `none` when they cannot be ordered. -/
def compare? (a b : Value) : Option Ordering :=
  match a, b with
  | .timestamp t, .timestamp t' =>
      some ((compare t.seconds t'.seconds).then (compare t.nanos t'.nanos))
  | .duration d, .duration d' =>
      some ((compare d.seconds d'.seconds).then (compare d.nanos d'.nanos))
  | a, b =>
      match a.scalar?, b.scalar? with
      | some s, some s' => s.compare? s'
      | _, _ => none

end Value

end CommonExpr
