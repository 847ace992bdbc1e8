import CommonExpr.Number.Word

/-!
The binary format of protobuf messages at its lowest level: numbered fields
with a payload of one of five wire types.  What a field means is left to those
who know its type.
-/

namespace CommonExpr.Protobuf

/-- What stands after the tag of a field. -/
inductive Payload where
  | varint (n : Nat)
  | fixed64 (n : Nat)
  | bytes (b : List UInt8)
  | group (fields : List (Nat × Payload))
  | fixed32 (n : Nat)

/-- A field number with its payload. -/
abbrev RawField := Nat × Payload

/-- How deep groups and messages may nest below the outermost message. -/
def nestingLimit : Nat := 100

/-! Writing -/

/-- Seven bits a byte, low bits first; `more` is the number of bytes after the
first at most. -/
def varintBytes : (more : Nat) → Nat → List UInt8
  | 0, n => [UInt8.ofNat n]
  | more + 1, n =>
      if n < 128 then [UInt8.ofNat n]
      else UInt8.ofNat (n % 128 + 128) :: varintBytes more (n / 128)

/-- A 64-bit number takes ten bytes at most. -/
def putVarint (n : Nat) : List UInt8 := varintBytes 9 n

/-- `size` bytes, low byte first. -/
def putFixed : (size : Nat) → Nat → List UInt8
  | 0, _ => []
  | size + 1, n => UInt8.ofNat (n % 256) :: putFixed size (n / 256)

def putTag (number wire : Nat) : List UInt8 := putVarint (number * 8 + wire)

/-- Bytes after their length. -/
def putBlock (b : List UInt8) : List UInt8 := putVarint b.length ++ b

mutual

/-- A field with its tag. -/
def putField (number : Nat) : Payload → List UInt8
  | .varint n => putTag number 0 ++ putVarint n
  | .fixed64 n => putTag number 1 ++ putFixed 8 n
  | .bytes b => putTag number 2 ++ putBlock b
  | .group fields => putTag number 3 ++ putFields fields ++ putTag number 4
  | .fixed32 n => putTag number 5 ++ putFixed 4 n

def putFields : List (Nat × Payload) → List UInt8
  | [] => []
  | (number, payload) :: rest => putField number payload ++ putFields rest

end

/-- The 64-bit pattern of a signed number. -/
def signedPattern (i : Int) : Nat := (i % 18446744073709551616).toNat

/-- Folds the sign into the lowest bit. -/
def zigzag (i : Int) : Nat := if 0 ≤ i then (2 * i).toNat else (-2 * i - 1).toNat

/-- Takes the sign out of the lowest bit. -/
def unzigzag (n : Nat) : Int := if n % 2 = 0 then (n / 2 : Nat) else -((n / 2 : Nat) : Int) - 1

/-! Reading -/

/-- Reads a varint whose bytes weigh `weight` and more; `more` bytes may still
come.  The value must fit 64 bits. -/
def takeVarint : (more weight value : Nat) → List UInt8 → Option (Nat × List UInt8)
  | _, _, _, [] => none
  | 0, _, _, _ => none
  | more + 1, weight, value, b :: rest =>
      let value := value + b.toNat % 128 * weight
      if b < 128 then (if value < 18446744073709551616 then some (value, rest) else none)
      else takeVarint more (weight * 128) value rest

def getVarint (bytes : List UInt8) : Option (Nat × List UInt8) := takeVarint 10 1 0 bytes

/-- The number in `size` bytes, low byte first. -/
def getFixed : (size : Nat) → List UInt8 → Option (Nat × List UInt8)
  | 0, rest => some (0, rest)
  | _ + 1, [] => none
  | size + 1, b :: rest => (getFixed size rest).map fun (n, rest) => (b.toNat + 256 * n, rest)

/-- The bytes after a length. -/
def getBlock (bytes : List UInt8) : Option (List UInt8 × List UInt8) := do
  let (size, rest) ← getVarint bytes
  if size ≤ rest.length then some (rest.take size, rest.drop size) else none

/-- A tag: field number and wire type. -/
def getTag (bytes : List UInt8) : Option (Nat × Nat × List UInt8) := do
  let (key, rest) ← getVarint bytes
  if key < 4294967296 ∧ 0 < key / 8 then some (key / 8, key % 8, rest) else none

mutual

/-- The payload after the tag of a field.  A group reads to its end mark, and what
is in it takes a byte at least, so `fuel` need not be more than the length. -/
def takePayload : (fuel : Nat) → (number wire : Nat) → List UInt8 → Option (Payload × List UInt8)
  | 0, _, _, _ => none
  | fuel + 1, number, wire, bytes =>
      match wire with
      | 0 => (getVarint bytes).map fun (n, rest) => (.varint n, rest)
      | 1 => (getFixed 8 bytes).map fun (n, rest) => (.fixed64 n, rest)
      | 2 => (getBlock bytes).map fun (b, rest) => (.bytes b, rest)
      | 3 => (takeGroup fuel number bytes).map fun (fields, rest) => (.group fields, rest)
      | 5 => (getFixed 4 bytes).map fun (n, rest) => (.fixed32 n, rest)
      | _ => none

/-- The fields of an open group, up to its end mark. -/
def takeGroup : (fuel : Nat) → (number : Nat) → List UInt8 → Option (List RawField × List UInt8)
  | 0, _, _ => none
  | fuel + 1, number, bytes =>
      match getTag bytes with
      | none => none
      | some (inner, wire, rest) =>
          if wire = 4 then (if inner = number then some ([], rest) else none)
          else
            match takePayload fuel inner wire rest with
            | none => none
            | some (payload, rest) =>
                match takeGroup fuel number rest with
                | none => none
                | some (fields, rest) => some ((inner, payload) :: fields, rest)

end

/-- Reads fields up to the end of the input.  Those that `isBlock` names are read
as bytes after a length, whatever their wire type. -/
def takeFields (isBlock : Nat → Bool) : (fuel : Nat) → List UInt8 → Option (List RawField)
  | _, [] => some []
  | 0, _ => none
  | fuel + 1, bytes =>
      match getTag bytes with
      | none => none
      | some (number, wire, rest) =>
          let payload := if isBlock number
            then (getBlock rest).map fun (b, rest) => (Payload.bytes b, rest)
            else takePayload (2 * rest.length + 2) number wire rest
          match payload with
          | none => none
          | some (payload, rest) => (takeFields isBlock fuel rest).map ((number, payload) :: ·)

/-- All fields of a message, `none` when the bytes are malformed. -/
def readFields (isBlock : Nat → Bool) (bytes : List UInt8) : Option (List RawField) :=
  takeFields isBlock bytes.length bytes

/-- What becomes of the fields that a type does not know. -/
inductive UnknownFields where
  | kept
  | skipped
  deriving DecidableEq, Repr

mutual

/-- Whether an unknown field can be read with `depth` levels left.  A group takes a
level; to skip a field takes one in any case. -/
def Payload.fits (unknowns : UnknownFields) : (depth : Nat) → Payload → Bool
  | 0, .group _ => false
  | depth + 1, .group fields => fieldsFit unknowns depth fields
  | depth, _ => unknowns = .kept || 0 < depth

def fieldsFit (unknowns : UnknownFields) (depth : Nat) : List (Nat × Payload) → Bool
  | [] => true
  | (_, payload) :: rest => payload.fits unknowns depth && fieldsFit unknowns depth rest

end

example : putVarint 300 = [0xAC, 0x02] := by decide
example : (readFields (fun _ => false) [0x08, 0x96, 0x01]).isSome = true := by decide

end CommonExpr.Protobuf
