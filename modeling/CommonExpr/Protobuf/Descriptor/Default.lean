import CommonExpr.Number.Reader
import CommonExpr.Protobuf.Schema
import CommonExpr.Text.Utf8

/-!
Default values of fields, which descriptors hold as text.
-/

namespace CommonExpr.Protobuf.Descriptor

def hexDigit? (c : Char) : Option Nat :=
  if '0' ≤ c ∧ c ≤ '9' then some (c.toNat - '0'.toNat)
  else if 'a' ≤ c ∧ c ≤ 'f' then some (c.toNat - 'a'.toNat + 10)
  else if 'A' ≤ c ∧ c ≤ 'F' then some (c.toNat - 'A'.toNat + 10)
  else none

def isOctal (c : Char) : Bool := '0' ≤ c && c ≤ '7'

/-- The byte that a letter or mark stands for after a backslash. -/
def simpleEscape? : Char → Option UInt8
  | 'a' => some 7
  | 'b' => some 8
  | 'f' => some 12
  | 'n' => some 10
  | 'r' => some 13
  | 't' => some 9
  | 'v' => some 11
  | '\\' => some 0x5C
  | '?' => some 0x3F
  | '\'' => some 0x27
  | '"' => some 0x22
  | _ => none

/-- The byte of two hexadecimal digits, or of a plus sign and a digit. -/
def hexByte? (a b : Char) : Option UInt8 :=
  (if a = '+' then some 0 else hexDigit? a).bind fun high =>
    (hexDigit? b).map fun low => UInt8.ofNat (high * 16 + low)

/-- Takes an escape from after its backslash: a letter, up to three octal digits,
or `x` and a hexadecimal number of two characters. -/
def takeEscape : List Char → Option (UInt8 × List Char)
  | [] => none
  | c :: rest =>
      if c = 'x' ∨ c = 'X' then
        match rest with
        | a :: b :: rest => (hexByte? a b).map (·, rest)
        | _ => none
      else
        match simpleEscape? c with
        | some byte => some (byte, rest)
        | none =>
            let digits := ((c :: rest).take 3).takeWhile isOctal
            if digits.isEmpty then none
            else
              let n := digits.foldl (fun n d => n * 8 + (d.toNat - '0'.toNat)) 0
              some (UInt8.ofNat n, (c :: rest).drop digits.length)

/-- The bytes of a text with escapes; `fuel` is its length at most. -/
def unescape : (fuel : Nat) → List Char → Option (List UInt8)
  | _, [] => some []
  | 0, _ => none
  | fuel + 1, '\\' :: rest =>
      match takeEscape rest with
      | none => none
      | some (byte, rest) => (unescape fuel rest).map (byte :: ·)
  | fuel + 1, c :: rest => (unescape fuel rest).map (Utf8.encode c.toString ++ ·)

/-- A whole number between two bounds. -/
def wholeDefault? (lo hi : Int) (text : String) : Option Int :=
  (readInteger lo hi text).toOption

/-- The default that a text stands for in a field of a kind; `values` are those of
the enum, if it is one. -/
def defaultOf? (kind : Kind) (values : List (String × Int)) (text : String) : Option Scalar :=
  match kind with
  | .string => some (.string text)
  | .bytes => (unescape text.length text.toList).map .bytes
  | .bool =>
      if text = "true" then some (.bool true)
      else if text = "false" then some (.bool false)
      else none
  | .double | .float => (readDouble text).toOption.map .double
  | .uint32 | .fixed32 =>
      (wholeDefault? 0 4294967295 text).map fun n => .uint (UInt64.ofNat n.toNat)
  | .uint64 | .fixed64 => (readUInt64 text).toOption.map .uint
  | .int32 | .sint32 | .sfixed32 =>
      (wholeDefault? (-2147483648) 2147483647 text).map fun n => .int (Int64.ofInt n)
  | .int64 | .sint64 | .sfixed64 => (readInt64 text).toOption.map .int
  | .enum _ => (values.lookup text).map fun n => .int (Int64.ofInt n)
  | .message _ => none

end CommonExpr.Protobuf.Descriptor
