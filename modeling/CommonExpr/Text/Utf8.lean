/-!
UTF-8 text and bytes.  `decode` gives the string with exactly these bytes, or
says where the first broken sequence starts and how long it is; `lossy` puts
U+FFFD for each broken sequence instead.
-/

namespace CommonExpr.Utf8

/-- The bytes of a string. -/
def encode (s : String) : List UInt8 := s.toByteArray.toList

/-- What stands at the head of a byte sequence. -/
inductive Head where
  /-- A whole character of `size` bytes. -/
  | char (c : Char) (size : Nat)
  /-- The first `size` bytes begin no character. -/
  | broken (size : Nat)
  /-- The sequence ends inside a character. -/
  | cut
  deriving DecidableEq, Repr

def isTail (b : UInt8) : Bool := 0x80 ≤ b && b ≤ 0xBF

/-- Whether `b` may follow the lead byte of a character of three or four bytes. -/
def isSecond (lead b : UInt8) : Bool :=
  if lead = 0xE0 then 0xA0 ≤ b && b ≤ 0xBF
  else if lead = 0xED then 0x80 ≤ b && b ≤ 0x9F
  else if lead = 0xF0 then 0x90 ≤ b && b ≤ 0xBF
  else if lead = 0xF4 then 0x80 ≤ b && b ≤ 0x8F
  else isTail b

/-- The code point of a lead byte's payload followed by tail bytes. -/
def codePoint (payload : Nat) (tails : List UInt8) : Char :=
  Char.ofNat (tails.foldl (fun n b => n * 64 + (b.toNat - 0x80)) payload)

/-- Checks `wanted` tail bytes after the `seen` bytes already taken. -/
def tailFault (wanted seen : Nat) : List UInt8 → Option Head
  | [] => if wanted = 0 then none else some .cut
  | b :: rest =>
      match wanted with
      | 0 => none
      | wanted + 1 => if isTail b then tailFault wanted (seen + 1) rest else some (.broken seen)

/-- Reads the head of `lead :: rest`. -/
def head (lead : UInt8) (rest : List UInt8) : Head :=
  if lead < 0x80 then .char (Char.ofNat lead.toNat) 1
  else if 0xC2 ≤ lead && lead ≤ 0xDF then
    (tailFault 1 1 rest).getD (.char (codePoint (lead.toNat - 0xC0) (rest.take 1)) 2)
  else if 0xE0 ≤ lead && lead ≤ 0xF4 then
    let more := if lead < 0xF0 then 2 else 3
    let payload := if lead < 0xF0 then lead.toNat - 0xE0 else lead.toNat - 0xF0
    match rest with
    | [] => .cut
    | second :: after =>
        if isSecond lead second then
          (tailFault (more - 1) 2 after).getD
            (.char (codePoint payload (rest.take more)) (more + 1))
        else .broken 1
  else .broken 1

/-- Where and how a byte sequence stops being UTF-8. -/
structure Fault where
  /-- Bytes before the broken sequence. -/
  start : Nat
  /-- Length of the broken sequence, `none` when the input ends inside it. -/
  size : Option Nat
  deriving DecidableEq, Repr

def Fault.message (f : Fault) : String :=
  match f.size with
  | some n => s!"invalid utf-8 sequence of {n} bytes from index {f.start}"
  | none => s!"incomplete utf-8 byte sequence from index {f.start}"

/-- Splits bytes into characters and broken sequences, the number of bytes
bounding the number of pieces. -/
def pieces : Nat → List UInt8 → List Head
  | 0, _ => []
  | _, [] => []
  | fuel + 1, lead :: rest =>
      match head lead rest with
      | .char c size => .char c size :: pieces fuel (rest.drop (size - 1))
      | .broken size => .broken size :: pieces fuel (rest.drop (size - 1))
      | .cut => [.cut]

/-- The first fault among pieces that start at `start`. -/
def firstFault (start : Nat) : List Head → Fault
  | [] => ⟨start, none⟩
  | .char _ size :: rest => firstFault (start + size) rest
  | .broken size :: _ => ⟨start, some size⟩
  | .cut :: _ => ⟨start, none⟩

/-- The string with exactly these bytes. -/
def decode (bytes : List UInt8) : Except Fault String :=
  let data : ByteArray := ⟨bytes.toArray⟩
  if h : data.IsValidUTF8 then .ok (String.ofByteArray data h)
  else .error (firstFault 0 (pieces bytes.length bytes))

/-- The text with U+FFFD in place of every broken sequence. -/
def lossy (bytes : List UInt8) : String :=
  String.ofList ((pieces bytes.length bytes).map fun
    | .char c _ => c
    | _ => Char.ofNat 0xFFFD)

end CommonExpr.Utf8
