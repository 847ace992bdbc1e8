import CommonExpr.Func
import CommonExpr.Number.Decimal
import CommonExpr.Number.Reader
import CommonExpr.Value.Access
import CommonExpr.Value.Equality

/-!
Format strings.

A format string is a sequence of literal texts and clauses; a clause is `%`, an
optional precision and the letter of a verb, and `%%` stands for `%`.  Each
clause takes the next argument.
-/

namespace CommonExpr

/-- How a clause writes its argument. -/
inductive Verb where
  | text
  | decimal
  | fixed
  | scientific
  | binary
  | octal
  | hex
  | upperHex
  deriving DecidableEq, Repr

namespace Verb

def letter : Verb → Char
  | .text => 's'
  | .decimal => 'd'
  | .fixed => 'f'
  | .scientific => 'e'
  | .binary => 'b'
  | .octal => 'o'
  | .hex => 'x'
  | .upperHex => 'X'

def ofLetter? : Char → Option Verb
  | 's' => some .text
  | 'd' => some .decimal
  | 'f' => some .fixed
  | 'e' => some .scientific
  | 'b' => some .binary
  | 'o' => some .octal
  | 'x' => some .hex
  | 'X' => some .upperHex
  | _ => none

theorem ofLetter?_letter (v : Verb) : ofLetter? v.letter = some v := by
  cases v <;> rfl

end Verb

/-- A part of a format string. -/
inductive Clause where
  | literal (text : String)
  | verb (v : Verb) (precision : Option Nat)
  deriving DecidableEq, Repr

/-- Why a format string cannot be used on its arguments. -/
inductive FormatFault where
  | invalidPrecision
  | unknownVerb (letter : Char)
  | unfinished
  | missingArgument (count : Nat)
  | notInteger (type : String)
  | notNumber (verb : Verb) (type : String)
  | notBinary (type : String)
  | notOctal (type : String)
  | notHex (type : String)
  | notText (type : String)
  | brokenElement
  | brokenEntry
  deriving DecidableEq, Repr

def FormatFault.message : FormatFault → String
  | .invalidPrecision => "invalid precision"
  | .unknownVerb letter => "unrecognized formatting clause \"" ++ letter.toString ++ "\""
  | .unfinished => "unexpected end of format string"
  | .missingArgument count => s!"index {count} out of range"
  | .notInteger type => s!"decimal clause can only be used on integers, was given {type}"
  | .notNumber verb type =>
      verb.letter.toString ++ s!" clause can only be used on doubles, was given {type}"
  | .notBinary type =>
      s!"only integers and bools can be formatted as binary, was given {type}"
  | .notOctal type => s!"octal clause can only be used on integers, was given {type}"
  | .notHex type =>
      "only integers, byte buffers, and strings can be formatted as hex, was given " ++ type
  | .notText type =>
      "string clause can only be used on strings, bools, bytes, ints, doubles, maps, lists, " ++
        "types, durations, and timestamps, was given " ++ type
  | .brokenElement => "list element could not be read"
  | .brokenEntry => "map entry could not be read"

namespace Format

/-! Reading -/

/-- Where a reader of format strings stands; texts are held in reverse. -/
inductive State where
  /-- Within a literal. -/
  | literal (text : List Char)
  /-- Behind the `%` that follows a literal. -/
  | mark (text : List Char)
  /-- Within the digits of a precision. -/
  | precision (digits : List Char)

/-- A literal clause, unless the text is empty. -/
def literalClause (text : List Char) : List Clause :=
  if text.isEmpty then [] else [.literal (String.ofList text.reverse)]

/-- A precision is a number that fits a machine word. -/
def readPrecision (digits : List Char) : Except FormatFault Nat :=
  if digits.isEmpty ∨ 18446744073709551616 ≤ digitsValue digits.reverse then
    .error .invalidPrecision
  else .ok (digitsValue digits.reverse)

def readVerb (letter : Char) : Except FormatFault Verb :=
  match Verb.ofLetter? letter with
  | some v => .ok v
  | none => .error (.unknownVerb letter)

/-- The clauses from a state on. -/
def readFrom : State → List Char → Except FormatFault (List Clause)
  | .literal text, [] => .ok (literalClause text)
  | .literal text, c :: rest =>
      if c = '%' then readFrom (.mark text) rest else readFrom (.literal (c :: text)) rest
  | .mark _, [] => .error .unfinished
  | .mark text, c :: rest =>
      if c = '%' then readFrom (.literal ('%' :: text)) rest
      else if c = '.' then do
        let clauses ← readFrom (.precision []) rest
        return literalClause text ++ clauses
      else do
        let v ← readVerb c
        let clauses ← readFrom (.literal []) rest
        return literalClause text ++ .verb v none :: clauses
  | .precision digits, [] => do
      let _ ← readPrecision digits
      .error .unfinished
  | .precision digits, c :: rest =>
      if isDigit c then readFrom (.precision (c :: digits)) rest
      else do
        let p ← readPrecision digits
        let v ← readVerb c
        let clauses ← readFrom (.literal []) rest
        return .verb v (some p) :: clauses

/-- The clauses of a format string. -/
def read (format : String) : Except FormatFault (List Clause) :=
  readFrom (.literal []) format.toList

/-! Writing -/

/-- Text of a double that is not finite. -/
def specialText? (d : Double) : Option String :=
  if d.isNaN then some "NaN"
  else if d.isInfinite then some (if d.negative then "-Infinity" else "Infinity")
  else none

/-- The value of a number as a double. -/
def number? : Value → Option Double
  | .double d => some d
  | .int i => some (Double.ofInt i.toInt)
  | .uint u => some (Double.ofInt u.toNat)
  | _ => none

/-- One digit, a point, the places, and an exponent of at least two digits. -/
def scientificText (d : Double) (places : Nat) : String :=
  match Text.cutChar? 'e' (d.scientificText places) with
  | none => d.scientificText places
  | some (mantissa, exponent) =>
      let (sign, digits) := match exponent.toList with
        | '-' :: digits => ("-", digits)
        | digits => ("+", digits)
      mantissa ++ "e" ++ sign ++ zeros (2 - digits.length) ++ String.ofList digits

/-- Two lower-case hex digits for each byte. -/
def bytesHex (b : List UInt8) : String :=
  String.join (b.map fun x =>
    String.ofList [Nat.digitChar (x.toNat / 16), Nat.digitChar (x.toNat % 16)])

/-- The digits of a machine word in a base; a negative int counts from `2^64`. -/
def wordText? (base : Nat) : Value → Option String
  | .int i => some (String.ofList (Nat.toDigits base i.toUInt64.toNat))
  | .uint u => some (String.ofList (Nat.toDigits base u.toNat))
  | _ => none

/-- Numbers come first, then strings, then bools, then all other keys. -/
def keyGroup : Value → Nat
  | .int _ => 0
  | .uint _ => 0
  | .double _ => 0
  | .string _ => 1
  | .bool _ => 2
  | _ => 3

/-- Whether a key is written before another. -/
def keyBefore (a b : Value) : Bool :=
  keyGroup a < keyGroup b || (keyGroup a == keyGroup b && a.compare? b == some .lt)

/-- Puts an entry into a list that is sorted in reverse, behind its equals. -/
def insertEntry (entry : Value × Value) : List (Value × Value) → List (Value × Value)
  | [] => [entry]
  | last :: rest =>
      if keyBefore entry.1 last.1 then last :: insertEntry entry rest else entry :: last :: rest

/-- Entries by key; entries of equal rank keep their order. -/
def sortEntries (entries : List (Value × Value)) : List (Value × Value) :=
  (entries.foldl (fun sorted entry => insertEntry entry sorted) []).reverse

/-- The text of an entry. -/
def entryText (text : Value → Except FormatFault String) (entry : Value × Value) :
    Except FormatFault String := do
  let key ← text entry.1
  let value ← text entry.2
  return key ++ ": " ++ value

def scalarText : Scalar → String
  | .bool b => boolText b
  | .int i => toString i.toInt
  | .uint u => toString u.toNat
  | .double d => (specialText? d).getD d.text
  | .string s => s
  | .bytes b => Utf8.lossy b

/-- The text of a value with at most `fuel` levels. -/
def textWithin : (fuel : Nat) → Value → Except FormatFault String
  | 0, v => .error (.notText v.ty.name)
  | fuel + 1, v =>
      match v with
      | .null => .ok "null"
      | .scalar s => .ok (scalarText s)
      | .wrapped s => .ok (scalarText s)
      | .timestamp t => .ok t.text
      | .duration d => .ok d.text
      | .type t => .ok t.fullName
      | .list _ items =>
          match items.collect 0 with
          | .error _ => .error .brokenElement
          | .ok values => do
              let parts ← values.mapM (textWithin fuel)
              return "[" ++ ", ".intercalate parts ++ "]"
      | .map _ entries =>
          match entries.collectPairs 0 with
          | .error _ => .error .brokenEntry
          | .ok pairs => do
              let parts ← (sortEntries pairs).mapM (entryText (textWithin fuel))
              return "\x7b" ++ ", ".intercalate parts ++ "\x7d"
      | other => .error (.notText other.ty.name)

/-- The text of a value, as strings, lists and maps are written for reading. -/
def text (v : Value) : Except FormatFault String := textWithin (v.depth + 1) v

/-- The number of places when a clause has no precision. -/
def defaultPlaces : Nat := 6

/-- The text of a double with a number of places. -/
def placesText (verb : Verb) (d : Double) (precision : Option Nat) : String :=
  let places := precision.getD defaultPlaces
  match specialText? d with
  | some s => s
  | none => if verb = .scientific then scientificText d places else d.fixedText places

def decimalText (v : Value) : Except FormatFault String :=
  match v with
  | .int i => .ok (toString i.toInt)
  | .uint u => .ok (toString u.toNat)
  | .double d =>
      match specialText? d with
      | some s => .ok s
      | none => .error (.notInteger v.ty.name)
  | _ => .error (.notInteger v.ty.name)

def binaryText (v : Value) : Except FormatFault String :=
  match v with
  | .bool b => .ok (if b then "1" else "0")
  | _ =>
      match wordText? 2 v with
      | some s => .ok s
      | none => .error (.notBinary v.ty.name)

def octalText (v : Value) : Except FormatFault String :=
  match wordText? 8 v with
  | some s => .ok s
  | none => .error (.notOctal v.ty.name)

def hexText (v : Value) : Except FormatFault String :=
  match v with
  | .string s => .ok (bytesHex (Utf8.encode s))
  | .bytes b => .ok (bytesHex b)
  | _ =>
      match wordText? 16 v with
      | some s => .ok s
      | none => .error (.notHex v.ty.name)

/-- The text of an argument under a verb. -/
def argument (v : Value) (precision : Option Nat) (verb : Verb) : Except FormatFault String :=
  match verb with
  | .text => text v
  | .decimal => decimalText v
  | .fixed | .scientific =>
      match number? v with
      | some d => .ok (placesText verb d precision)
      | none => .error (.notNumber verb v.ty.name)
  | .binary => binaryText v
  | .octal => octalText v
  | .hex => hexText v
  | .upperHex => String.toUpper <$> hexText v

/-- Writes clauses, `count` being the number of all arguments. -/
def write (count : Nat) : List Clause → (args : List Value) → Except FormatFault String
  | [], _ => .ok ""
  | .literal s :: rest, args => do
      let tail ← write count rest args
      return s ++ tail
  | .verb _ _ :: _, [] => .error (.missingArgument count)
  | .verb v precision :: rest, arg :: args => do
      let head ← argument arg.unwrap precision v
      let tail ← write count rest args
      return head ++ tail

end Format

/-- Fills a format string with arguments. -/
def format (pattern : String) (args : List Value) : Except FormatFault String := do
  let clauses ← Format.read pattern
  Format.write args.length clauses args

end CommonExpr
