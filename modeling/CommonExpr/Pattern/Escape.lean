import CommonExpr.Number.Reader
import CommonExpr.Pattern.Flags
import CommonExpr.Text.Property

/-!
What a backslash gives in a regular expression: a character, a set of characters
or a place in the text.
-/

namespace CommonExpr

open Text (CharSet)

namespace PatternReader

def asciiDigits : CharSet := ⟨[⟨0x30, 0x39⟩]⟩

def asciiBlanks : CharSet := ⟨[⟨0x09, 0x0D⟩, ⟨0x20, 0x20⟩]⟩

def nonDigits : CharSet := Text.decimalDigits.negate

def nonWordChars : CharSet := Text.wordChars.negate

def nonBlanks : CharSet := Text.blanks.negate

/-- The set that an escape letter names, if it names one. -/
def escapeSet? (flags : PatternFlags) : Char → Option CharSet
  | 'd' => some (if flags.unicode then Text.decimalDigits else asciiDigits)
  | 'w' => some (wordSet flags.unicode)
  | 's' => some (if flags.unicode then Text.blanks else asciiBlanks)
  | 'D' => if flags.unicode then some nonDigits else none
  | 'W' => if flags.unicode then some nonWordChars else none
  | 'S' => if flags.unicode then some nonBlanks else none
  | _ => none

def hexValue? (c : Char) : Option Nat :=
  if '0' ≤ c ∧ c ≤ '9' then some (c.toNat - '0'.toNat)
  else if 'a' ≤ c ∧ c ≤ 'f' then some (c.toNat - 'a'.toNat + 10)
  else if 'A' ≤ c ∧ c ≤ 'F' then some (c.toNat - 'A'.toNat + 10)
  else none

/-- The character of hexadecimal digits. -/
def hexChar? (digits : List Char) : Option Char :=
  if digits.isEmpty || !digits.all (hexValue? · |>.isSome) then none
  else
    let n := digits.foldl (fun n c => n * 16 + (hexValue? c).getD 0) 0
    if h : n.isValidChar then some (Char.ofNatAux n h) else none

/-- A fixed number of characters, with what may be skipped before each but the first. -/
def takeFixed (flags : PatternFlags) : Nat → List Char → Option (List Char × List Char)
  | 0, cs => some ([], cs)
  | _ + 1, [] => none
  | n + 1, c :: rest =>
      (takeFixed flags n (flags.skip rest)).map fun (taken, left) => (c :: taken, left)

/-- What stands in braces, from after the opening one. -/
def takeBraced (flags : PatternFlags) (cs : List Char) : Option (List Char × List Char) :=
  match flags.takeSpaced (· != '\x7d') (flags.skip cs) with
  | (taken, _ :: rest) => some (taken, rest)
  | (_, []) => none

/-- A hexadecimal escape: any number of digits in braces, or a fixed number, which
without `unicode` is a byte if it is two.  Such a byte must be ASCII. -/
def takeHex (flags : PatternFlags) (count : Nat) (cs : List Char) :
    Option (Char × List Char) :=
  match flags.skip cs with
  | '\x7b' :: rest =>
      match takeBraced flags rest with
      | none => none
      | some (digits, rest) => (hexChar? digits).map (·, rest)
  | cs =>
      match takeFixed flags count cs with
      | none => none
      | some (digits, rest) =>
          match hexChar? digits with
          | none => none
          | some c =>
              if !flags.unicode && count = 2 && 0x80 ≤ c.toNat then none else some (c, rest)

/-- ASCII characters that stand for themselves after a backslash. -/
def escapable (c : Char) : Bool :=
  c.toNat < 0x80 && !c.isAlphanum && c != '<' && c != '>'

/-- The character that an escape stands for. -/
def takeEscapedChar (flags : PatternFlags) : List Char → Option (Char × List Char)
  | 'a' :: rest => some ('\x07', rest)
  | 'f' :: rest => some ('\x0c', rest)
  | 't' :: rest => some ('\t', rest)
  | 'n' :: rest => some ('\n', rest)
  | 'r' :: rest => some ('\r', rest)
  | 'v' :: rest => some ('\x0b', rest)
  | 'x' :: rest => takeHex flags 2 rest
  | 'u' :: rest => takeHex flags 4 rest
  | 'U' :: rest => takeHex flags 8 rest
  | c :: rest => if escapable c then some (c, rest) else none
  | [] => none

/-- The set of a property that is named alone or with its value, and whether what
stands between the two asks for all others. -/
def propertySet? (name : List Char) : Option (Bool × CharSet) :=
  let valued (sep : List Char) : Option (Option CharSet) :=
    (Text.cut? sep name).map fun (property, value) =>
      Text.propertyValued? (Text.propertyKey property) (Text.propertyKey value)
  match valued ['!', '='], valued [':'], valued ['='] with
  | some set, _, _ => set.map (true, ·)
  | none, some set, _ => set.map (false, ·)
  | none, none, some set => set.map (false, ·)
  | none, none, none => (Text.propertyNamed? (Text.propertyKey name)).map (false, ·)

/-- The name of a property from after its letter: one character, or what stands in
braces. -/
def takePropertyName (flags : PatternFlags) (cs : List Char) : Option (List Char × List Char) :=
  match flags.skip cs with
  | '\x7b' :: rest => takeBraced flags rest
  | '\\' :: _ => none
  | c :: rest => some ([c], rest)
  | [] => none

/-- A set that an escape names, from after the backslash. -/
def takeEscapedSet (flags : PatternFlags) : List Char → Option (CharSet × List Char)
  | [] => none
  | c :: rest =>
      if (c = 'p' || c = 'P') && flags.unicode then
        match takePropertyName flags rest with
        | none => none
        | some (name, rest) =>
            match propertySet? name with
            | none => none
            | some (others, set) =>
                (flags.finishClass (others != (c = 'P')) set).map (·, rest)
      else (escapeSet? flags c).map (·, rest)

def isEdgeNameChar (c : Char) : Bool := c.isAlpha || c = '-'

/-- The kind of edge that a name in braces gives.  Braces that start with something
else are a repetition of a plain boundary. -/
def takeEdge (flags : PatternFlags) : List Char → Option (WordEdge × List Char)
  | '\x7b' :: rest =>
      match flags.takeSpaced isEdgeNameChar (flags.skip rest) with
      | ([], []) => none
      | ([], _ :: _) => some (.boundary, '\x7b' :: rest)
      | (name, '\x7d' :: rest) =>
          match String.ofList name with
          | "start" => some (.start, rest)
          | "end" => some (.finish, rest)
          | "start-half" => some (.startHalf, rest)
          | "end-half" => some (.finishHalf, rest)
          | _ => none
      | _ => none
  | cs => some (.boundary, cs)

/-- The place that an escape letter asks for, if it asks for one. -/
def assertion? (flags : PatternFlags) : Char → Option Pattern
  | 'B' => some (.wordEdge .inside flags.unicode)
  | '<' => some (.wordEdge .start flags.unicode)
  | '>' => some (.wordEdge .finish flags.unicode)
  | 'A' => some .textStart
  | 'z' => some .textEnd
  | _ => none

end PatternReader

end CommonExpr
