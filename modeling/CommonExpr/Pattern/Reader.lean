import CommonExpr.Pattern.Class
import CommonExpr.Pattern.Size
import CommonExpr.Text.Letter

/-!
Reading regular expressions.  A text that is no expression has no pattern, and
neither has one whose parts nest too deep or whose programs are too large.
-/

namespace CommonExpr

open Text (CharSet)

namespace PatternReader

/-- One character of a set. -/
def setPattern (flags : PatternFlags) (set : CharSet) : Pattern := .ofSet (!flags.unicode) set

/-- One character, in all its cases if case is ignored. -/
def literal (flags : PatternFlags) (c : Char) : Pattern :=
  setPattern flags (flags.folded (.single c.toNat))

/-- Digits of a repetition count, which blanks may surround. -/
def takeCount (flags : PatternFlags) (cs : List Char) : Option (Nat × List Char) :=
  let (digits, rest) := flags.takeSpaced isDigit (cs.dropWhile Text.isBlank)
  let n := digitsValue digits
  if digits.isEmpty || 4294967296 ≤ n then none else some (n, rest.dropWhile Text.isBlank)

/-- A counted repetition from after its opening brace: its bounds. -/
def takeBounds (flags : PatternFlags) (cs : List Char) :
    Option (Nat × Option Nat × List Char) := do
  let (least, rest) ← takeCount flags (flags.skip cs)
  match rest with
  | '\x7d' :: rest => some (least, some least, rest)
  | ',' :: rest =>
      match flags.skip rest with
      | '\x7d' :: rest => some (least, none, rest)
      | rest =>
          let (most, rest) ← takeCount flags rest
          match rest with
          | '\x7d' :: rest => if least ≤ most then some (least, some most, rest) else none
          | _ => none
  | _ => none

/-- Sets one option. -/
def setFlag (flags : PatternFlags) (on : Bool) : Char → Option PatternFlags
  | 'i' => some { flags with ignoreCase := on }
  | 'm' => some { flags with multiLine := on }
  | 's' => some { flags with dotAll := on }
  | 'x' => some { flags with verbose := on }
  | 'u' => some { flags with unicode := on }
  | 'U' => some { flags with lazy := on }
  | 'R' => some { flags with returns := on }
  | _ => none

/-- Reads option letters, each at most once and with at most one minus, up to
the colon or bracket that ends them. -/
def takeFlags (seen : List Char) (on : Bool) :
    PatternFlags → List Char → Option (PatternFlags × List Char)
  | _, [] => none
  | flags, c :: rest =>
      if c = ':' || c = ')' then
        if seen.head? = some '-' || (seen.isEmpty && c = ')') then none else some (flags, c :: rest)
      else if seen.contains c then none
      else if c = '-' then takeFlags (c :: seen) false flags rest
      else
        match setFlag flags on c with
        | none => none
        | some flags => takeFlags (c :: seen) on flags rest

def isNameStart (c : Char) : Bool := c = '_' || Text.isLetter c

def isNameChar (c : Char) : Bool :=
  isNameStart c || Text.isNumber c || c = '.' || c = '[' || c = ']'

/-- A group name up to its closing angle. -/
def takeName (cs : List Char) : Option (String × List Char) :=
  let name := cs.takeWhile (· != '>')
  match name, cs.dropWhile (· != '>') with
  | c :: more, _ :: rest =>
      if isNameStart c && more.all isNameChar then some (String.ofList name, rest) else none
  | _, _ => none

/-- Whether a repetition is marked, and the text after the mark. -/
def takeMark : List Char → Bool × List Char
  | '?' :: rest => (true, rest)
  | cs => (false, cs)

/-- A part of an expression: what it matches, how deep it nests and the names of
its groups. -/
structure Part where
  pattern : Pattern
  depth : Nat := 0
  names : List String := []

namespace Part

/-- The largest depth and all names of some parts. -/
def gather (parts : List Part) : Nat × List String :=
  (parts.foldl (fun depth part => max depth part.depth) 0, parts.flatMap (·.names))

/-- A sequence of parts, newest first; `none` is a change of options, which takes a
place like any other.  Two or more are a level of their own. -/
def sequence (items : List (Option Part)) : Part :=
  let parts := items.reverse.filterMap id
  let (depth, names) := gather parts
  ⟨.sequence (parts.map (·.pattern)), if 2 ≤ items.length then depth + 1 else depth, names⟩

/-- Alternative parts. -/
def alternatives : List Part → Part
  | [part] => part
  | parts =>
      let (depth, names) := gather parts
      ⟨.alternatives (parts.map (·.pattern)), depth + 1, names⟩

/-- A group; its match is remembered if it has a number. -/
def grouped (number : Option Nat) (name : Option String) (part : Part) : Part :=
  ⟨match number with
    | some n => .group n part.pattern
    | none => part.pattern,
    part.depth + 1, name.toList ++ part.names⟩

/-- Repeats the newest part; there must be one. -/
def repeatLast (least : Nat) (most : Option Nat) (greedy : Bool) :
    List (Option Part) → Option (List (Option Part))
  | some part :: items =>
      some (some ⟨part.pattern.repeated least most greedy, part.depth + 1, part.names⟩ :: items)
  | _ => none

end Part

mutual

/-- Reads alternatives up to a closing bracket or the end. -/
def takeBranches : (fuel : Nat) → PatternFlags → List Char → Option (List Part × List Char)
  | 0, _, _ => none
  | fuel + 1, flags, cs =>
      match takeSequence fuel flags [] cs with
      | none => none
      | some (part, flags, '|' :: rest) =>
          match takeBranches fuel flags rest with
          | none => none
          | some (parts, rest) => some (part :: parts, rest)
      | some (part, _, rest) => some ([part], rest)

/-- Reads a sequence; `none` among its parts marks a change of options. -/
def takeSequence : (fuel : Nat) → PatternFlags → (items : List (Option Part)) → List Char →
    Option (Part × PatternFlags × List Char)
  | 0, _, _, _ => none
  | fuel + 1, flags, items, cs =>
      let cs := flags.skip cs
      match cs with
      | [] => some (.sequence items, flags, [])
      | '|' :: _ => some (.sequence items, flags, cs)
      | ')' :: _ => some (.sequence items, flags, cs)
      | '*' :: rest =>
          let (marked, rest) := takeMark rest
          match Part.repeatLast 0 none (marked == flags.lazy) items with
          | none => none
          | some items => takeSequence fuel flags items rest
      | '+' :: rest =>
          let (marked, rest) := takeMark rest
          match Part.repeatLast 1 none (marked == flags.lazy) items with
          | none => none
          | some items => takeSequence fuel flags items rest
      | '?' :: rest =>
          let (marked, rest) := takeMark rest
          match Part.repeatLast 0 (some 1) (marked == flags.lazy) items with
          | none => none
          | some items => takeSequence fuel flags items rest
      | '\x7b' :: rest =>
          match takeBounds flags rest with
          | none => none
          | some (least, most, rest) =>
              let (marked, rest) := takeMark (flags.skip rest)
              match Part.repeatLast least most (marked == flags.lazy) items with
              | none => none
              | some items => takeSequence fuel flags items rest
      | '^' :: rest =>
          let start := if flags.multiLine then .lineStart flags.returns else .textStart
          takeSequence fuel flags (some ⟨start, 0, []⟩ :: items) rest
      | '$' :: rest =>
          let finish := if flags.multiLine then .lineEnd flags.returns else .textEnd
          takeSequence fuel flags (some ⟨finish, 0, []⟩ :: items) rest
      | '.' :: rest =>
          match flags.anyChar with
          | none => none
          | some any => takeSequence fuel flags (some ⟨.ofSet false any, 0, []⟩ :: items) rest
      | '[' :: rest =>
          match takeClass flags cs.length rest with
          | none => none
          | some (set, depth, rest) =>
              takeSequence fuel flags (some ⟨setPattern flags set, depth, []⟩ :: items) rest
      | '\\' :: c :: rest =>
          match c with
          | 'b' =>
              match takeEdge flags rest with
              | none => none
              | some (edge, rest) =>
                  takeSequence fuel flags (some ⟨.wordEdge edge flags.unicode, 0, []⟩ :: items) rest
          | c =>
              match assertion? flags c, takeEscapedSet flags (c :: rest) with
              | some place, _ => takeSequence fuel flags (some ⟨place, 0, []⟩ :: items) rest
              | none, some (set, rest) =>
                  takeSequence fuel flags (some ⟨setPattern flags set, 0, []⟩ :: items) rest
              | none, none =>
                  match takeEscapedChar flags (c :: rest) with
                  | none => none
                  | some (c, rest) =>
                      takeSequence fuel flags (some ⟨literal flags c, 0, []⟩ :: items) rest
      | '\\' :: [] => none
      | '(' :: rest =>
          match takeGroup fuel flags (flags.skip rest) with
          | none => none
          | some (item, flags, rest) => takeSequence fuel flags (item :: items) rest
      | c :: rest => takeSequence fuel flags (some ⟨literal flags c, 0, []⟩ :: items) rest

/-- Reads a group from after its opening bracket, or a change of options. -/
def takeGroup : (fuel : Nat) → PatternFlags → List Char →
    Option (Option Part × PatternFlags × List Char)
  | 0, _, _ => none
  | fuel + 1, flags, cs =>
      let number := cs.length
      match cs with
      | '?' :: rest =>
          let named := match rest with
            | 'P' :: '<' :: rest => some rest
            | '<' :: rest => some rest
            | _ => none
          match named with
          | some rest =>
              match takeName rest with
              | none => none
              | some (name, rest) =>
                  match takeBranches fuel flags rest with
                  | some (parts, ')' :: rest) =>
                      some (some (.grouped number (some name) (.alternatives parts)), flags, rest)
                  | _ => none
          | none =>
              match takeFlags [] true flags rest with
              | some (inner, ':' :: rest) =>
                  match takeBranches fuel inner rest with
                  | some (parts, ')' :: rest) =>
                      some (some (.grouped none none (.alternatives parts)), flags, rest)
                  | _ => none
              | some (changed, ')' :: rest) => some (none, changed, rest)
              | _ => none
      | cs =>
          match takeBranches fuel flags cs with
          | some (parts, ')' :: rest) =>
              some (some (.grouped number none (.alternatives parts)), flags, rest)
          | _ => none

end

end PatternReader

/-- How deep the parts of an expression may nest. -/
def Pattern.depthLimit : Nat := 250

/-- The pattern that a text spells, if it spells one. -/
def Pattern.read? (s : String) : Option Pattern :=
  let cs := s.toList
  match PatternReader.takeBranches (4 * cs.length + 4) {} cs with
  | some (parts, []) =>
      let whole := PatternReader.Part.alternatives parts
      if whole.depth ≤ depthLimit && whole.names.Nodup && whole.pattern.fits then
        some whole.pattern
      else none
  | _ => none

end CommonExpr
