import CommonExpr.Pattern.Escape

/-!
Classes in brackets: their items, the classes inside them and the operations
between the two.
-/

namespace CommonExpr

open Text (CharSet)

namespace PatternReader

/-- The members of a named ASCII class. -/
def namedSet? : String → Option CharSet
  | "alnum" => some ⟨[⟨0x30, 0x39⟩, ⟨0x41, 0x5A⟩, ⟨0x61, 0x7A⟩]⟩
  | "alpha" => some ⟨[⟨0x41, 0x5A⟩, ⟨0x61, 0x7A⟩]⟩
  | "ascii" => some .ascii
  | "blank" => some ⟨[⟨0x09, 0x09⟩, ⟨0x20, 0x20⟩]⟩
  | "cntrl" => some ⟨[⟨0, 0x1F⟩, ⟨0x7F, 0x7F⟩]⟩
  | "digit" => some asciiDigits
  | "graph" => some ⟨[⟨0x21, 0x7E⟩]⟩
  | "lower" => some ⟨[⟨0x61, 0x7A⟩]⟩
  | "print" => some ⟨[⟨0x20, 0x7E⟩]⟩
  | "punct" => some ⟨[⟨0x21, 0x2F⟩, ⟨0x3A, 0x40⟩, ⟨0x5B, 0x60⟩, ⟨0x7B, 0x7E⟩]⟩
  | "space" => some asciiBlanks
  | "upper" => some ⟨[⟨0x41, 0x5A⟩]⟩
  | "word" => some (wordSet false)
  | "xdigit" => some ⟨[⟨0x30, 0x39⟩, ⟨0x41, 0x46⟩, ⟨0x61, 0x66⟩]⟩
  | _ => none

/-- A class of the form `[:name:]`, from after its first bracket: whether it is
negated, and the set that it names. -/
def takeNamed : List Char → Option (Bool × CharSet × List Char)
  | ':' :: rest =>
      let (negated, rest) := match rest with
        | '^' :: rest => (true, rest)
        | rest => (false, rest)
      let name := rest.takeWhile (· != ':')
      match rest.dropWhile (· != ':') with
      | ':' :: ']' :: after =>
          (namedSet? (String.ofList name)).map fun set => (negated, set, after)
      | _ => none
  | _ => none

/-- A character in a class, which must be ASCII without `unicode`. -/
def classChar (flags : PatternFlags) (c : Char) : Option (Char ⊕ CharSet) :=
  if flags.unicode || c.toNat < 0x80 then some (.inl c) else none

/-- One end of a range: a character, or a set when an escape names one. -/
def takeClassItem (flags : PatternFlags) : List Char → Option ((Char ⊕ CharSet) × List Char)
  | '\\' :: c :: rest =>
      match takeEscapedSet flags (c :: rest) with
      | some (set, rest) => some (.inr set, flags.skip rest)
      | none =>
          match takeEscapedChar flags (c :: rest) with
          | some (c, rest) => (classChar flags c).map (·, flags.skip rest)
          | none => none
  | '\\' :: [] => none
  | c :: rest => (classChar flags c).map (·, flags.skip rest)
  | [] => none

def itemSet : Char ⊕ CharSet → CharSet
  | .inl c => .single c.toNat
  | .inr set => set

/-- The items of a class that are read: their members, how many items there are
and how deep the deepest of them nests. -/
structure ClassItems where
  set : CharSet := .empty
  count : Nat := 0
  depth : Nat := 0

namespace ClassItems

/-- One more item. -/
def add (items : ClassItems) (set : CharSet) (depth : Nat) : ClassItems :=
  ⟨items.set.union set, items.count + 1, max items.depth depth⟩

/-- How deep the items nest together: two or more are a level of their own. -/
def level (items : ClassItems) : Nat :=
  if 2 ≤ items.count then items.depth + 1 else items.depth

end ClassItems

/-- How two parts of a class are put together. -/
inductive ClassOp where
  | inter
  | diff
  | symmetric

/-- The part of a class to the left of an operation, and how deep it nests. -/
structure ClassLeft where
  set : CharSet
  depth : Nat
  op : ClassOp

/-- The members and the depth of an operation's left part together with the items
to its right.  Case is folded on both sides first. -/
def ClassLeft.apply (flags : PatternFlags) (left : Option ClassLeft) (items : ClassItems) :
    CharSet × Nat :=
  match left with
  | none => (items.set, items.level)
  | some left =>
      let (a, b) := (flags.folded left.set, flags.folded items.set)
      let set := match left.op with
        | .inter => a.inter b
        | .diff => a.diff b
        | .symmetric => a.symmetric b
      (set, max left.depth items.level + 1)

/-- What stands to the left of the next operation. -/
def ClassLeft.next (flags : PatternFlags) (left : Option ClassLeft) (items : ClassItems)
    (op : ClassOp) : ClassLeft :=
  let (set, depth) := ClassLeft.apply flags left items
  ⟨set, depth, op⟩

mutual

/-- Reads a class from after its opening bracket: its members and how deep it nests. -/
def takeClass (flags : PatternFlags) :
    (fuel : Nat) → List Char → Option (CharSet × Nat × List Char)
  | 0, _ => none
  | fuel + 1, cs =>
      let (negated, cs) := match flags.skip cs with
        | '^' :: rest => (true, flags.skip rest)
        | rest => (false, rest)
      let (dashes, rest) := flags.takeSpaced (· == '-') cs
      let (first, rest) : ClassItems × List Char :=
        if dashes.isEmpty then
          match rest with
          | ']' :: rest => (⟨.single 0x5D, 1, 0⟩, rest)
          | rest => ({}, rest)
        else (⟨.single 0x2D, dashes.length, 0⟩, rest)
      takeClassRest flags negated none fuel first rest

/-- Reads the items of a class up to its closing bracket. -/
def takeClassRest (flags : PatternFlags) (negated : Bool) (left : Option ClassLeft) :
    (fuel : Nat) → (items : ClassItems) → List Char → Option (CharSet × Nat × List Char)
  | 0, _, _ => none
  | fuel + 1, items, cs =>
      match flags.skip cs with
      | [] => none
      | ']' :: rest =>
          let (set, depth) := ClassLeft.apply flags left items
          (flags.finishClass negated set).map (·, depth + 1, rest)
      | '&' :: '&' :: rest =>
          takeClassRest flags negated (some (.next flags left items .inter)) fuel {} rest
      | '-' :: '-' :: rest =>
          takeClassRest flags negated (some (.next flags left items .diff)) fuel {} rest
      | '~' :: '~' :: rest =>
          takeClassRest flags negated (some (.next flags left items .symmetric)) fuel {} rest
      | '[' :: rest =>
          match takeNamed rest with
          | some (negatedName, named, rest) =>
              match flags.finishClass negatedName named with
              | none => none
              | some named => takeClassRest flags negated left fuel (items.add named 0) rest
          | none =>
              match takeClass flags fuel rest with
              | none => none
              | some (inner, depth, rest) =>
                  takeClassRest flags negated left fuel (items.add inner depth) rest
      | cs =>
          match takeClassItem flags cs with
          | none => none
          | some (item, '-' :: rest) =>
              if flags.peek? rest = some ']' || flags.peek? rest = some '-' then
                takeClassRest flags negated left fuel (items.add (itemSet item) 0) ('-' :: rest)
              else
                match item, takeClassItem flags (flags.skip rest) with
                | .inl lo, some (.inl hi, rest) =>
                    if lo ≤ hi then
                      takeClassRest flags negated left fuel
                        (items.add (.range lo.toNat hi.toNat) 0) rest
                    else none
                | _, _ => none
          | some (item, rest) =>
              takeClassRest flags negated left fuel (items.add (itemSet item) 0) rest

end

end PatternReader

end CommonExpr
