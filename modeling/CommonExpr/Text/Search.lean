/-!
Searching and cutting text by code points.  Everything is a function on lists
of characters, so a cut never falls inside a character.
-/

namespace CommonExpr.Text

/-- Whether `sub` stands at the start of `s`. -/
def startsWith : (s sub : List Char) → Bool
  | _, [] => true
  | [], _ :: _ => false
  | a :: s, b :: sub => a == b && startsWith s sub

/-- The least position, counted from `base`, at which `sub` occurs in `s`. -/
def find? (sub : List Char) : (base : Nat) → (s : List Char) → Option Nat
  | base, [] => if sub.isEmpty then some base else none
  | base, c :: s => if startsWith (c :: s) sub then some base else find? sub (base + 1) s

/-- The greatest position, counted from `base` and at most `last`, at which
`sub` occurs in `s`. -/
def findLast? (sub : List Char) (last : Nat) : (base : Nat) → (s : List Char) → Option Nat
  | base, [] => if sub.isEmpty && base ≤ last then some base else none
  | base, c :: s =>
      match findLast? sub last (base + 1) s with
      | some i => some i
      | none => if startsWith (c :: s) sub && base ≤ last then some base else none

def contains (s sub : List Char) : Bool := (find? sub 0 s).isSome

def endsWith (s sub : List Char) : Bool := startsWith s.reverse sub.reverse

/-- The text before and after the first `sub`, when it occurs. -/
def cut? (sub : List Char) (s : List Char) : Option (List Char × List Char) :=
  (find? sub 0 s).map fun i => (s.take i, s.drop (i + sub.length))

/-- The text before and after the first character `c`. -/
def cutChar? (c : Char) (s : String) : Option (String × String) :=
  (cut? [c] s.toList).map fun (a, b) => (String.ofList a, String.ofList b)

/-- The text before and after the last character `c`. -/
def cutLastChar? (c : Char) (s : String) : Option (String × String) :=
  (findLast? [c] s.length 0 s.toList).map fun i =>
    (String.ofList (s.toList.take i), String.ofList (s.toList.drop (i + 1)))

/-- Cuts at each `sub` from the left, at most `cuts` times.  `sub` is not empty;
the text left bounds the number of cuts. -/
def splitBy (sub : List Char) : (cuts : Nat) → List Char → List (List Char)
  | 0, s => [s]
  | cuts + 1, s =>
      match cut? sub s with
      | none => [s]
      | some (before, after) => before :: splitBy sub cuts after

/-- Cuts around every character, starting with an empty piece, at most `cuts`
times. -/
def splitEach (cuts : Nat) (s : List Char) : List (List Char) :=
  match cuts with
  | 0 => [s]
  | cuts + 1 => [] :: go cuts s
where
  go : Nat → List Char → List (List Char)
    | 0, s => [s]
    | _ + 1, [] => [[]]
    | cuts + 1, c :: s => [c] :: go cuts s

/-- Cuts at most `cuts` times at `sub`; an empty `sub` stands before, between
and after all characters. -/
def split (s sub : List Char) (cuts : Nat) : List (List Char) :=
  if sub.isEmpty then splitEach cuts s else splitBy sub cuts s

/-- Puts `new` for each `sub` from the left, at most `cuts` times.  `sub` is not
empty. -/
def replaceBy (sub new : List Char) : (cuts : Nat) → List Char → List Char
  | 0, s => s
  | cuts + 1, s =>
      match cut? sub s with
      | none => s
      | some (before, after) => before ++ new ++ replaceBy sub new cuts after

/-- Puts `new` before each character and at the end, at most `cuts` times. -/
def replaceEach (new : List Char) : (cuts : Nat) → List Char → List Char
  | 0, s => s
  | _ + 1, [] => new
  | cuts + 1, c :: s => new ++ c :: replaceEach new cuts s

/-- Puts `new` for `sub` at most `cuts` times; an empty `sub` stands before,
between and after all characters. -/
def replace (s sub new : List Char) (cuts : Nat) : List Char :=
  if sub.isEmpty then replaceEach new cuts s else replaceBy sub new cuts s

/-- Enough cuts for every occurrence of any separator in `s`. -/
def allCuts (s : List Char) : Nat := s.length + 2

/-- The pieces with `sep` between them. -/
def join (sep : List Char) : List (List Char) → List Char
  | [] => []
  | [piece] => piece
  | piece :: rest => piece ++ sep ++ join sep rest

example : split "abc".toList [] (allCuts "abc".toList) = [[], ['a'], ['b'], ['c'], []] := by decide
example : split "a,b".toList [','] 1 = [['a'], ['b']] := by decide
example : split "ab".toList [] 2 = [[], ['a'], ['b']] := by decide
example : replace "aab".toList ['a'] ['x', 'y'] 1 = ['x', 'y', 'a', 'b'] := by decide

end CommonExpr.Text
