import CommonExpr.Text.WordChar

/-!
Regular expressions and what they match.

A pattern takes each position of a text to the positions where a match that
starts there can end.  `Pattern.image` computes this for a set of positions at
once, so no input makes it backtrack.
-/

namespace CommonExpr

open Text (CharSet)

/-- The characters that make up words, those of ASCII only if not `unicode`. -/
def wordSet (unicode : Bool) : CharSet :=
  if unicode then Text.wordChars else ⟨[⟨0x30, 0x39⟩, ⟨0x41, 0x5A⟩, ⟨0x5F, 0x5F⟩, ⟨0x61, 0x7A⟩]⟩

/-- What a place asks of its two neighbours: whether they make up words. -/
inductive WordEdge where
  | boundary
  | inside
  | start
  | finish
  /-- The half of `start` that looks back. -/
  | startHalf
  /-- The half of `finish` that looks ahead. -/
  | finishHalf
  deriving DecidableEq, Repr

/-- Whether a place with these neighbours, in a word or not, is such an edge. -/
def WordEdge.between (before after : Bool) : WordEdge → Bool
  | .boundary => before != after
  | .inside => before == after
  | .start => !before && after
  | .finish => before && !after
  | .startHalf => !before
  | .finishHalf => !after

/-- A regular expression. -/
inductive Pattern where
  | empty
  /-- These characters, one after the other. -/
  | literal (chars : List Char)
  /-- One character of a set.  `narrow` tells the sets that were written where only
  ASCII is known from the others. -/
  | char (narrow : Bool) (set : CharSet)
  | textStart
  | textEnd
  /-- After a line feed; if `returns`, also after a carriage return, but not between the two. -/
  | lineStart (returns : Bool)
  | lineEnd (returns : Bool)
  | wordEdge (edge : WordEdge) (unicode : Bool)
  | seq (a b : Pattern)
  | alt (a b : Pattern)
  /-- At least `least` and at most `most` times, without end if there is no `most`;
  rather more often than less if `greedy`. -/
  | times (least : Nat) (most : Option Nat) (greedy : Bool) (p : Pattern)
  /-- A group whose match is remembered under a number of its own. -/
  | group (number : Nat) (p : Pattern)
  deriving DecidableEq

namespace Pattern

/-- An ascending union of two ascending lists of positions. -/
def mergePositions : (fuel : Nat) → List Nat → List Nat → List Nat
  | 0, a, b => a ++ b
  | _, [], b => b
  | _, a, [] => a
  | fuel + 1, x :: a, y :: b =>
      if x < y then x :: mergePositions fuel a (y :: b)
      else if y < x then y :: mergePositions fuel (x :: a) b
      else x :: mergePositions fuel a b

def union (a b : List Nat) : List Nat := mergePositions (a.length + b.length) a b

/-- What an ascending list of positions has and another one has not. -/
def cutPositions : (fuel : Nat) → List Nat → List Nat → List Nat
  | 0, a, _ => a
  | _, [], _ => []
  | _, a, [] => a
  | fuel + 1, x :: a, y :: b =>
      if x < y then x :: cutPositions fuel a (y :: b)
      else if y < x then cutPositions fuel (x :: a) b
      else cutPositions fuel a b

def minus (a b : List Nat) : List Nat := cutPositions (a.length + b.length) a b

/-- Whether the character at a position makes up words. -/
def wordAt (unicode : Bool) (text : Array Char) (i : Nat) : Bool :=
  match text[i]? with
  | some c => (wordSet unicode).holds c.toNat
  | none => false

/-- Whether a position of a text is an edge of the given kind. -/
def atWordEdge (edge : WordEdge) (unicode : Bool) (text : Array Char) (i : Nat) : Bool :=
  edge.between (0 < i && wordAt unicode text (i - 1)) (wordAt unicode text i)

/-- Whether a line starts at a position. -/
def atLineStart (returns : Bool) (text : Array Char) (i : Nat) : Bool :=
  i == 0 || text[i - 1]? == some '\n' ||
    (returns && text[i - 1]? == some '\r' && text[i]? != some '\n')

/-- Whether a line ends at a position. -/
def atLineEnd (returns : Bool) (text : Array Char) (i : Nat) : Bool :=
  if returns then
    i == text.size || text[i]? == some '\r' ||
      (text[i]? == some '\n' && (i == 0 || text[i - 1]? != some '\r'))
  else i == text.size || text[i]? == some '\n'

/-- The positions after those of `s` that hold a character of which `p` is true. -/
def step (text : Array Char) (p : Char → Bool) (s : List Nat) : List Nat :=
  (s.filter fun i => text[i]?.any p).map (· + 1)

/-- Applies `f` some number of times, or until it changes nothing. -/
def iterate (f : List Nat → List Nat) : Nat → List Nat → List Nat
  | 0, s => s
  | n + 1, s =>
      let t := f s
      if t = s then s else iterate f n t

/-- What is seen, and all that up to `n` applications of `f` reach from what comes next.
What is seen is not followed again: all that it leads to is seen or comes next. -/
def reach (f : List Nat → List Nat) : Nat → (seen next : List Nat) → List Nat
  | 0, seen, next => union seen next
  | n + 1, seen, next =>
      if next.isEmpty then seen
      else
        let seen := union seen next
        reach f n seen (minus (f next) seen)

/-- Where matches that start in a set of positions can end. -/
def image (text : Array Char) : Pattern → List Nat → List Nat
  | .empty, s => s
  | .literal chars, s => chars.foldl (fun s c => step text (· == c) s) s
  | .char _ set, s => step text (set.holds ·.toNat) s
  | .textStart, s => s.filter (· == 0)
  | .textEnd, s => s.filter (· == text.size)
  | .lineStart returns, s => s.filter (atLineStart returns text)
  | .lineEnd returns, s => s.filter (atLineEnd returns text)
  | .wordEdge edge unicode, s => s.filter (atWordEdge edge unicode text)
  | .seq a b, s => image text b (image text a s)
  | .alt a b, s => union (image text a s) (image text b s)
  | .times least most _ p, s =>
      let rounds := match most with
        | none => text.size + 1
        | some most => min (most - least) (text.size + 1)
      reach (image text p) rounds [] (iterate (image text p) least s)
  | .group _ p, s => image text p s

/-- Whether the pattern matches anywhere in a text. -/
def matchesIn (p : Pattern) (s : String) : Bool :=
  let text := s.toList.toArray
  !(p.image text (List.range (text.size + 1))).isEmpty

end Pattern

end CommonExpr
