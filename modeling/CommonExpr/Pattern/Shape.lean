import CommonExpr.Pattern.Basic

/-!
Patterns in the shape in which they are compiled.

A sequence is `p₁` followed by `p₂` followed by the rest, with no sequence and no
empty pattern among its items and no two literals side by side; an alternation is
nested to the right in the same way.  The functions here build that shape, so
patterns that are put together in different ways come out alike.
-/

namespace CommonExpr

open Text (CharRange CharSet)

namespace Pattern

/-- Never matches. -/
def fail : Pattern := .char true .empty

/-- One character of a set; the set of one character is that character. -/
def ofSet (narrow : Bool) (set : CharSet) : Pattern :=
  match set.only? with
  | some n => .literal [Char.ofNat n]
  | none => if set.isEmpty then fail else .char narrow set

/-- Whether all that the pattern can match is the empty text. -/
def onlyEmpty : Pattern → Bool
  | .literal chars => chars.isEmpty
  | .char _ _ => false
  | .seq a b => a.onlyEmpty && b.onlyEmpty
  | .alt a b => a.onlyEmpty && b.onlyEmpty
  | .times _ _ _ p => p.onlyEmpty
  | .group _ p => p.onlyEmpty
  | _ => true

/-- The items of a sequence; any other pattern is its own only item. -/
def items : Pattern → List Pattern
  | .empty => []
  | .seq a b => a :: b.items
  | p => [p]

/-- The branches of an alternation; any other pattern is its own only branch. -/
def branches : Pattern → List Pattern
  | .alt a b => a :: b.branches
  | p => [p]

/-- Puts a pattern before some items; literals side by side are one literal. -/
def before (p : Pattern) (rest : List Pattern) : List Pattern :=
  match p, rest with
  | .literal a, .literal b :: rest => .literal (a ++ b) :: rest
  | p, rest => p :: rest

/-- The sequence of some items. -/
def ofItems : List Pattern → Pattern
  | [] => .empty
  | [p] => p
  | p :: rest => .seq p (ofItems rest)

/-- The alternation of some branches. -/
def ofBranches : List Pattern → Pattern
  | [] => fail
  | [p] => p
  | p :: rest => .alt p (ofBranches rest)

/-- Patterns one after the other. -/
def sequence (parts : List Pattern) : Pattern :=
  ofItems ((parts.flatMap items).foldr before [])

/-- The items at the start of both lists. -/
def commonStart : List Pattern → List Pattern → List Pattern
  | p :: a, q :: b => if p = q then p :: commonStart a b else []
  | _, _ => []

/-- The items with which every branch starts.  Only branches that are sequences
have such items. -/
def sharedStart (all : List Pattern) : List Pattern :=
  match all.map items with
  | [] => []
  | first :: rest =>
      if (first :: rest).all (2 ≤ ·.length) then rest.foldl commonStart first else []

/-- The character of a pattern that matches just one. -/
def only? : Pattern → Option Char
  | .literal [c] => some c
  | _ => none

/-- The set of a pattern that matches one of several characters, or nothing. -/
def set? : Pattern → Option CharSet
  | .char _ set => some set
  | _ => none

/-- How many patterns a pattern is made of. -/
def weight : Pattern → Nat
  | .seq a b => a.weight + b.weight + 1
  | .alt a b => a.weight + b.weight + 1
  | .times _ _ _ p => p.weight + 1
  | .group _ p => p.weight + 1
  | _ => 1

/-- Alternatives: those of single characters are one set, and what all of them
start with stands before them. -/
def alternativesIn : (fuel : Nat) → List Pattern → Pattern
  | 0, all => ofBranches all
  | fuel + 1, all =>
      match all.flatMap branches with
      | [p] => p
      | all =>
          match all.mapM only?, all.mapM set? with
          | some chars, _ =>
              ofSet false (.ofRanges (chars.map fun c => ⟨c.toNat, c.toNat⟩))
          | none, some sets => ofSet false (sets.foldl CharSet.union .empty)
          | none, none =>
              match sharedStart all with
              | [] => ofBranches all
              | start =>
                  let rests := all.map fun p => ofItems (p.items.drop start.length)
                  sequence (start ++ [alternativesIn fuel rests])

def alternatives (all : List Pattern) : Pattern :=
  alternativesIn (all.foldl (fun n p => n + p.weight) 1) all

/-- A repetition.  To repeat what matches the empty text only is to match it once. -/
def repeated (least : Nat) (most : Option Nat) (greedy : Bool) (p : Pattern) : Pattern :=
  let (least, most) :=
    if p.onlyEmpty then (min least 1, some (min (most.getD 1) 1)) else (least, most)
  if most = some 0 then .empty
  else if least = 1 ∧ most = some 1 then p
  else .times least most greedy p

/-- The items of a sequence are matched one after the other. -/
theorem image_ofItems (text : Array Char) (parts : List Pattern) (s : List Nat) :
    (ofItems parts).image text s = parts.foldl (fun s p => p.image text s) s := by
  induction parts generalizing s with
  | nil => rfl
  | cons p rest ih =>
    cases rest with
    | nil => rfl
    | cons q rest => exact ih (p.image text s)

theorem image_items (text : Array Char) (p : Pattern) (s : List Nat) :
    p.items.foldl (fun s p => p.image text s) s = p.image text s := by
  induction p generalizing s with
  | seq a b _ ihb => exact ihb (a.image text s)
  | _ => rfl

theorem image_before (text : Array Char) (p : Pattern) (rest : List Pattern) (s : List Nat) :
    (before p rest).foldl (fun s p => p.image text s) s =
      rest.foldl (fun s p => p.image text s) (p.image text s) := by
  unfold before
  split
  · simp [image, List.foldl_append]
  · rfl

/-- A sequence matches its parts one after the other. -/
theorem image_sequence (text : Array Char) (parts : List Pattern) (s : List Nat) :
    (sequence parts).image text s = parts.foldl (fun s p => p.image text s) s := by
  rw [sequence, image_ofItems]
  have joined (l : List Pattern) (s : List Nat) :
      (l.foldr before []).foldl (fun s p => p.image text s) s =
        l.foldl (fun s p => p.image text s) s := by
    induction l generalizing s with
    | nil => rfl
    | cons p rest ih => rw [List.foldr_cons, image_before, ih, List.foldl_cons]
  rw [joined]
  induction parts generalizing s with
  | nil => rfl
  | cons p rest ih =>
    rw [List.flatMap_cons, List.foldl_append, image_items, ih, List.foldl_cons]

end Pattern

end CommonExpr
