/-!
Sets of code points, kept as ranges.

Every operation gives its ranges in ascending order, so two sets with the same
members have the same ranges.  Difference does the cutting and the other
operations are made from it: `holds_diff` is the law behind them.
-/

namespace CommonExpr.Text

/-- The code points from `lo` to `hi`, both included. -/
structure CharRange where
  lo : Nat
  hi : Nat
  deriving DecidableEq, Repr

namespace CharRange

def holds (r : CharRange) (n : Nat) : Bool := r.lo ≤ n && n ≤ r.hi

/-- What is left of a range without another: nothing, one piece or two. -/
def minus (r s : CharRange) : List CharRange :=
  if r.hi < s.lo || s.hi < r.lo then [r]
  else
    (if r.lo < s.lo then [⟨r.lo, s.lo - 1⟩] else []) ++
      (if s.hi < r.hi then [⟨s.hi + 1, r.hi⟩] else [])

/-- What is left of a range without all of some ranges. -/
def cut (r : CharRange) : List CharRange → List CharRange
  | [] => [r]
  | s :: rest => (r.minus s).flatMap (cut · rest)

theorem any_holds_minus (r s : CharRange) (n : Nat) :
    (r.minus s).any (·.holds n) = (r.holds n && !s.holds n) := by
  unfold minus holds
  split
  · next h => simp at h ⊢; omega
  · next h =>
    simp only [Bool.or_eq_true, decide_eq_true_eq, not_or, Nat.not_lt] at h
    rw [Bool.eq_iff_iff]
    split <;> split <;> simp <;> omega

/-- A condition that does not look at the element moves out of `any`. -/
theorem any_and_right {α : Type} (l : List α) (p : α → Bool) (q : Bool) :
    (l.any fun a => p a && q) = (l.any p && q) := by
  cases q <;> simp

theorem any_holds_cut (cuts : List CharRange) (r : CharRange) (n : Nat) :
    (r.cut cuts).any (·.holds n) = (r.holds n && !cuts.any (·.holds n)) := by
  induction cuts generalizing r with
  | nil => simp [cut]
  | cons s rest ih =>
    simp only [cut, List.any_flatMap, ih, any_and_right, any_holds_minus, List.any_cons,
      Bool.not_or, Bool.and_assoc]

end CharRange

/-- A set of code points. -/
structure CharSet where
  /-- Ascending, with a gap between each range and the next. -/
  ranges : List CharRange
  deriving DecidableEq, Repr

namespace CharSet

/-- Whether a code point is a member. -/
def holds (a : CharSet) (n : Nat) : Bool := a.ranges.any (·.holds n)

/-- Adds a range to ascending ranges; what it touches becomes one range with it. -/
def insertRange (r : CharRange) : List CharRange → List CharRange
  | [] => [r]
  | s :: rest =>
      if r.hi + 1 < s.lo then r :: s :: rest
      else if s.hi + 1 < r.lo then s :: insertRange r rest
      else insertRange ⟨min r.lo s.lo, max r.hi s.hi⟩ rest

/-- The set of all members of some ranges. -/
def ofRanges (ranges : List CharRange) : CharSet := ⟨ranges.foldr insertRange []⟩

def empty : CharSet := ⟨[]⟩

/-- All characters: every code point but the surrogates. -/
def all : CharSet := ⟨[⟨0, 0xD7FF⟩, ⟨0xE000, 0x10FFFF⟩]⟩

def ascii : CharSet := ⟨[⟨0, 0x7F⟩]⟩

def union (a b : CharSet) : CharSet := ofRanges (a.ranges ++ b.ranges)

def diff (a b : CharSet) : CharSet := ⟨a.ranges.flatMap (·.cut b.ranges)⟩

def inter (a b : CharSet) : CharSet := a.diff (a.diff b)

/-- What is a member of one of the two only. -/
def symmetric (a b : CharSet) : CharSet := (a.diff b).union (b.diff a)

def negate (a : CharSet) : CharSet := all.diff a

/-- The characters from one code point to another. -/
def range (lo hi : Nat) : CharSet := inter ⟨[⟨lo, hi⟩]⟩ all

def single (n : Nat) : CharSet := ⟨[⟨n, n⟩]⟩

def isEmpty (a : CharSet) : Bool := a.ranges.isEmpty

/-- The only member, if there is just one. -/
def only? (a : CharSet) : Option Nat :=
  match a.ranges with
  | [r] => if r.lo = r.hi then some r.lo else none
  | _ => none

/-- Whether all members are ASCII. -/
def isAscii (a : CharSet) : Bool := a.ranges.all (·.hi < 0x80)

theorem any_holds_insertRange (r : CharRange) (ranges : List CharRange) (n : Nat) :
    (insertRange r ranges).any (·.holds n) = (r.holds n || ranges.any (·.holds n)) := by
  induction ranges generalizing r with
  | nil => simp [insertRange]
  | cons s rest ih =>
    unfold insertRange
    split
    · simp
    · split
      · simp [ih, Bool.or_left_comm]
      · rw [ih, List.any_cons, ← Bool.or_assoc]
        congr 1
        simp only [CharRange.holds]
        rw [Bool.eq_iff_iff]
        simp
        omega

theorem holds_ofRanges (ranges : List CharRange) (n : Nat) :
    (ofRanges ranges).holds n = ranges.any (·.holds n) := by
  simp only [ofRanges, holds]
  induction ranges with
  | nil => rfl
  | cons r rest ih => rw [List.foldr_cons, any_holds_insertRange, ih, List.any_cons]

theorem holds_union (a b : CharSet) (n : Nat) :
    (a.union b).holds n = (a.holds n || b.holds n) := by
  rw [union, holds_ofRanges, List.any_append]
  rfl

theorem holds_diff (a b : CharSet) (n : Nat) :
    (a.diff b).holds n = (a.holds n && !b.holds n) := by
  simp only [diff, holds, List.any_flatMap, CharRange.any_holds_cut, CharRange.any_and_right]

theorem holds_inter (a b : CharSet) (n : Nat) :
    (a.inter b).holds n = (a.holds n && b.holds n) := by
  simp only [inter, holds_diff]
  cases a.holds n <;> cases b.holds n <;> rfl

theorem holds_negate (a : CharSet) (n : Nat) :
    a.negate.holds n = (all.holds n && !a.holds n) :=
  holds_diff all a n

end CharSet

end CommonExpr.Text
