import CommonExpr.Text.CharSet

/-!
The bytes that encode the members of a set of characters, as sequences of ranges
of bytes.
-/

namespace CommonExpr

open Text (CharRange CharSet)

namespace ByteSequence

/-- How many code points share their bytes but the last `k`. -/
def cells : Nat → Nat
  | 0 => 1
  | k + 1 => 64 * cells k

/-- `k` bytes that follow a first one, without a limit on any. -/
def following (k : Nat) : List CharRange := List.replicate k ⟨0x80, 0xBF⟩

/-- Splits the code points from `lo` to `hi`, whose first byte is `mark` and the
highest digit in base 64 and which have `k` more digits, into sequences of byte
ranges. -/
def split (mark : Nat) : (k : Nat) → (lo hi : Nat) → List (List CharRange)
  | 0, lo, hi => [[⟨mark + lo, mark + hi⟩]]
  | k + 1, lo, hi =>
      let unit := cells (k + 1)
      let (first, last) := (lo / unit, hi / unit)
      let (lowRest, highRest) := (lo % unit, hi % unit)
      if first = last then
        (split 0x80 k lowRest highRest).map (⟨mark + first, mark + first⟩ :: ·)
      else
        let start := if lowRest = 0 then first else first + 1
        let stop := if highRest + 1 = unit then last + 1 else last
        let before := if lowRest = 0 then []
          else (split 0x80 k lowRest (unit - 1)).map (⟨mark + first, mark + first⟩ :: ·)
        let between := if start < stop
          then [⟨mark + start, mark + stop - 1⟩ :: following (k + 1)] else []
        let after := if highRest + 1 = unit then []
          else (split 0x80 k 0 highRest).map (⟨mark + last, mark + last⟩ :: ·)
        before ++ between ++ after

/-- The code points with equally many bytes: how many follow the first one, the
mark in the first one, and the bounds. -/
def blocks : List (Nat × Nat × CharRange) := [
  (0, 0, ⟨0, 0x7F⟩), (1, 0xC0, ⟨0x80, 0x7FF⟩), (2, 0xE0, ⟨0x800, 0xD7FF⟩),
  (2, 0xE0, ⟨0xE000, 0xFFFF⟩), (3, 0xF0, ⟨0x10000, 0x10FFFF⟩)]

/-- The sequences of byte ranges that encode the members of a set, ascending. -/
def ofSet (a : CharSet) : List (List CharRange) :=
  a.ranges.flatMap fun r =>
    blocks.flatMap fun (k, mark, block) =>
      let lo := max r.lo block.lo
      let hi := min r.hi block.hi
      if lo ≤ hi then split mark k lo hi else []

end ByteSequence

end CommonExpr
