import CommonExpr.Pattern.Basic
import CommonExpr.Text.Blank
import CommonExpr.Text.CaseFold

/-!
The options of a regular expression, and what depends on them all through it: which
cases a set has, and where blanks may stand.
-/

namespace CommonExpr

open Text (CharSet)

/-- The options in force at a place of an expression. -/
structure PatternFlags where
  ignoreCase : Bool := false
  multiLine : Bool := false
  dotAll : Bool := false
  verbose : Bool := false
  /-- Carriage returns end lines too. -/
  returns : Bool := false
  /-- Without it classes and cases are those of ASCII. -/
  unicode : Bool := true
  /-- Repetitions are lazy, and greedy where they are marked. -/
  lazy : Bool := false

namespace PatternFlags

/-- The set as it is meant: with the other cases of its members if case is ignored. -/
def folded (flags : PatternFlags) (set : CharSet) : CharSet :=
  if flags.ignoreCase then (if flags.unicode then set.fold else set.foldAscii) else set

/-- What a class stands for: folds case, then negates.  Only Unicode classes can
be negated, since bytes above ASCII are no characters. -/
def finishClass (flags : PatternFlags) (negated : Bool) (set : CharSet) : Option CharSet :=
  let set := flags.folded set
  if negated then (if flags.unicode then some set.negate else none) else some set

/-- What a dot stands for. -/
def anyChar (flags : PatternFlags) : Option CharSet :=
  if !flags.unicode then none
  else if flags.dotAll then some .all
  else
    let ends : CharSet := if flags.returns then ⟨[⟨0x0A, 0x0A⟩, ⟨0x0D, 0x0D⟩]⟩ else .single 0x0A
    some ends.negate

/-- Drops blanks and comments, from inside a comment or not; a comment ends with
its line. -/
def dropBlanks : (inComment : Bool) → List Char → List Char
  | _, [] => []
  | true, c :: rest => dropBlanks (c != '\n') rest
  | false, c :: rest =>
      if c = '#' then dropBlanks true rest
      else if Text.isBlank c then dropBlanks false rest
      else c :: rest

theorem length_dropBlanks_le (inComment : Bool) (cs : List Char) :
    (dropBlanks inComment cs).length ≤ cs.length := by
  induction cs generalizing inComment with
  | nil => cases inComment <;> simp [dropBlanks]
  | cons c rest ih =>
    cases inComment with
    | true => simpa [dropBlanks] using Nat.le_succ_of_le (ih _)
    | false =>
      simp only [dropBlanks]
      split
      · exact Nat.le_succ_of_le (ih _)
      · split
        · exact Nat.le_succ_of_le (ih _)
        · exact Nat.le_refl _

/-- The text after the blanks and comments that a verbose expression may hold. -/
def skip (flags : PatternFlags) (cs : List Char) : List Char :=
  if flags.verbose then dropBlanks false cs else cs

theorem length_skip_le (flags : PatternFlags) (cs : List Char) :
    (flags.skip cs).length ≤ cs.length := by
  unfold skip
  split
  · exact length_dropBlanks_le false cs
  · exact Nat.le_refl _

/-- The characters that satisfy `p`, with what may be skipped after each. -/
def takeSpaced (flags : PatternFlags) (p : Char → Bool) (cs : List Char) :
    List Char × List Char :=
  match cs with
  | [] => ([], [])
  | c :: rest =>
      if p c then
        let (taken, left) := flags.takeSpaced p (flags.skip rest)
        (c :: taken, left)
      else ([], c :: rest)
termination_by cs.length
decreasing_by simpa using Nat.lt_succ_of_le (flags.length_skip_le rest)

/-- The character that is looked at after the next one.  In a verbose expression it
is the first that is neither blank nor the mark of a comment, which may stand in the
comment; if there is none, it is the very next. -/
def peek? (flags : PatternFlags) (cs : List Char) : Option Char :=
  if flags.verbose then
    match cs.dropWhile Text.isBlank with
    | '#' :: comment => ((comment.dropWhile Text.isBlank).head?).or cs.head?
    | c :: _ => some c
    | [] => cs.head?
  else cs.head?

end PatternFlags

end CommonExpr
