import CommonExpr.Text.CharSet
import CommonExpr.Text.Search

/-!
Tables of code points that are written as text: numbers in lower-case hexadecimal
digits, with blanks between the entries.
-/

namespace CommonExpr.Text

def isTableDigit (c : Char) : Bool := ('0' ≤ c && c ≤ '9') || ('a' ≤ c && c ≤ 'f')

/-- The number that hexadecimal digits spell. -/
def tableNumber (digits : List Char) : Nat :=
  digits.foldl (fun n c =>
    n * 16 + (if c ≤ '9' then c.toNat - '0'.toNat else c.toNat - 'a'.toNat + 10)) 0

/-- The entries of a line. -/
def tableEntries (line : String) : List (List Char) :=
  (split line.toList [' '] (allCuts line.toList)).filter (!·.isEmpty)

/-- From this code point on, up to the next run, all have the property `code`. -/
structure Run where
  first : Nat
  code : String
  deriving DecidableEq, Repr

/-- The runs of a table, whose entries are a number and a code after it. -/
def runsOf (lines : List String) : List Run :=
  (lines.flatMap tableEntries).map fun entry =>
    ⟨tableNumber (entry.takeWhile isTableDigit), String.ofList (entry.dropWhile isTableDigit)⟩

/-- The ranges of the runs whose code satisfies `p`; the last one ends with the last
code point. -/
def rangesWhere (p : String → Bool) : List Run → List CharRange
  | [] => []
  | [run] => if p run.code then [⟨run.first, 0x10FFFF⟩] else []
  | run :: next :: rest =>
      if p run.code then ⟨run.first, next.first - 1⟩ :: rangesWhere p (next :: rest)
      else rangesWhere p (next :: rest)

/-- The set of the code points whose code satisfies `p`. -/
def setWhere (p : String → Bool) (runs : List Run) : CharSet := .ofRanges (rangesWhere p runs)

/-- The set of a table whose entries are single numbers and ranges with a dash. -/
def CharSet.ofTable (lines : List String) : CharSet :=
  .ofRanges ((lines.flatMap tableEntries).map fun entry =>
    let first := tableNumber (entry.takeWhile isTableDigit)
    match entry.dropWhile isTableDigit with
    | [] => ⟨first, first⟩
    | _ :: last => ⟨first, tableNumber last⟩)

end CommonExpr.Text
