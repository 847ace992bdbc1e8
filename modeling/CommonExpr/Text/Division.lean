import CommonExpr.Text.Division.Age
import CommonExpr.Text.Division.Grapheme
import CommonExpr.Text.Division.Sentence
import CommonExpr.Text.Division.Word
import CommonExpr.Text.Table

/-!
Properties that divide all code points into several classes, each with a name.
-/

namespace CommonExpr.Text

/-- A property that divides all code points. -/
inductive Division where
  | age
  | grapheme
  | word
  | sentence
  deriving DecidableEq, Repr

namespace Division

/-- The division of a name, in lower case and without separators. -/
def named? (key : String) : Option Division :=
  match key with
  | "age" => some .age
  | "gcb" | "graphemeclusterbreak" => some .grapheme
  | "wb" | "wordbreak" => some .word
  | "sb" | "sentencebreak" => some .sentence
  | _ => none

/-- Where each class starts anew. -/
def table : Division → List String
  | .age => ageTable
  | .grapheme => graphemeTable
  | .word => wordTable
  | .sentence => sentenceTable

/-- The versions of the standard, oldest first. -/
def versions : List String := [
  "1.1", "2.0", "2.1", "3.0", "3.1", "3.2", "4.0", "4.1", "5.0", "5.1", "5.2", "6.0", "6.1",
  "6.2", "6.3", "7.0", "8.0", "9.0", "10.0", "11.0", "12.0", "12.1", "13.0", "14.0", "15.0",
  "15.1", "16.0"]

/-- The classes by their names, in lower case and without separators.  A version is
named by its number, or by its digits after a `v`. -/
def codes : Division → List (String × String)
  | .age => versions.flatMap fun v =>
      [(v, "V" ++ v), ("v" ++ String.ofList (v.toList.filter (· != '.')), "V" ++ v)]
  | .grapheme => [
      ("cn", "CN"), ("control", "CN"), ("cr", "CR"), ("ex", "EX"), ("extend", "EX"), ("l", "L"),
      ("lf", "LF"), ("lv", "LV"), ("lvt", "LVT"), ("pp", "PP"), ("prepend", "PP"), ("ri", "RI"),
      ("regionalindicator", "RI"), ("sm", "SM"), ("spacingmark", "SM"), ("t", "T"), ("v", "V"),
      ("zwj", "ZWJ")]
  | .word => [
      ("le", "LE"), ("aletter", "LE"), ("cr", "CR"), ("dq", "DQ"), ("doublequote", "DQ"),
      ("ex", "EX"), ("extendnumlet", "EX"), ("extend", "Extend"), ("fo", "FO"), ("format", "FO"),
      ("hl", "HL"), ("hebrewletter", "HL"), ("ka", "KA"), ("katakana", "KA"), ("lf", "LF"),
      ("mb", "MB"), ("midnumlet", "MB"), ("ml", "ML"), ("midletter", "ML"), ("mn", "MN"),
      ("midnum", "MN"), ("nl", "NL"), ("newline", "NL"), ("nu", "NU"), ("numeric", "NU"),
      ("ri", "RI"), ("regionalindicator", "RI"), ("sq", "SQ"), ("singlequote", "SQ"),
      ("wsegspace", "WSegSpace"), ("zwj", "ZWJ")]
  | .sentence => [
      ("at", "AT"), ("aterm", "AT"), ("cl", "CL"), ("close", "CL"), ("cr", "CR"), ("ex", "EX"),
      ("extend", "EX"), ("fo", "FO"), ("format", "FO"), ("le", "LE"), ("oletter", "LE"),
      ("lf", "LF"), ("lo", "LO"), ("lower", "LO"), ("nu", "NU"), ("numeric", "NU"), ("sc", "SC"),
      ("scontinue", "SC"), ("se", "SE"), ("sep", "SE"), ("sp", "SP"), ("st", "ST"),
      ("sterm", "ST"), ("up", "UP"), ("upper", "UP")]

/-- The Hangul syllables that end in their vowel: one in 28. -/
def openSyllables : CharSet :=
  .ofRanges ((List.range 399).map fun n => ⟨0xAC00 + 28 * n, 0xAC00 + 28 * n⟩)

/-- The characters of a class, by its code. -/
def set (d : Division) (code : String) : CharSet :=
  let runs := runsOf d.table
  let held := match d, code with
    | .grapheme, "LV" => openSyllables
    | .grapheme, "LVT" => (setWhere (· = "H") runs).diff openSyllables
    | .age, _ =>
        let later := (versions.map ("V" ++ ·)).dropWhile (· != code) |>.drop 1
        setWhere (fun c => c != "NA" && !later.contains c) runs
    | _, _ => setWhere (· = code) runs
  held.inter .all

/-- The characters of a class by its name.  A version has all that older ones have. -/
def set? (d : Division) (key : String) : Option CharSet := (d.codes.lookup key).map d.set

end Division

end CommonExpr.Text
