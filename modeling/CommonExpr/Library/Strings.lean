import CommonExpr.Func.Registry
import CommonExpr.Library.Format
import CommonExpr.Text.Blank
import CommonExpr.Text.Search

/-!
The strings extension.  Positions and lengths count code points.
-/

namespace CommonExpr.Library

/-- An int as a position from zero to the length of a text. -/
def position (id : Int) (s : String) (i : Int64) : Outcome Nat :=
  if 0 ≤ i.toInt ∧ i.toInt ≤ s.length then .ok i.toInt.toNat
  else fail id (.indexOutOfBounds i.toInt (s.length + 1))

/-- A position as an int, minus one for none. -/
def positionValue : Option Nat → Value
  | some i => .int (Int64.ofNat i)
  | none => .int (-1)

/-- The least position from `start` on at which `sub` occurs. -/
def indexFrom (s sub : String) (start : Nat) : Value :=
  positionValue (Text.find? sub.toList start (s.toList.drop start))

/-- The greatest position up to `last` at which `sub` occurs. -/
def lastIndexUpTo (s sub : String) (last : Nat) : Value :=
  positionValue (if sub.isEmpty then some last else Text.findLast? sub.toList last 0 s.toList)

/-- The pieces of `s` between occurrences of `sep`, at most `limit` of them; all
when `limit` is negative. -/
def splitText (s sep : String) (limit : Int) : List String :=
  if limit = 0 then []
  else
    let cuts := if limit < 0 then Text.allCuts s.toList else limit.toNat - 1
    (Text.split s.toList sep.toList cuts).map String.ofList

/-- Replaces the first `limit` occurrences of `old`; all when `limit` is negative. -/
def replaceText (s old new : String) (limit : Int) : String :=
  let cuts := if limit < 0 then Text.allCuts s.toList else limit.toNat
  String.ofList (Text.replace s.toList old.toList new.toList cuts)

/-- The code points from `start` up to but not including `stop`. -/
def substring (id : Int) (s : String) (start stop : Int64) : Outcome Value :=
  match position id s start with
  | .error f => .error f
  | .ok a =>
      match position id s stop with
      | .error f => .error f
      | .ok b =>
          if a ≤ b then .ok (.string (String.ofList ((s.toList.drop a).take (b - a))))
          else fail id (.invalidArgument "substring"
            s!"invalid substring range. start: {start.toInt}, end: {stop.toInt}")

/-- Joins elements, which must be strings, up to the first that is none. -/
def joinStrings (id : Int) : List (Outcome Value) → Outcome (List (List Char))
  | [] => .ok []
  | .error f :: _ => .error f
  | .ok (.string s) :: rest =>
      match joinStrings id rest with
      | .error f => .error f
      | .ok pieces => .ok (s.toList :: pieces)
  | .ok other :: _ =>
      fail id (.invalidArgument "join" ("list element is " ++ other.ty.name ++ ", not string"))

/-- Joins the elements of a list with `sep` between them. -/
def joinList (id : Int) (sep : String) : Value → Outcome Value
  | .list _ items =>
      match joinStrings id (items.read id) with
      | .error f => .error f
      | .ok pieces => .ok (.string (String.ofList (Text.join sep.toList pieces)))
  | other => noOverload id "join" [other]

/-- The characters that stand for a character within quotes. -/
def quotedChar : Char → List Char
  | '\x07' => ['\\', 'a']
  | '\x08' => ['\\', 'b']
  | '\x0c' => ['\\', 'f']
  | '\n' => ['\\', 'n']
  | '\r' => ['\\', 'r']
  | '\t' => ['\\', 't']
  | '\x0b' => ['\\', 'v']
  | '\\' => ['\\', '\\']
  | '"' => ['\\', '"']
  | c => [c]

/-- A string in double quotes, with the characters that would break them escaped. -/
def quote (s : String) : String :=
  "\"" ++ String.ofList (s.toList.flatMap quotedChar) ++ "\""

/-- A function from string to string. -/
def stringFunc (name overload : String) (f : String → String) : Func where
  name := name
  overloads := [.ofValues name overload [.string] fun _ args =>
    match args with
    | [.string s] => some (.ok (.string (f s)))
    | _ => none]

def charAt : Func where
  name := "charAt"
  overloads := [.ofValues "charAt" "string_char_at_int" [.string, .int] fun node args =>
    match args with
    | [.string s, .int i] => some (match position node s i with
        | .error f => .error f
        | .ok n => .ok (.string (String.ofList ((s.toList.drop n).take 1))))
    | _ => none]

def indexOf : Func where
  name := "indexOf"
  overloads := [
    .ofValues "indexOf" "string_index_of_string" [.string, .string] fun _ args =>
      match args with
      | [.string s, .string sub] => some (.ok (indexFrom s sub 0))
      | _ => none,
    .ofValues "indexOf" "string_index_of_string_int" [.string, .string, .int] fun node args =>
      match args with
      | [.string s, .string sub, .int offset] => some (indexFrom s sub <$> position node s offset)
      | _ => none]

def lastIndexOf : Func where
  name := "lastIndexOf"
  overloads := [
    .ofValues "lastIndexOf" "string_last_index_of_string" [.string, .string] fun _ args =>
      match args with
      | [.string s, .string sub] => some (.ok (lastIndexUpTo s sub s.length))
      | _ => none,
    .ofValues "lastIndexOf" "string_last_index_of_string_int" [.string, .string, .int]
      fun node args =>
        match args with
        | [.string s, .string sub, .int offset] =>
            some (lastIndexUpTo s sub <$> position node s offset)
        | _ => none]

def replace : Func where
  name := "replace"
  overloads := [
    .ofValues "replace" "string_replace_string_string" [.string, .string, .string] fun _ args =>
      match args with
      | [.string s, .string old, .string new] => some (.ok (.string (replaceText s old new (-1))))
      | _ => none,
    .ofValues "replace" "string_replace_string_string_int" [.string, .string, .string, .int]
      fun _ args =>
        match args with
        | [.string s, .string old, .string new, .int limit] =>
            some (.ok (.string (replaceText s old new limit.toInt)))
        | _ => none]

def split : Func where
  name := "split"
  overloads := [
    .ofValues "split" "string_split_string" [.string, .string] fun _ args =>
      match args with
      | [.string s, .string sep] =>
          some (.ok (.ofList ((splitText s sep (-1)).map Value.string)))
      | _ => none,
    .ofValues "split" "string_split_string_int" [.string, .string, .int] fun _ args =>
      match args with
      | [.string s, .string sep, .int limit] =>
          some (.ok (.ofList ((splitText s sep limit.toInt).map Value.string)))
      | _ => none]

def substringFunc : Func where
  name := "substring"
  overloads := [
    .ofValues "substring" "string_substring_int" [.string, .int] fun node args =>
      match args with
      | [.string s, .int start] => some (substring node s start (Int64.ofNat s.length))
      | _ => none,
    .ofValues "substring" "string_substring_int_int" [.string, .int, .int] fun node args =>
      match args with
      | [.string s, .int start, .int stop] => some (substring node s start stop)
      | _ => none]

/-- Fills a format string with the elements of a list. -/
def formatList (id : Int) (pattern : String) (items : Items) : Outcome Value :=
  match items.collect id with
  | .error f => .error f
  | .ok args =>
      match CommonExpr.format pattern args with
      | .ok s => .ok (.string s)
      | .error fault => fail id (.invalidArgument "format" fault.message)

def formatFunc : Func where
  name := "format"
  overloads := [.ofValues "format" "string_format" [.string, .dynList] fun node args =>
    match args with
    | [.string pattern, .list _ items] => some (formatList node pattern items)
    | _ => none]

def join : Func where
  name := "join"
  overloads := [
    .ofValues "join" "list_string_join" [.dynList] fun node args =>
      match args with
      | [x] => some (joinList node "" x)
      | _ => none,
    .ofValues "join" "list_string_join_string" [.dynList, .string] fun node args =>
      match args with
      | [x, .string sep] => some (joinList node sep x)
      | _ => none]

def stringFunctions : List Func := [
  charAt, indexOf, lastIndexOf,
  stringFunc "lowerAscii" "string_lower_ascii" fun s => s.map Char.toLower,
  stringFunc "upperAscii" "string_upper_ascii" fun s => s.map Char.toUpper,
  replace, split, substringFunc,
  stringFunc "trim" "string_trim" Text.trim,
  stringFunc "reverse" "string_reverse" fun s => String.ofList s.toList.reverse,
  formatFunc, join,
  stringFunc "strings.quote" "strings_quote_string" quote]

/-- The registry of the strings extension. -/
def strings : Registry := .ofFunctions stringFunctions

end CommonExpr.Library
