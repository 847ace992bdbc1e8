import CommonExpr.Func
import CommonExpr.Pattern.Reader
import CommonExpr.Text.Search

/-!
The size of values and tests on the content of strings.
-/

namespace CommonExpr.Library

/-- The number of code points, bytes, elements or entries. -/
def measure? : Value → Option Nat
  | .string s => some s.length
  | .bytes b => some b.length
  | .list _ items => some items.length
  | .map _ entries => some entries.length
  | _ => none

def sizeOverload (id : String) (param : Ty) : Overload :=
  .ofValues "size" id [param] fun node args =>
    match args with
    | [x] => (measure? x).map fun n =>
        Value.int <$> orFail node (.overflow "size" .int) (int64? n)
    | _ => none

def size : Func where
  name := "size"
  overloads := [sizeOverload "size_string" .string, sizeOverload "size_bytes" .bytes,
    sizeOverload "size_list" .dynList, sizeOverload "size_map" .dynMap]

/-- A test of a string against another; a fault of the test is an invalid argument. -/
def stringTest (name overload : String) (test : (s arg : String) → Except String Bool) : Func where
  name := name
  overloads := [.ofValues name overload [.string, .string] fun node args =>
    match args with
    | [.string s, .string arg] => some (match test s arg with
        | .ok b => .ok (.bool b)
        | .error issue => fail node (.invalidArgument name issue))
    | _ => none]

def contains : Func :=
  stringTest "contains" "contains_string" fun s sub => .ok (Text.contains s.toList sub.toList)

def startsWith : Func :=
  stringTest "startsWith" "starts_with_string" fun s sub =>
    .ok (Text.startsWith s.toList sub.toList)

def endsWith : Func :=
  stringTest "endsWith" "ends_with_string" fun s sub => .ok (Text.endsWith s.toList sub.toList)

/-- Whether a pattern occurs anywhere in a string. -/
def matchTest (s pattern : String) : Except String Bool :=
  match Pattern.read? pattern with
  | some p => .ok (p.matchesIn s)
  | none => .error s!"cannot read pattern '{pattern}'"

def patternMatch : Func := stringTest "matches" "matches_string" matchTest

def contents : List Func := [size, contains, startsWith, endsWith, patternMatch]

end CommonExpr.Library
