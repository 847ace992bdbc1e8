/-!
The reserved function names of operators.
-/

namespace CommonExpr.Operator

def add := "_+_"
def subtract := "_-_"
def multiply := "_*_"
def divide := "_/_"
def modulo := "_%_"
def negate := "-_"
def not := "!_"
def notStrictlyFalse := "@not_strictly_false"
def equals := "_==_"
def notEquals := "_!=_"
def less := "_<_"
def lessEquals := "_<=_"
def greater := "_>_"
def greaterEquals := "_>=_"
def isIn := "@in"
def logicalAnd := "_&&_"
def logicalOr := "_||_"
def conditional := "_?_:_"
def index := "_[_]"

/-- Operators that are evaluated by rules of their own, not by overloads. -/
def isSpecialForm (function : String) : Bool :=
  function == logicalAnd || function == logicalOr || function == conditional || function == index

/-- The present name of an operator that also has an older one. -/
def canonical : String → String
  | "_in_" => isIn
  | "__not_strictly_false__" => notStrictlyFalse
  | other => other

/-- The symbol that people write for an operator. -/
def symbol? : String → Option String
  | "_+_" => some "+"
  | "_-_" => some "-"
  | "-_" => some "-"
  | "_*_" => some "*"
  | "_/_" => some "/"
  | "_%_" => some "%"
  | "!_" => some "!"
  | "_==_" => some "=="
  | "_!=_" => some "!="
  | "_<_" => some "<"
  | "_<=_" => some "<="
  | "_>_" => some ">"
  | "_>=_" => some ">="
  | "@in" => some "in"
  | "_in_" => some "in"
  | "_&&_" => some "&&"
  | "_||_" => some "||"
  | _ => none

end CommonExpr.Operator
