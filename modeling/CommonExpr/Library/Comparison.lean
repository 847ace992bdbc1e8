import CommonExpr.Func
import CommonExpr.Operator
import CommonExpr.Value.Access
import CommonExpr.Value.Equality

/-!
Negation, equality, ordering and membership.
-/

namespace CommonExpr.Library

def negation : Func where
  name := Operator.not
  overloads := [.ofValues Operator.not "logical_not" [.bool] fun _ args =>
    match args with
    | [.bool b] => some (.ok (.bool !b))
    | _ => none]

/-- Whether an outcome is the value false. -/
def isFalse : Outcome Value → Bool
  | .ok v =>
      match v.unwrap with
      | .bool false => true
      | _ => false
  | .error _ => false

/-- True of everything but a definite false, faults included. -/
def notStrictlyFalse : Func where
  name := Operator.notStrictlyFalse
  overloads := [.ofOutcomes "not_strictly_false" 1 fun _ args =>
    match args with
    | [] => .ok (.bool true)
    | arg :: _ => .ok (.bool !(isFalse arg))]

/-- An overload for two arguments of any type. -/
def onPairs (function id : String) (run : (id : Int) → Value → Value → Outcome Value) : Overload :=
  .ofValues function id [.dyn, .dyn] fun node args =>
    match args with
    | [a, b] => some (run node a b)
    | _ => none

def equality : Func where
  name := Operator.equals
  overloads := [onPairs Operator.equals "equals" fun _ a b => .ok (.bool (a.equals b))]

def inequality : Func where
  name := Operator.notEquals
  overloads := [onPairs Operator.notEquals "not_equals" fun _ a b => .ok (.bool !(a.equals b))]

/-- A test of the order of two values, which must be comparable. -/
def ordering (name overload : String) (holds : Ordering → Bool) : Func where
  name := name
  overloads := [onPairs name overload fun node a b =>
    match a.compare? b with
    | some o => .ok (.bool (holds o))
    | none => noOverload node name [a, b]]

def less : Func := ordering Operator.less "less" (· == .lt)

def lessEquals : Func := ordering Operator.lessEquals "less_equals" (· != .gt)

def greater : Func := ordering Operator.greater "greater" (· == .gt)

def greaterEquals : Func := ordering Operator.greaterEquals "greater_equals" (· != .lt)

/-- Whether a value is among elements; the first element that cannot be read
ends the search. -/
def isAmong (x : Value) : List (Outcome Value) → Outcome Bool
  | [] => .ok false
  | .error f :: _ => .error f
  | .ok v :: rest => if x.equals v then .ok true else isAmong x rest

def membership : Func where
  name := Operator.isIn
  overloads := [
    .ofValues Operator.isIn "in_list" [.dyn, .dynList] fun node args =>
      match args with
      | [x, .list _ items] => some (Value.bool <$> isAmong x (items.read node))
      | _ => none,
    .ofValues Operator.isIn "in_map" [.dyn, .dynMap] fun node args =>
      match args with
      | [x, .map _ entries] => some (.ok (.bool (entries.contains node x)))
      | _ => none]

def comparisons : List Func :=
  [negation, notStrictlyFalse, equality, inequality, less, lessEquals, greater, greaterEquals,
    membership]

end CommonExpr.Library
