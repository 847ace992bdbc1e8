import CommonExpr.Func
import CommonExpr.Operator
import CommonExpr.Value.Access

/-!
Arithmetic: exact on integers with a check of the range, rounded on doubles,
and the sums and differences of times.  Adding strings, bytes and lists
concatenates them.
-/

namespace CommonExpr.Library

/-- The exact result as an int. -/
def checkedInt (id : Int) (operation : String) (i : Int) : Outcome Value :=
  match int64? i with
  | some x => .ok (.int x)
  | none => fail id (.overflow operation .int)

/-- The exact result as a uint. -/
def checkedUInt (id : Int) (operation : String) (i : Int) : Outcome Value :=
  match uint64? i with
  | some x => .ok (.uint x)
  | none => fail id (.overflow operation .uint)

/-- An overload on two ints by exact arithmetic. -/
def onInts (function id operation : String) (op : Int → Int → Int) : Overload :=
  .ofValues function id [.int, .int] fun node args =>
    match args with
    | [.int x, .int y] => some (checkedInt node operation (op x.toInt y.toInt))
    | _ => none

/-- An overload on two uints by exact arithmetic. -/
def onUInts (function id operation : String) (op : Int → Int → Int) : Overload :=
  .ofValues function id [.uint, .uint] fun node args =>
    match args with
    | [.uint x, .uint y] => some (checkedUInt node operation (op x.toNat y.toNat))
    | _ => none

def onDoubles (function id : String) (op : Double → Double → Double) : Overload :=
  .ofValues function id [.double, .double] fun _ args =>
    match args with
    | [.double x, .double y] => some (.ok (.double (op x y)))
    | _ => none

def addition : Func where
  name := Operator.add
  overloads := [
    onInts Operator.add "add_int64" "addition" (· + ·),
    onUInts Operator.add "add_uint64" "addition" (· + ·),
    onDoubles Operator.add "add_double" .add,
    .ofValues Operator.add "add_string" [.string, .string] fun _ args =>
      match args with
      | [.string x, .string y] => some (.ok (.string (x ++ y)))
      | _ => none,
    .ofValues Operator.add "add_bytes" [.bytes, .bytes] fun _ args =>
      match args with
      | [.bytes x, .bytes y] => some (.ok (.bytes (x ++ y)))
      | _ => none,
    .ofValues Operator.add "add_list" [.dynList, .dynList] fun node args =>
      match args with
      | [.list ty xs, .list ty' ys] => some (concat node ty xs ty' ys)
      | _ => none,
    .ofValues Operator.add "add_timestamp_duration" [.timestamp, .duration] fun node args =>
      match args with
      | [.timestamp t, .duration d] => some (Value.timestamp <$> timed node (t.shift d 1))
      | _ => none,
    .ofValues Operator.add "add_duration_timestamp" [.duration, .timestamp] fun node args =>
      match args with
      | [.duration d, .timestamp t] => some (Value.timestamp <$> timed node (t.shift d 1))
      | _ => none,
    .ofValues Operator.add "add_duration_duration" [.duration, .duration] fun node args =>
      match args with
      | [.duration x, .duration y] => some (Value.duration <$> timed node (x.combine y 1))
      | _ => none]

def subtraction : Func where
  name := Operator.subtract
  overloads := [
    onInts Operator.subtract "subtract_int64" "subtraction" (· - ·),
    onUInts Operator.subtract "subtract_uint64" "subtraction" (· - ·),
    onDoubles Operator.subtract "subtract_double" .sub,
    .ofValues Operator.subtract "subtract_timestamp_timestamp" [.timestamp, .timestamp]
      fun node args =>
        match args with
        | [.timestamp x, .timestamp y] => some (Value.duration <$> timed node (x.since y))
        | _ => none,
    .ofValues Operator.subtract "subtract_timestamp_duration" [.timestamp, .duration]
      fun node args =>
        match args with
        | [.timestamp t, .duration d] => some (Value.timestamp <$> timed node (t.shift d (-1)))
        | _ => none,
    .ofValues Operator.subtract "subtract_duration_duration" [.duration, .duration]
      fun node args =>
        match args with
        | [.duration x, .duration y] => some (Value.duration <$> timed node (x.combine y (-1)))
        | _ => none]

def multiplication : Func where
  name := Operator.multiply
  overloads := [
    onInts Operator.multiply "multiply_int64" "multiplication" (· * ·),
    onUInts Operator.multiply "multiply_uint64" "multiplication" (· * ·),
    onDoubles Operator.multiply "multiply_double" .mul]

/-- Quotients go toward zero.  The one quotient of ints out of range is that of
the least int by minus one. -/
def division : Func where
  name := Operator.divide
  overloads := [
    .ofValues Operator.divide "divide_int64" [.int, .int] fun node args =>
      match args with
      | [.int x, .int y] => some
          (if y = 0 then fail node (.divisionByZero .int)
          else checkedInt node "division" (x.toInt.tdiv y.toInt))
      | _ => none,
    .ofValues Operator.divide "divide_uint64" [.uint, .uint] fun node args =>
      match args with
      | [.uint x, .uint y] => some
          (if y = 0 then fail node (.divisionByZero .uint) else .ok (.uint (x / y)))
      | _ => none,
    onDoubles Operator.divide "divide_double" .div]

/-- The remainder of ints, an overflow where the quotient is one. -/
def remainderInt (id : Int) (x y : Int64) : Outcome Value :=
  if y = 0 then fail id (.moduloByZero .int)
  else
    match int64? (x.toInt.tdiv y.toInt) with
    | some _ => checkedInt id "modulus" (x.toInt.tmod y.toInt)
    | none => fail id (.overflow "modulus" .int)

/-- Remainders have the sign of the dividend. -/
def remainder : Func where
  name := Operator.modulo
  overloads := [
    .ofValues Operator.modulo "modulo_int64" [.int, .int] fun node args =>
      match args with
      | [.int x, .int y] => some (remainderInt node x y)
      | _ => none,
    .ofValues Operator.modulo "modulo_uint64" [.uint, .uint] fun node args =>
      match args with
      | [.uint x, .uint y] => some
          (if y = 0 then fail node (.moduloByZero .uint) else .ok (.uint (x % y)))
      | _ => none]

def opposite : Func where
  name := Operator.negate
  overloads := [
    .ofValues Operator.negate "negate_int64" [.int] fun node args =>
      match args with
      | [.int x] => some (checkedInt node "negation" (-x.toInt))
      | _ => none,
    .ofValues Operator.negate "negate_double" [.double] fun _ args =>
      match args with
      | [.double d] => some (.ok (.double d.neg))
      | _ => none,
    .ofValues Operator.negate "negate_duration" [.duration] fun node args =>
      match args with
      | [.duration d] => some (Value.duration <$> timed node d.negate)
      | _ => none]

def arithmetic : List Func :=
  [addition, subtraction, multiplication, division, remainder, opposite]

end CommonExpr.Library
