import CommonExpr.Func
import CommonExpr.Number.Decimal
import CommonExpr.Number.Reader
import CommonExpr.Number.Truncation
import CommonExpr.Text.Utf8
import CommonExpr.Time.Written

/-!
Conversions between types.  Each conversion is one routine; its overloads only
say from which types it is offered.
-/

namespace CommonExpr.Library

/-- A function of one argument, offered for the listed types. -/
def conversion (name : String) (sources : List (String × Ty))
    (convert : (id : Int) → Value → Option (Outcome Value)) : Func where
  name := name
  overloads := sources.map fun (id, source) => .ofValues name id [source] fun node args =>
    match args with
    | [x] => convert node x
    | _ => none

/-- The int, an overflow where there is none. -/
def intOf (id : Int) (word : Option Int64) : Outcome Value :=
  match word with
  | some x => .ok (.int x)
  | none => fail id (.overflow "conversion" .int)

/-- The uint, an overflow where there is none. -/
def uintOf (id : Int) (word : Option UInt64) : Outcome Value :=
  match word with
  | some x => .ok (.uint x)
  | none => fail id (.overflow "conversion" .uint)

/-- Doubles go toward zero, timestamps to their seconds. -/
def toInt (id : Int) : Value → Option (Outcome Value)
  | .int i => some (.ok (.int i))
  | .uint u => some (intOf id (int64? u.toNat))
  | .double d => some (intOf id d.truncInt64?)
  | .string s => some (match readInt64 s with
      | .ok i => .ok (.int i)
      | .error fault => fail id (.invalidArgument "int" fault.message))
  | .timestamp t => some (.ok (.int (Int64.ofInt t.seconds)))
  | _ => none

/-- Doubles go toward zero. -/
def toUInt (id : Int) : Value → Option (Outcome Value)
  | .uint u => some (.ok (.uint u))
  | .int i => some (uintOf id (uint64? i.toInt))
  | .double d => some (uintOf id d.truncUInt64?)
  | .string s => some (match readUInt64 s with
      | .ok u => .ok (.uint u)
      | .error fault => fail id (.invalidArgument "uint" fault.message))
  | _ => none

/-- Integers go to the nearest double. -/
def toDouble (id : Int) : Value → Option (Outcome Value)
  | .double d => some (.ok (.double d))
  | .int i => some (.ok (.double (Double.ofInt i.toInt)))
  | .uint u => some (.ok (.double (Double.ofInt u.toNat)))
  | .string s => some (match readDouble s with
      | .ok d => .ok (.double d)
      | .error fault => fail id (.invalidArgument "double" fault.message))
  | _ => none

/-- The spellings of the truth values. -/
def readBool? : String → Option Bool
  | "true" => some true
  | "TRUE" => some true
  | "True" => some true
  | "t" => some true
  | "1" => some true
  | "false" => some false
  | "FALSE" => some false
  | "False" => some false
  | "f" => some false
  | "0" => some false
  | _ => none

def toBool (id : Int) : Value → Option (Outcome Value)
  | .bool b => some (.ok (.bool b))
  | .string s => some (match readBool? s with
      | some b => .ok (.bool b)
      | none => fail id (.invalidArgument "bool" s!"cannot parse '{s}'"))
  | _ => none

/-- Whole doubles below 10^15 keep one place, so that they read back as doubles. -/
def doubleText (d : Double) : String :=
  if d.isNaN then "NaN"
  else if d.isInfinite then (if d.negative then "-infinity" else "+infinity")
  else
    match d.integer? with
    | some i => if i.natAbs < 1000000000000000 then d.fixedText 1 else d.text
    | none => d.text

/-- Bytes must be UTF-8. -/
def toText (id : Int) : Value → Option (Outcome Value)
  | .string s => some (.ok (.string s))
  | .int i => some (.ok (.string (toString i.toInt)))
  | .uint u => some (.ok (.string (toString u.toNat)))
  | .double d => some (.ok (.string (doubleText d)))
  | .bool b => some (.ok (.string (boolText b)))
  | .bytes b => some (match Utf8.decode b with
      | .ok s => .ok (.string s)
      | .error fault => fail id (.brokenText fault))
  | .timestamp t => some (.ok (.string t.text))
  | .duration d => some (.ok (.string d.text))
  | _ => none

def toBytes (_ : Int) : Value → Option (Outcome Value)
  | .bytes b => some (.ok (.bytes b))
  | .string s => some (.ok (.bytes (Utf8.encode s)))
  | _ => none

/-- Ints are seconds since the epoch. -/
def toTimestamp (id : Int) : Value → Option (Outcome Value)
  | .timestamp t => some (.ok (.timestamp t))
  | .string s => some (Value.timestamp <$> timed id (Timestamp.read s))
  | .int i => some (Value.timestamp <$> timed id (Timestamp.normalize i.toInt 0))
  | _ => none

/-- Ints are seconds. -/
def toDuration (id : Int) : Value → Option (Outcome Value)
  | .duration d => some (.ok (.duration d))
  | .string s => some (Value.duration <$> timed id (Duration.read s))
  | .int i => some (Value.duration <$> timed id (Duration.normalize i.toInt 0))
  | _ => none

def conversions : List Func := [
  conversion "int" [("int64_to_int64", .int), ("uint64_to_int64", .uint),
    ("double_to_int64", .double), ("string_to_int64", .string),
    ("timestamp_to_int64", .timestamp)] toInt,
  conversion "uint" [("uint64_to_uint64", .uint), ("int64_to_uint64", .int),
    ("double_to_uint64", .double), ("string_to_uint64", .string)] toUInt,
  conversion "double" [("double_to_double", .double), ("int64_to_double", .int),
    ("uint64_to_double", .uint), ("string_to_double", .string)] toDouble,
  conversion "bool" [("bool_to_bool", .bool), ("string_to_bool", .string)] toBool,
  conversion "string" [("string_to_string", .string), ("int64_to_string", .int),
    ("uint64_to_string", .uint), ("double_to_string", .double), ("bool_to_string", .bool),
    ("bytes_to_string", .bytes), ("timestamp_to_string", .timestamp),
    ("duration_to_string", .duration)] toText,
  conversion "bytes" [("bytes_to_bytes", .bytes), ("string_to_bytes", .string)] toBytes,
  conversion "timestamp" [("timestamp_to_timestamp", .timestamp),
    ("string_to_timestamp", .string), ("int64_to_timestamp", .int)] toTimestamp,
  conversion "duration" [("duration_to_duration", .duration), ("string_to_duration", .string),
    ("int64_to_duration", .int)] toDuration,
  conversion "type" [("type", .dyn)] fun _ x => some (.ok (.type x.ty)),
  conversion "dyn" [("to_dyn", .dyn)] fun _ x => some (.ok x)]

end CommonExpr.Library
