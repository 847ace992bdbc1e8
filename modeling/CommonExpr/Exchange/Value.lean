import CommonExpr.Exchange.Format

/-!
Values and results as they are exchanged.
-/

namespace CommonExpr.Exchange

open Protobuf (Message)

mutual

/-- A value in exchange form. -/
inductive Value where
  /-- A value whose kind is not said. -/
  | unset
  | null (number : Int32)
  | bool (b : Bool)
  | int (i : Int64)
  | uint (u : UInt64)
  | double (d : Double)
  | string (s : String)
  | bytes (b : List UInt8)
  | enum (type : String) (number : Int32)
  /-- An encoded message and the address of its type. -/
  | object (url : String) (payload : List UInt8)
  | map (entries : List MapEntry)
  | list (values : List Value)
  | type (name : String)

/-- A map entry, of which either part may be missing. -/
inductive MapEntry where
  | mk (key value : Option Value)

end

mutual

/-- How many levels a value nests; an encoded message counts twice its length. -/
def Value.depth : Value → Nat
  | .object _ payload => 2 * payload.length + 2
  | .map entries => MapEntry.listDepth entries + 1
  | .list values => Value.listDepth values + 1
  | _ => 1

def Value.listDepth : List Value → Nat
  | [] => 0
  | v :: rest => max v.depth (Value.listDepth rest)

def Value.optionDepth : Option Value → Nat
  | none => 0
  | some v => v.depth

def MapEntry.listDepth : List MapEntry → Nat
  | [] => 0
  | .mk key value :: rest =>
      max (max (Value.optionDepth key) (Value.optionDepth value)) (MapEntry.listDepth rest)

end

mutual

/-- The value as a message. -/
def Value.toMessage : Value → Message
  | .unset => build valueType []
  | .null n => build valueType [(1, .enum n)]
  | .bool b => build valueType [(2, .bool b)]
  | .int i => build valueType [(3, .int64 i)]
  | .uint u => build valueType [(4, .uint64 u)]
  | .double d => build valueType [(5, .double d)]
  | .string s => build valueType [(6, .string s)]
  | .bytes b => build valueType [(7, .bytes b)]
  | .enum type n =>
      build valueType [(9, .message (build enumValueType [(1, .string type), (2, .int32 n)]))]
  | .object url payload =>
      build valueType
        [(10, .message (build Protobuf.WellKnown.anyType [(1, .string url), (2, .bytes payload)]))]
  | .map entries =>
      build valueType
        [(11, .message (build mapValueType [(1, .list (MapEntry.toMessages entries))]))]
  | .list values =>
      build valueType
        [(12, .message (build listValueType [(1, .list (Value.toMessages values))]))]
  | .type name => build valueType [(15, .string name)]

def Value.toMessages : List Value → List Protobuf.Value
  | [] => []
  | v :: rest => .message v.toMessage :: Value.toMessages rest

/-- The field of a part that may be missing. -/
def Value.optionFields (number : Nat) : Option Value → List (Nat × Protobuf.Value)
  | none => []
  | some v => [(number, .message v.toMessage)]

def MapEntry.toMessages : List MapEntry → List Protobuf.Value
  | [] => []
  | .mk key value :: rest =>
      .message (build mapEntryType (Value.optionFields 1 key ++ Value.optionFields 2 value)) ::
        MapEntry.toMessages rest

end

/-- The value in a message, nested at most `fuel` levels deep. -/
def Value.ofMessage : (fuel : Nat) → Message → Value
  | 0, _ => .unset
  | fuel + 1, m =>
      match m.fields.head? with
      | none => .unset
      | some (1, .enum n) => .null n
      | some (2, .bool b) => .bool b
      | some (3, .int64 i) => .int i
      | some (4, .uint64 u) => .uint u
      | some (5, .double d) => .double d
      | some (6, .string s) => .string s
      | some (7, .bytes b) => .bytes b
      | some (9, .message e) => .enum (e.textAt 1) (Int32.ofInt (e.intAt 2))
      | some (10, .message any) => .object (any.textAt 1) (any.bytesAt 2)
      | some (11, .message m) =>
          .map ((m.messagesAt 1).map fun entry =>
            .mk ((entry.messageAt? 1).map (Value.ofMessage fuel))
              ((entry.messageAt? 2).map (Value.ofMessage fuel)))
      | some (12, .message m) => .list ((m.messagesAt 1).map (Value.ofMessage fuel))
      | some (15, .string name) => .type name
      | some _ => .unset

def Value.encode (v : Value) : List UInt8 := v.toMessage.encode

def Value.decode? (bytes : List UInt8) : Option Value :=
  (Protobuf.decodeKnown? format valueType bytes).map fun m => Value.ofMessage (m.depth + 1) m

/-- An error as it is exchanged. -/
structure Status where
  code : Int32
  message : String

/-- The result of an evaluation in exchange form. -/
inductive Result where
  | unset
  | value (v : Value)
  | errors (errors : List Status)
  | unknown (ids : List Int)

def Result.toMessage : Result → Message
  | .unset => build exprValueType []
  | .value v => build exprValueType [(1, .message v.toMessage)]
  | .errors statuses =>
      build exprValueType
        [(2, .message (build errorSetType
          [(1, .list (statuses.map fun e =>
            .message (build statusType [(1, .int32 e.code), (2, .string e.message)])))]))]
  | .unknown ids =>
      build exprValueType
        [(3, .message (build unknownSetType
          [(1, .list (ids.map fun i => .int64 (Int64.ofInt i)))]))]

def Result.encode (r : Result) : List UInt8 := r.toMessage.encode

end CommonExpr.Exchange
