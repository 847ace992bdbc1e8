import CommonExpr.Convert.Protobuf

/-!
Values and results in exchange form.
-/

namespace CommonExpr.Exchange

/-- A scalar in exchange form. -/
def Value.ofScalar : Scalar → Value
  | .bool b => .bool b
  | .int i => .int i
  | .uint u => .uint u
  | .double d => .double d
  | .string s => .string s
  | .bytes b => .bytes b

/-- A message or time with the address of its type.  Times need no schema. -/
def packObject (schema : Option Protobuf.Schema) (id : Int) (v : CommonExpr.Value) :
    Outcome Value :=
  match v with
  | .timestamp t =>
      .ok (.object timestampUrl
        (Protobuf.timeMessage format Protobuf.WellKnown.timestampType t.seconds t.nanos).encode)
  | .duration d =>
      .ok (.object durationUrl
        (Protobuf.timeMessage format Protobuf.WellKnown.durationType d.seconds d.nanos).encode)
  | v =>
      match schema with
      | none => fail id (.typeMismatch "wire value" v.ty)
      | some schema => do
          let _ ← Protobuf.lookupType schema id Protobuf.WellKnown.any
          let (url, payload) ← Protobuf.packAny schema id v
          return .object url payload

/-- A value at most `fuel` levels deep in exchange form. -/
def Value.ofValueWithin (schema : Option Protobuf.Schema) (id : Int) :
    (fuel : Nat) → CommonExpr.Value → Outcome Value
  | 0, _ => .ok .unset
  | fuel + 1, v =>
      match v with
      | .null => .ok (.null 0)
      | .typedNull _ _ => .ok (.null 0)
      | .scalar s => .ok (.ofScalar s)
      | .wrapped s => .ok (.ofScalar s)
      | .list _ items => do
          let values ← items.collect id
          let converted ← values.mapM (Value.ofValueWithin schema id fuel)
          return .list converted
      | .map _ entries => do
          let pairs ← entries.collectPairs id
          let converted ← pairs.mapM fun (k, w) => do
            let key ← Value.ofValueWithin schema id fuel k
            let value ← Value.ofValueWithin schema id fuel w
            return MapEntry.mk (some key) (some value)
          return .map converted
      | .type t => .ok (.type t.name)
      | other => packObject schema id other

/-- A value in exchange form. -/
def Value.ofValue (schema : Option Protobuf.Schema) (id : Int) (v : CommonExpr.Value) :
    Outcome Value :=
  Value.ofValueWithin schema id (v.depth + 1) v

/-- The status code of an invalid argument. -/
def invalidArgumentCode : Int32 := 3

/-- An evaluation result in exchange form: all messages of an error, the ids of unknowns. -/
def Result.ofOutcome (schema : Option Protobuf.Schema) (outcome : Outcome CommonExpr.Value) :
    Result :=
  match outcome >>= Value.ofValue schema 0 with
  | .ok v => .value v
  | .error (.unknown s) => .unknown s.ids
  | .error (.error e) =>
      .errors ((e :: e.additional).map fun err => ⟨invalidArgumentCode, err.message⟩)

/-- An error as another evaluator reports it. -/
def Status.toError (id : Int) (s : Status) : Error :=
  { id, cause := .reported .invalidArgument s.message }

/-- The evaluation result that was exchanged. -/
def Result.toOutcome (schema : Option Protobuf.Schema) (id : Int) :
    Result → Outcome CommonExpr.Value
  | .unset => .ok .null
  | .value v => v.toValue schema id
  | .errors [] => fail id (.reported .invalidArgument "empty error set")
  | .errors (first :: rest) =>
      .error (.error (rest.foldl (fun e s => e.add (s.toError id)) (first.toError id)))
  | .unknown ids => .error (.unknown (.ofList ids))

end CommonExpr.Exchange
