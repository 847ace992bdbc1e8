import CommonExpr.Fault
import CommonExpr.Number.Truncation
import CommonExpr.Value.Basic

/-!
Reading a value as a scalar of a wanted type.  An absent value and null give the
zero of the type; numbers convert where no digit is lost.
-/

namespace CommonExpr.Value

/-- The value to convert, `none` standing for zero. -/
def present? : Option Value → Option Value
  | none => none
  | some v => if v.isNull then none else some v.unwrap

def toBool (id : Int) (v : Option Value) : Outcome Bool :=
  match present? v with
  | none => .ok false
  | some (.bool b) => .ok b
  | some other => fail id (.typeMismatch "bool" other.ty)

def toInt64 (id : Int) (v : Option Value) : Outcome Int64 :=
  match present? v with
  | none => .ok 0
  | some (.int i) => .ok i
  | some (.uint u) => orFail id (.overflow "conversion" .int) (int64? u.toNat)
  | some (.double d) => orFail id (.typeMismatch "integer" .double) d.wholeInt64?
  | some other => fail id (.typeMismatch "integer" other.ty)

def toUInt64 (id : Int) (v : Option Value) : Outcome UInt64 :=
  match present? v with
  | none => .ok 0
  | some (.uint u) => .ok u
  | some (.int i) => orFail id (.overflow "conversion" .uint) (uint64? i.toInt)
  | some (.double d) => orFail id (.typeMismatch "integer" .double) d.wholeUInt64?
  | some other => fail id (.typeMismatch "integer" other.ty)

def toDouble (id : Int) (v : Option Value) : Outcome Double :=
  match present? v with
  | none => .ok .zero
  | some (.double d) => .ok d
  | some (.int i) => .ok (Double.ofInt i.toInt)
  | some (.uint u) => .ok (Double.ofInt u.toNat)
  | some other => fail id (.typeMismatch "number" other.ty)

def toText (id : Int) (v : Option Value) : Outcome String :=
  match present? v with
  | none => .ok ""
  | some (.string s) => .ok s
  | some other => fail id (.typeMismatch "string" other.ty)

def toBytes (id : Int) (v : Option Value) : Outcome (List UInt8) :=
  match present? v with
  | none => .ok []
  | some (.bytes b) => .ok b
  | some other => fail id (.typeMismatch "bytes" other.ty)

end CommonExpr.Value
