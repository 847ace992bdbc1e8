import CommonExpr.Protobuf.Codec
import CommonExpr.Protobuf.WellKnown

/-!
The messages in which evaluators exchange expressions, values and results.
-/

namespace CommonExpr.Exchange

open Protobuf

def parsedExprType : MessageType :=
  ⟨"cel.expr.ParsedExpr", [.one 2 "expr" (.message "cel.expr.Expr")]⟩

def exprType : MessageType :=
  ⟨"cel.expr.Expr",
    [.one 2 "id" .int64,
      .choice "expr_kind" 3 "const_expr" (.message "cel.expr.Constant"),
      .choice "expr_kind" 4 "ident_expr" (.message "cel.expr.Expr.Ident"),
      .choice "expr_kind" 5 "select_expr" (.message "cel.expr.Expr.Select"),
      .choice "expr_kind" 6 "call_expr" (.message "cel.expr.Expr.Call"),
      .choice "expr_kind" 7 "list_expr" (.message "cel.expr.Expr.CreateList"),
      .choice "expr_kind" 8 "struct_expr" (.message "cel.expr.Expr.CreateStruct"),
      .choice "expr_kind" 9 "comprehension_expr" (.message "cel.expr.Expr.Comprehension")]⟩

def identType : MessageType := ⟨"cel.expr.Expr.Ident", [.one 1 "name" .string]⟩

def selectType : MessageType :=
  ⟨"cel.expr.Expr.Select",
    [.one 1 "operand" (.message "cel.expr.Expr"), .one 2 "field" .string, .one 3 "test_only" .bool]⟩

def callType : MessageType :=
  ⟨"cel.expr.Expr.Call",
    [.one 1 "target" (.message "cel.expr.Expr"), .one 2 "function" .string,
      .many 3 "args" (.message "cel.expr.Expr")]⟩

def createListType : MessageType :=
  ⟨"cel.expr.Expr.CreateList",
    [.many 1 "elements" (.message "cel.expr.Expr"), .many 2 "optional_indices" .int32]⟩

def createStructType : MessageType :=
  ⟨"cel.expr.Expr.CreateStruct",
    [.one 1 "message_name" .string,
      .many 2 "entries" (.message "cel.expr.Expr.CreateStruct.Entry")]⟩

def structEntryType : MessageType :=
  ⟨"cel.expr.Expr.CreateStruct.Entry",
    [.one 1 "id" .int64,
      .choice "key_kind" 2 "field_key" .string,
      .choice "key_kind" 3 "map_key" (.message "cel.expr.Expr"),
      .one 4 "value" (.message "cel.expr.Expr"),
      .one 5 "optional_entry" .bool]⟩

def comprehensionType : MessageType :=
  ⟨"cel.expr.Expr.Comprehension",
    [.one 1 "iter_var" .string, .one 2 "iter_range" (.message "cel.expr.Expr"),
      .one 3 "accu_var" .string, .one 4 "accu_init" (.message "cel.expr.Expr"),
      .one 5 "loop_condition" (.message "cel.expr.Expr"),
      .one 6 "loop_step" (.message "cel.expr.Expr"), .one 7 "result" (.message "cel.expr.Expr")]⟩

def constantType : MessageType :=
  ⟨"cel.expr.Constant",
    [.choice "constant_kind" 1 "null_value" (.enum WellKnown.nullValue),
      .choice "constant_kind" 2 "bool_value" .bool,
      .choice "constant_kind" 3 "int64_value" .int64,
      .choice "constant_kind" 4 "uint64_value" .uint64,
      .choice "constant_kind" 5 "double_value" .double,
      .choice "constant_kind" 6 "string_value" .string,
      .choice "constant_kind" 7 "bytes_value" .bytes,
      .choice "constant_kind" 8 "duration_value" (.message WellKnown.duration),
      .choice "constant_kind" 9 "timestamp_value" (.message WellKnown.timestamp)]⟩

def valueType : MessageType :=
  ⟨"cel.expr.Value",
    [.choice "kind" 1 "null_value" (.enum WellKnown.nullValue),
      .choice "kind" 2 "bool_value" .bool,
      .choice "kind" 3 "int64_value" .int64,
      .choice "kind" 4 "uint64_value" .uint64,
      .choice "kind" 5 "double_value" .double,
      .choice "kind" 6 "string_value" .string,
      .choice "kind" 7 "bytes_value" .bytes,
      .choice "kind" 9 "enum_value" (.message "cel.expr.EnumValue"),
      .choice "kind" 10 "object_value" (.message WellKnown.any),
      .choice "kind" 11 "map_value" (.message "cel.expr.MapValue"),
      .choice "kind" 12 "list_value" (.message "cel.expr.ListValue"),
      .choice "kind" 15 "type_value" .string]⟩

def enumValueType : MessageType :=
  ⟨"cel.expr.EnumValue", [.one 1 "type" .string, .one 2 "value" .int32]⟩

def listValueType : MessageType :=
  ⟨"cel.expr.ListValue", [.many 1 "values" (.message "cel.expr.Value")]⟩

def mapValueType : MessageType :=
  ⟨"cel.expr.MapValue", [.many 1 "entries" (.message "cel.expr.MapValue.Entry")]⟩

def mapEntryType : MessageType :=
  ⟨"cel.expr.MapValue.Entry",
    [.one 1 "key" (.message "cel.expr.Value"), .one 2 "value" (.message "cel.expr.Value")]⟩

def exprValueType : MessageType :=
  ⟨"cel.expr.ExprValue",
    [.choice "kind" 1 "value" (.message "cel.expr.Value"),
      .choice "kind" 2 "error" (.message "cel.expr.ErrorSet"),
      .choice "kind" 3 "unknown" (.message "cel.expr.UnknownSet")]⟩

def errorSetType : MessageType :=
  ⟨"cel.expr.ErrorSet", [.many 1 "errors" (.message "cel.expr.Status")]⟩

def statusType : MessageType :=
  ⟨"cel.expr.Status",
    [.one 1 "code" .int32, .one 2 "message" .string, .many 3 "details" (.message WellKnown.any)]⟩

def unknownSetType : MessageType :=
  ⟨"cel.expr.UnknownSet", [.many 1 "exprs" .int64]⟩

/-- The exchange messages and the well-known types they refer to. -/
def format : Schema :=
  Schema.wellKnown.add
    [.ofTypes "cel/expr.proto" "cel.expr" []
      [parsedExprType, exprType, identType, selectType, callType, createListType,
        createStructType, structEntryType, comprehensionType, constantType, valueType,
        enumValueType, listValueType, mapValueType, mapEntryType, exprValueType, errorSetType,
        statusType, unknownSetType]]

/-- A message of the format with these field values. -/
def build (type : MessageType) (fields : List (Nat × Protobuf.Value)) : Message :=
  .mk format type fields []

end CommonExpr.Exchange
