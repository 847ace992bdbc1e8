import CommonExpr.Protobuf.Meta

/-!
The well-known types and the files that declare them.
-/

namespace CommonExpr.Protobuf

/-- Messages that hold one scalar, by the kind of the scalar. -/
def wrapperKind? : String → Option Kind
  | "google.protobuf.BoolValue" => some .bool
  | "google.protobuf.Int32Value" => some .int32
  | "google.protobuf.Int64Value" => some .int64
  | "google.protobuf.UInt32Value" => some .uint32
  | "google.protobuf.UInt64Value" => some .uint64
  | "google.protobuf.FloatValue" => some .float
  | "google.protobuf.DoubleValue" => some .double
  | "google.protobuf.StringValue" => some .string
  | "google.protobuf.BytesValue" => some .bytes
  | _ => none

def wrapperNames : List String :=
  ["google.protobuf.BoolValue", "google.protobuf.Int32Value", "google.protobuf.Int64Value",
    "google.protobuf.UInt32Value", "google.protobuf.UInt64Value", "google.protobuf.FloatValue",
    "google.protobuf.DoubleValue", "google.protobuf.StringValue", "google.protobuf.BytesValue"]

def wrapperTypes : List MessageType :=
  wrapperNames.filterMap fun name =>
    (wrapperKind? name).map fun kind => ⟨name, [.one 1 "value" kind]⟩

namespace WellKnown

def any := "google.protobuf.Any"
def duration := "google.protobuf.Duration"
def listValue := "google.protobuf.ListValue"
def nullValue := "google.protobuf.NullValue"
def struct := "google.protobuf.Struct"
def timestamp := "google.protobuf.Timestamp"
def value := "google.protobuf.Value"

def anyType : MessageType := ⟨any, [.one 1 "type_url" .string, .one 2 "value" .bytes]⟩

def durationType : MessageType := ⟨duration, [.one 1 "seconds" .int64, .one 2 "nanos" .int32]⟩

def timestampType : MessageType := ⟨timestamp, [.one 1 "seconds" .int64, .one 2 "nanos" .int32]⟩

def structType : MessageType := ⟨struct, [.mapOf 1 "fields" .string (.message value)]⟩

def valueType : MessageType :=
  ⟨value,
    [.choice "kind" 1 "null_value" (.enum nullValue),
      .choice "kind" 2 "number_value" .double,
      .choice "kind" 3 "string_value" .string,
      .choice "kind" 4 "bool_value" .bool,
      .choice "kind" 5 "struct_value" (.message struct),
      .choice "kind" 6 "list_value" (.message listValue)]⟩

def listValueType : MessageType := ⟨listValue, [.many 1 "values" (.message value)]⟩

/-- A file of the package of well-known types. -/
def file (name : String) (enums : List EnumType) (types : List MessageType) : File :=
  .ofTypes ("google/protobuf/" ++ name ++ ".proto") "google.protobuf" enums types

def sourceContext := "google.protobuf.SourceContext"
def option := "google.protobuf.Option"
def syntaxes := "google.protobuf.Syntax"

/-- Types and fields as they are described to other programs at run time. -/
def typeFile : File :=
  file "type"
    [⟨syntaxes, [("SYNTAX_PROTO2", 0), ("SYNTAX_PROTO3", 1), ("SYNTAX_EDITIONS", 2)]⟩,
      ⟨"google.protobuf.Field.Kind",
        ["UNKNOWN", "DOUBLE", "FLOAT", "INT64", "UINT64", "INT32", "FIXED64", "FIXED32", "BOOL",
          "STRING", "GROUP", "MESSAGE", "BYTES", "UINT32", "ENUM", "SFIXED32", "SFIXED64",
          "SINT32", "SINT64"].zipIdx.map fun (name, i) => ("TYPE_" ++ name, i)⟩,
      ⟨"google.protobuf.Field.Cardinality",
        ["UNKNOWN", "OPTIONAL", "REQUIRED", "REPEATED"].zipIdx.map fun (name, i) =>
          ("CARDINALITY_" ++ name, i)⟩]
    [⟨"google.protobuf.Type",
        [.one 1 "name" .string, .many 2 "fields" (.message "google.protobuf.Field"),
          .many 3 "oneofs" .string, .many 4 "options" (.message option),
          .one 5 "source_context" (.message sourceContext), .one 6 "syntax" (.enum syntaxes),
          .one 7 "edition" .string]⟩,
      ⟨"google.protobuf.Field",
        [.one 1 "kind" (.enum "google.protobuf.Field.Kind"),
          .one 2 "cardinality" (.enum "google.protobuf.Field.Cardinality"),
          .one 3 "number" .int32, .one 4 "name" .string, .one 6 "type_url" .string,
          .one 7 "oneof_index" .int32, .one 8 "packed" .bool,
          .many 9 "options" (.message option), .one 10 "json_name" .string,
          .one 11 "default_value" .string]⟩,
      ⟨"google.protobuf.Enum",
        [.one 1 "name" .string, .many 2 "enumvalue" (.message "google.protobuf.EnumValue"),
          .many 3 "options" (.message option), .one 4 "source_context" (.message sourceContext),
          .one 5 "syntax" (.enum syntaxes), .one 6 "edition" .string]⟩,
      ⟨"google.protobuf.EnumValue",
        [.one 1 "name" .string, .one 2 "number" .int32, .many 3 "options" (.message option)]⟩,
      ⟨option, [.one 1 "name" .string, .one 2 "value" (.message any)]⟩]

/-- Services as they are described to other programs at run time. -/
def apiFile : File :=
  file "api" []
    [⟨"google.protobuf.Api",
        [.one 1 "name" .string, .many 2 "methods" (.message "google.protobuf.Method"),
          .many 3 "options" (.message option), .one 4 "version" .string,
          .one 5 "source_context" (.message sourceContext),
          .many 6 "mixins" (.message "google.protobuf.Mixin"),
          .one 7 "syntax" (.enum syntaxes)]⟩,
      ⟨"google.protobuf.Method",
        [.one 1 "name" .string, .one 2 "request_type_url" .string,
          .one 3 "request_streaming" .bool, .one 4 "response_type_url" .string,
          .one 5 "response_streaming" .bool, .many 6 "options" (.message option),
          .one 7 "syntax" (.enum syntaxes)]⟩,
      ⟨"google.protobuf.Mixin", [.one 1 "name" .string, .one 2 "root" .string]⟩]

/-- The files that declare the well-known types. -/
def files : List File :=
  [file "any" [] [anyType], apiFile, Meta.file, file "duration" [] [durationType],
    file "empty" [] [⟨"google.protobuf.Empty", []⟩],
    file "field_mask" [] [⟨"google.protobuf.FieldMask", [.many 1 "paths" .string]⟩],
    file "source_context" [] [⟨sourceContext, [.one 1 "file_name" .string]⟩],
    file "struct" [⟨nullValue, [("NULL_VALUE", 0)]⟩] [structType, valueType, listValueType],
    file "timestamp" [] [timestampType], typeFile, file "wrappers" [] wrapperTypes]

end WellKnown

/-- The schema of the well-known types alone. -/
def Schema.wellKnown : Schema := ⟨WellKnown.files⟩

end CommonExpr.Protobuf
