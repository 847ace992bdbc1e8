import CommonExpr.Protobuf.Forms

/-!
The message types that describe files: their messages, fields, enums, services
and options.  A set of files travels as one message of these types.
-/

namespace CommonExpr.Protobuf.Meta

/-- A message of this package. -/
def part (name : String) : Kind := .message ("google.protobuf." ++ name)

def choices (name : String) : Kind := .enum ("google.protobuf." ++ name)

/-- Options that are not yet understood, which every kind of options may hold. -/
def uninterpreted : Field := .many 999 "uninterpreted_option" (part "UninterpretedOption")

def type (name : String) (fields : List Field) : MessageType :=
  ⟨"google.protobuf." ++ name, fields⟩

/-- Options of one kind. -/
def options (name : String) (fields : List Field) : MessageType :=
  .ofFields ("google.protobuf." ++ name) (fields ++ [uninterpreted])

def enum (name textPrefix : String) (values : List (String × Int)) : EnumType :=
  ⟨"google.protobuf." ++ name, values.map fun (value, n) => (textPrefix ++ value, n)⟩

def fileSetType : MessageType :=
  type "FileDescriptorSet" [.many 1 "file" (part "FileDescriptorProto")]

def fileType : MessageType :=
  type "FileDescriptorProto"
    [.optional 1 "name" .string,
      .optional 2 "package" .string,
      .many 3 "dependency" .string,
      .many 4 "message_type" (part "DescriptorProto"),
      .many 5 "enum_type" (part "EnumDescriptorProto"),
      .many 6 "service" (part "ServiceDescriptorProto"),
      .many 7 "extension" (part "FieldDescriptorProto"),
      .optional 8 "options" (part "FileOptions"),
      .optional 9 "source_code_info" (part "SourceCodeInfo"),
      .unpacked 10 "public_dependency" .int32,
      .unpacked 11 "weak_dependency" .int32,
      .optional 12 "syntax" .string,
      .optional 14 "edition" (choices "Edition")]

def messageTypes : List MessageType :=
  [type "DescriptorProto"
      [.optional 1 "name" .string,
        .many 2 "field" (part "FieldDescriptorProto"),
        .many 3 "nested_type" (part "DescriptorProto"),
        .many 4 "enum_type" (part "EnumDescriptorProto"),
        .many 5 "extension_range" (part "DescriptorProto.ExtensionRange"),
        .many 6 "extension" (part "FieldDescriptorProto"),
        .optional 7 "options" (part "MessageOptions"),
        .many 8 "oneof_decl" (part "OneofDescriptorProto"),
        .many 9 "reserved_range" (part "DescriptorProto.ReservedRange"),
        .many 10 "reserved_name" .string],
    type "DescriptorProto.ExtensionRange"
      [.optional 1 "start" .int32, .optional 2 "end" .int32,
        .optional 3 "options" (part "ExtensionRangeOptions")],
    type "DescriptorProto.ReservedRange" [.optional 1 "start" .int32, .optional 2 "end" .int32],
    type "FieldDescriptorProto"
      [.optional 1 "name" .string,
        .optional 2 "extendee" .string,
        .optional 3 "number" .int32,
        .optional 4 "label" (choices "FieldDescriptorProto.Label"),
        .optional 5 "type" (choices "FieldDescriptorProto.Type"),
        .optional 6 "type_name" .string,
        .optional 7 "default_value" .string,
        .optional 8 "options" (part "FieldOptions"),
        .optional 9 "oneof_index" .int32,
        .optional 10 "json_name" .string,
        .optional 17 "proto3_optional" .bool],
    type "OneofDescriptorProto"
      [.optional 1 "name" .string, .optional 2 "options" (part "OneofOptions")],
    type "EnumDescriptorProto"
      [.optional 1 "name" .string,
        .many 2 "value" (part "EnumValueDescriptorProto"),
        .optional 3 "options" (part "EnumOptions"),
        .many 4 "reserved_range" (part "EnumDescriptorProto.EnumReservedRange"),
        .many 5 "reserved_name" .string],
    type "EnumDescriptorProto.EnumReservedRange"
      [.optional 1 "start" .int32, .optional 2 "end" .int32],
    type "EnumValueDescriptorProto"
      [.optional 1 "name" .string, .optional 2 "number" .int32,
        .optional 3 "options" (part "EnumValueOptions")],
    type "ServiceDescriptorProto"
      [.optional 1 "name" .string, .many 2 "method" (part "MethodDescriptorProto"),
        .optional 3 "options" (part "ServiceOptions")],
    type "MethodDescriptorProto"
      [.optional 1 "name" .string,
        .optional 2 "input_type" .string,
        .optional 3 "output_type" .string,
        .optional 4 "options" (part "MethodOptions"),
        .optional 5 "client_streaming" .bool (some (.bool false)),
        .optional 6 "server_streaming" .bool (some (.bool false))]]

/-- What is left to the edition of the language, for one declaration and those in it. -/
def features (number : Nat) : Field := .optional number "features" (part "FeatureSet")

/-- A flag that is off unless set. -/
def flag (number : Nat) (name : String) : Field :=
  .optional number name .bool (some (.bool false))

def optionTypes : List MessageType :=
  [options "FileOptions"
      [.optional 1 "java_package" .string,
        .optional 8 "java_outer_classname" .string,
        .optional 9 "optimize_for" (choices "FileOptions.OptimizeMode"),
        flag 10 "java_multiple_files",
        .optional 11 "go_package" .string,
        flag 16 "cc_generic_services",
        flag 17 "java_generic_services",
        flag 18 "py_generic_services",
        .optional 20 "java_generate_equals_and_hash" .bool,
        flag 23 "deprecated",
        flag 27 "java_string_check_utf8",
        .optional 31 "cc_enable_arenas" .bool (some (.bool true)),
        .optional 36 "objc_class_prefix" .string,
        .optional 37 "csharp_namespace" .string,
        .optional 39 "swift_prefix" .string,
        .optional 40 "php_class_prefix" .string,
        .optional 41 "php_namespace" .string,
        flag 42 "php_generic_services",
        .optional 44 "php_metadata_namespace" .string,
        .optional 45 "ruby_package" .string,
        features 50],
    options "MessageOptions"
      [flag 1 "message_set_wire_format", flag 2 "no_standard_descriptor_accessor",
        flag 3 "deprecated", .optional 7 "map_entry" .bool,
        .optional 11 "deprecated_legacy_json_field_conflicts" .bool, features 12],
    options "FieldOptions"
      [.optional 1 "ctype" (choices "FieldOptions.CType"), .optional 2 "packed" .bool,
        flag 3 "deprecated", flag 5 "lazy", .optional 6 "jstype" (choices "FieldOptions.JSType"),
        flag 10 "weak", flag 15 "unverified_lazy", flag 16 "debug_redact",
        .optional 17 "retention" (choices "FieldOptions.OptionRetention"),
        .unpacked 19 "targets" (choices "FieldOptions.OptionTargetType"),
        .many 20 "edition_defaults" (part "FieldOptions.EditionDefault"), features 21],
    options "OneofOptions" [features 1],
    options "EnumOptions"
      [.optional 2 "allow_alias" .bool, flag 3 "deprecated",
        .optional 6 "deprecated_legacy_json_field_conflicts" .bool, features 7],
    options "EnumValueOptions" [flag 1 "deprecated", features 2, flag 3 "debug_redact"],
    options "ServiceOptions" [flag 33 "deprecated", features 34],
    options "MethodOptions"
      [flag 33 "deprecated",
        .optional 34 "idempotency_level" (choices "MethodOptions.IdempotencyLevel"),
        features 35],
    options "ExtensionRangeOptions"
      [.many 2 "declaration" (part "ExtensionRangeOptions.Declaration"),
        .optional 3 "verification" (choices "ExtensionRangeOptions.VerificationState")
          (some (.int 1)),
        features 50]]

/-- The features that an edition of the language sets. -/
def featureType : MessageType :=
  type "FeatureSet"
    [.optional 1 "field_presence" (choices "FeatureSet.FieldPresence"),
      .optional 2 "enum_type" (choices "FeatureSet.EnumType"),
      .optional 3 "repeated_field_encoding" (choices "FeatureSet.RepeatedFieldEncoding"),
      .optional 4 "utf8_validation" (choices "FeatureSet.Utf8Validation"),
      .optional 5 "message_encoding" (choices "FeatureSet.MessageEncoding"),
      .optional 6 "json_format" (choices "FeatureSet.JsonFormat")]

/-- What options hold besides scalars. -/
def optionPartTypes : List MessageType :=
  [type "FieldOptions.EditionDefault"
      [.optional 2 "value" .string, .optional 3 "edition" (choices "Edition")],
    type "ExtensionRangeOptions.Declaration"
      [.optional 1 "number" .int32, .optional 2 "full_name" .string, .optional 3 "type" .string,
        .optional 5 "reserved" .bool, .optional 6 "repeated" .bool],
    type "FeatureSetDefaults"
      [.many 1 "defaults" (part "FeatureSetDefaults.FeatureSetEditionDefault"),
        .optional 4 "minimum_edition" (choices "Edition"),
        .optional 5 "maximum_edition" (choices "Edition")],
    type "FeatureSetDefaults.FeatureSetEditionDefault"
      [features 2, .optional 3 "edition" (choices "Edition")]]

def detailTypes : List MessageType :=
  [type "UninterpretedOption"
      [.many 2 "name" (part "UninterpretedOption.NamePart"),
        .optional 3 "identifier_value" .string,
        .optional 4 "positive_int_value" .uint64,
        .optional 5 "negative_int_value" .int64,
        .optional 6 "double_value" .double,
        .optional 7 "string_value" .bytes,
        .optional 8 "aggregate_value" .string],
    type "UninterpretedOption.NamePart"
      [.optional 1 "name_part" .string, .optional 2 "is_extension" .bool],
    type "SourceCodeInfo" [.many 1 "location" (part "SourceCodeInfo.Location")],
    type "SourceCodeInfo.Location"
      [.many 1 "path" .int32, .many 2 "span" .int32, .optional 3 "leading_comments" .string,
        .optional 4 "trailing_comments" .string,
        .unpacked 6 "leading_detached_comments" .string],
    type "GeneratedCodeInfo" [.many 1 "annotation" (part "GeneratedCodeInfo.Annotation")],
    type "GeneratedCodeInfo.Annotation"
      [.many 1 "path" .int32, .optional 2 "source_file" .string, .optional 3 "begin" .int32,
        .optional 4 "end" .int32,
        .optional 5 "semantic" (choices "GeneratedCodeInfo.Annotation.Semantic")]]

/-- Numbers from zero on in the order of the names. -/
def counted (names : List String) : List (String × Int) :=
  names.zipIdx.map fun (name, i) => (name, i)

def enums : List EnumType :=
  [enum "Edition" "EDITION_"
      [("UNKNOWN", 0), ("PROTO2", 998), ("PROTO3", 999), ("2023", 1000), ("1_TEST_ONLY", 1),
        ("2_TEST_ONLY", 2), ("99997_TEST_ONLY", 99997), ("99998_TEST_ONLY", 99998),
        ("99999_TEST_ONLY", 99999)],
    enum "FieldDescriptorProto.Type" "TYPE_"
      (["DOUBLE", "FLOAT", "INT64", "UINT64", "INT32", "FIXED64", "FIXED32", "BOOL", "STRING",
        "GROUP", "MESSAGE", "BYTES", "UINT32", "ENUM", "SFIXED32", "SFIXED64", "SINT32",
        "SINT64"].zipIdx.map fun (name, i) => (name, i + 1)),
    enum "FieldDescriptorProto.Label" "LABEL_" [("OPTIONAL", 1), ("REQUIRED", 2), ("REPEATED", 3)],
    enum "FileOptions.OptimizeMode" "" [("SPEED", 1), ("CODE_SIZE", 2), ("LITE_RUNTIME", 3)],
    enum "FieldOptions.CType" "" (counted ["STRING", "CORD", "STRING_PIECE"]),
    enum "FieldOptions.JSType" "JS_" (counted ["NORMAL", "STRING", "NUMBER"]),
    enum "FieldOptions.OptionRetention" "RETENTION_" (counted ["UNKNOWN", "RUNTIME", "SOURCE"]),
    enum "FieldOptions.OptionTargetType" "TARGET_TYPE_"
      (counted ["UNKNOWN", "FILE", "EXTENSION_RANGE", "MESSAGE", "FIELD", "ONEOF", "ENUM",
        "ENUM_ENTRY", "SERVICE", "METHOD"]),
    enum "MethodOptions.IdempotencyLevel" ""
      (counted ["IDEMPOTENCY_UNKNOWN", "NO_SIDE_EFFECTS", "IDEMPOTENT"]),
    enum "ExtensionRangeOptions.VerificationState" "" (counted ["DECLARATION", "UNVERIFIED"]),
    enum "FeatureSet.FieldPresence" ""
      (counted ["FIELD_PRESENCE_UNKNOWN", "EXPLICIT", "IMPLICIT", "LEGACY_REQUIRED"]),
    enum "FeatureSet.EnumType" "" (counted ["ENUM_TYPE_UNKNOWN", "OPEN", "CLOSED"]),
    enum "FeatureSet.RepeatedFieldEncoding" ""
      (counted ["REPEATED_FIELD_ENCODING_UNKNOWN", "PACKED", "EXPANDED"]),
    enum "FeatureSet.Utf8Validation" "" (counted ["UTF8_VALIDATION_UNKNOWN", "NONE", "VERIFY"]),
    enum "FeatureSet.MessageEncoding" ""
      (counted ["MESSAGE_ENCODING_UNKNOWN", "LENGTH_PREFIXED", "DELIMITED"]),
    enum "FeatureSet.JsonFormat" ""
      (counted ["JSON_FORMAT_UNKNOWN", "ALLOW", "LEGACY_BEST_EFFORT"]),
    enum "GeneratedCodeInfo.Annotation.Semantic" "" (counted ["NONE", "SET", "ALIAS"])]

/-- The numbers of features that are left to single languages. -/
def featureRanges : List NumberRange := [⟨1000, 1001⟩, ⟨1001, 1002⟩, ⟨9995, 10000⟩]

/-- The file that declares all this.  Options and features are left open to extensions. -/
def file : File :=
  { File.ofTypes "google/protobuf/descriptor.proto" "google.protobuf" enums
      (fileSetType :: fileType :: messageTypes ++ optionTypes ++ featureType :: optionPartTypes ++
        detailTypes) with
    extensible := optionTypes.map (fun t => (t.name, ⟨1000, 536870912⟩)) ++
      featureRanges.map fun range => (featureType.name, range) }

end CommonExpr.Protobuf.Meta
