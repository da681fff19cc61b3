import ProtoRest.Descriptor.Types

/-! # Types of options
Every kind of declaration has options of a message type of its own. A schema may declare that type
itself; `standardOptions` has the types for those that it does not declare. -/

namespace ProtoRest.Descriptor

/-- The declarations that have options. -/
inductive OptionOwner
  /-- A file. -/
  | file
  /-- A message. -/
  | message
  /-- A range of numbers for extensions. -/
  | extensionRange
  /-- A field. -/
  | field
  /-- A choice. -/
  | oneof
  /-- An enum. -/
  | enum
  /-- A value of an enum. -/
  | enumValue
  /-- A service. -/
  | service
  /-- A method. -/
  | method
  deriving DecidableEq, Repr

/-- The package of the types of options. -/
def optionPackage : String := "google.protobuf"

/-- The name of the type of options. -/
def OptionOwner.typeName : OptionOwner → String
  | .file => "FileOptions"
  | .message => "MessageOptions"
  | .extensionRange => "ExtensionRangeOptions"
  | .field => "FieldOptions"
  | .oneof => "OneofOptions"
  | .enum => "EnumOptions"
  | .enumValue => "EnumValueOptions"
  | .service => "ServiceOptions"
  | .method => "MethodOptions"

/-- The full name of the type of options. -/
def OptionOwner.fullName (o : OptionOwner) : String := optionPackage ++ "." ++ o.typeName

/-! ## The standard types -/

/-- A field of a standard type that may occur once. -/
def standardField (owner name : String) (number : Nat) (type : ValueType) : FieldType where
  name := name
  fullName := optionPackage ++ "." ++ owner ++ "." ++ name
  jsonName := name
  number := number
  cardinality := .optional
  type := type
  presence := true
  oneof := none
  marked := false
  packed := false
  default := none

/-- A field that may occur any number of times. -/
def FieldType.manyTimes (f : FieldType) : FieldType :=
  { f with cardinality := .repeated, presence := false }

/-- A field that has to occur. -/
def FieldType.needed (f : FieldType) : FieldType := { f with cardinality := .required }

/-- A standard type. -/
def standardMessage (name : String) (fields : List FieldType) (enums : List EnumType) :
    MessageType where
  name := name
  fullName := optionPackage ++ "." ++ name
  package := optionPackage
  fields := fields
  oneofs := []
  enums := enums
  mapEntry := false

/-- An enum in a standard type. -/
def standardEnum (owner name : String) (values : List (String × Int)) : EnumType where
  name := name
  fullName := optionPackage ++ "." ++ owner ++ "." ++ name
  package := optionPackage
  values := values.map fun v => ⟨v.1, optionPackage ++ "." ++ owner ++ "." ++ v.1, v.2, []⟩
  initial := (values.head?.map (·.2)).getD 0
  options := []

/-- The name of an open option with its parts. -/
def namePartName : String := optionPackage ++ ".UninterpretedOption.NamePart"

/-- A part of the name of an open option. -/
def namePartMessage : MessageType :=
  { standardMessage "UninterpretedOption.NamePart"
      [(standardField "UninterpretedOption.NamePart" "name_part" 1 (.scalar .string)).needed,
       (standardField "UninterpretedOption.NamePart" "is_extension" 2 (.scalar .bool)).needed]
      [] with
    name := "NamePart" }

/-- An open option. -/
def openOptionMessage : MessageType :=
  let field := standardField "UninterpretedOption"
  standardMessage "UninterpretedOption"
    [(field "name" 2 (.message namePartName false)).manyTimes,
     field "identifier_value" 3 (.scalar .string),
     field "positive_int_value" 4 (.scalar .uint64),
     field "negative_int_value" 5 (.scalar .int64),
     field "double_value" 6 (.scalar .double),
     field "string_value" 7 (.scalar .bytes),
     field "aggregate_value" 8 (.scalar .string)]
    []

/-- A standard type of options: its truth values, its texts and its enums, by their numbers. -/
def standardOptionsOf (owner : OptionOwner) (bools texts : List (Nat × String))
    (enums : List (Nat × String × EnumType)) : MessageType :=
  let field := standardField owner.typeName
  let fields :=
    bools.map (fun f => field f.2 f.1 (.scalar .bool)) ++
      texts.map (fun f => field f.2 f.1 (.scalar .string)) ++
      enums.map (fun f => field f.2.1 f.1 (.enum f.2.2.fullName))
  let openField :=
    (field "uninterpreted_option" 999 (.message openOptionMessage.fullName false)).manyTimes
  standardMessage owner.typeName (fields ++ [openField]) (enums.map (·.2.2))

/-- The standard types of options. -/
def standardOptionMessages : List MessageType :=
  [standardOptionsOf .file
     [(10, "java_multiple_files"), (20, "java_generate_equals_and_hash"),
      (27, "java_string_check_utf8"), (16, "cc_generic_services"), (17, "java_generic_services"),
      (18, "py_generic_services"), (42, "php_generic_services"), (23, "deprecated"),
      (31, "cc_enable_arenas")]
     [(1, "java_package"), (8, "java_outer_classname"), (11, "go_package"),
      (36, "objc_class_prefix"), (37, "csharp_namespace"), (39, "swift_prefix"),
      (40, "php_class_prefix"), (41, "php_namespace"), (44, "php_metadata_namespace"),
      (45, "ruby_package")]
     [(9, "optimize_for",
       standardEnum "FileOptions" "OptimizeMode"
         [("SPEED", 1), ("CODE_SIZE", 2), ("LITE_RUNTIME", 3)])],
   standardOptionsOf .message
     [(1, "message_set_wire_format"), (2, "no_standard_descriptor_accessor"), (3, "deprecated"),
      (7, "map_entry")]
     [] [],
   standardOptionsOf .extensionRange [] [] [],
   standardOptionsOf .field
     [(2, "packed"), (5, "lazy"), (3, "deprecated"), (10, "weak")]
     []
     [(1, "ctype",
       standardEnum "FieldOptions" "CType" [("STRING", 0), ("CORD", 1), ("STRING_PIECE", 2)]),
      (6, "jstype",
       standardEnum "FieldOptions" "JSType"
         [("JS_NORMAL", 0), ("JS_STRING", 1), ("JS_NUMBER", 2)])],
   standardOptionsOf .oneof [] [] [],
   standardOptionsOf .enum [(2, "allow_alias"), (3, "deprecated")] [] [],
   standardOptionsOf .enumValue [(1, "deprecated")] [] [],
   standardOptionsOf .service [(33, "deprecated")] [] [],
   standardOptionsOf .method [(33, "deprecated")] []
     [(34, "idempotency_level",
       standardEnum "MethodOptions" "IdempotencyLevel"
         [("IDEMPOTENCY_UNKNOWN", 0), ("NO_SIDE_EFFECTS", 1), ("IDEMPOTENT", 2)])]]

/-- The standard types as a pool. -/
def standardOptions : Pool where
  files :=
    [{ name := "google/protobuf/descriptor.proto"
       package := optionPackage
       messages :=
         (openOptionMessage :: namePartMessage :: standardOptionMessages).map (MessageTree.mk · [])
       enums := []
       services := []
       extensions := []
       locations := [] }]

/-- The pool that has the type of options: that of the schema if it declares the type. -/
def Pool.forOptions (p : Pool) (owner : OptionOwner) : Pool :=
  if (p.message? owner.fullName).isSome then p else standardOptions

end ProtoRest.Descriptor
