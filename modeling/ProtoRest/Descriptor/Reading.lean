import ProtoRest.Descriptor.Declaration

/-! # Reading declarations
The wire form of declarations. Options are checked here only as far as the schema language knows
them; what else they hold is kept for the annotations. -/

namespace ProtoRest.Descriptor

open ProtoRest.Wire

/-- The types of messages in the declarations of a file. -/
inductive Part
  /-- A file. -/
  | file
  /-- A message. -/
  | message
  /-- A range of numbers. -/
  | range
  /-- A range of numbers with options. -/
  | extensionRange
  /-- A field. -/
  | field
  /-- A choice. -/
  | oneof
  /-- An enum. -/
  | enum
  /-- A value of an enum. -/
  | enumValue
  /-- A service. -/
  | service
  /-- A method. -/
  | method
  /-- The places of a file. -/
  | places
  /-- A place. -/
  | location
  /-- The options of a file. -/
  | fileOptions
  /-- The options of a message. -/
  | messageOptions
  /-- The options of a field. -/
  | fieldOptions
  /-- The options of a choice or a range. -/
  | plainOptions
  /-- The options of an enum. -/
  | enumOptions
  /-- The options of a value of an enum. -/
  | enumValueOptions
  /-- The options of a service. -/
  | serviceOptions
  /-- The options of a method. -/
  | methodOptions
  /-- An option that the compiler did not understand. -/
  | openOption
  /-- A part of the name of such an option. -/
  | openName
  deriving DecidableEq, Repr

/-- The number of options that the compiler did not understand. -/
def openOptions : Nat := 999

/-- The options of a file that are texts. -/
def fileTexts : List Nat := [1, 8, 11, 36, 37, 39, 40, 41, 44, 45]

/-- The options of a file that are numbers. -/
def fileNumbers : List Nat := [9, 10, 16, 17, 18, 20, 23, 27, 31, 42]

/-- How the fields of declarations are written. -/
def shapeOf : Part → Nat → Option (Shape Part)
  | .file, 1 | .file, 2 | .file, 3 | .file, 12 => some .text
  | .file, 10 | .file, 11 => some .varints
  | .file, 4 => some (.message .message)
  | .file, 5 => some (.message .enum)
  | .file, 6 => some (.message .service)
  | .file, 7 => some (.message .field)
  | .file, 8 => some (.message .fileOptions)
  | .file, 9 => some (.message .places)
  | .message, 1 | .message, 10 => some .text
  | .message, 2 | .message, 6 => some (.message .field)
  | .message, 3 => some (.message .message)
  | .message, 4 => some (.message .enum)
  | .message, 5 => some (.message .extensionRange)
  | .message, 7 => some (.message .messageOptions)
  | .message, 8 => some (.message .oneof)
  | .message, 9 => some (.message .range)
  | .range, 1 | .range, 2 | .extensionRange, 1 | .extensionRange, 2 => some .varint
  | .extensionRange, 3 => some (.message .plainOptions)
  | .field, 1 | .field, 2 | .field, 6 | .field, 7 | .field, 10 => some .text
  | .field, 3 | .field, 4 | .field, 5 | .field, 9 | .field, 17 => some .varint
  | .field, 8 => some (.message .fieldOptions)
  | .oneof, 1 => some .text
  | .oneof, 2 => some (.message .plainOptions)
  | .enum, 1 | .enum, 5 => some .text
  | .enum, 2 => some (.message .enumValue)
  | .enum, 3 => some (.message .enumOptions)
  | .enum, 4 => some (.message .range)
  | .enumValue, 1 => some .text
  | .enumValue, 2 => some .varint
  | .enumValue, 3 => some (.message .enumValueOptions)
  | .service, 1 => some .text
  | .service, 2 => some (.message .method)
  | .service, 3 => some (.message .serviceOptions)
  | .method, 1 | .method, 2 | .method, 3 => some .text
  | .method, 4 => some (.message .methodOptions)
  | .method, 5 | .method, 6 => some .varint
  | .places, 1 => some (.message .location)
  | .location, 1 | .location, 2 => some .varints
  | .location, 3 | .location, 4 | .location, 6 => some .text
  | .openOption, 2 => some (.message .openName)
  | .openOption, 3 | .openOption, 8 => some .text
  | .openOption, 4 | .openOption, 5 => some .varint
  | .openOption, 6 => some (.number .fixed64 false)
  | .openOption, 7 => some .bytes
  | .openName, 1 => some .text
  | .openName, 2 => some .varint
  | .fileOptions, n =>
    if n = openOptions then some (.message .openOption)
    else if n ∈ fileTexts then some .text
    else if n ∈ fileNumbers then some .varint
    else none
  | .messageOptions, n =>
    if n = openOptions then some (.message .openOption)
    else if n ∈ [1, 2, 3, 7] then some .varint
    else none
  | .fieldOptions, n =>
    if n = openOptions then some (.message .openOption)
    else if n ∈ [1, 2, 3, 5, 6, 10] then some .varint
    else none
  | .plainOptions, n => if n = openOptions then some (.message .openOption) else none
  | .enumOptions, n =>
    if n = openOptions then some (.message .openOption)
    else if n ∈ [2, 3] then some .varint
    else none
  | .enumValueOptions, n =>
    if n = openOptions then some (.message .openOption) else if n = 1 then some .varint else none
  | .serviceOptions, n =>
    if n = openOptions then some (.message .openOption) else if n = 33 then some .varint else none
  | .methodOptions, n =>
    if n = openOptions then some (.message .openOption)
    else if n ∈ [33, 34] then some .varint
    else none
  | _, _ => none

/-- The fields of declarations. -/
def grammar : Grammar Part := fun part number =>
  (shapeOf part number).map fun shape => ⟨"", "", shape⟩

/-! ## Declarations of fields -/

/-- The text of a field, empty when it is absent. -/
def textOf (fs : Fields) (number : Nat) : String := (Fields.text? fs number).getD ""

/-- The number of a field, zero when it is absent. -/
def intOf (fs : Fields) (number : Nat) : Int := (Fields.int32? fs number).getD 0

/-- The message of a field, empty when it is absent. -/
def messageOf (fs : Fields) (number : Nat) : Fields := (Fields.message? fs number).getD []

/-- The truth value of a field, false when it is absent. -/
def boolOf (fs : Fields) (number : Nat) : Bool := (Fields.bool? fs number).getD false

/-- The range with fields. -/
def NumberRange.ofFields (fs : Fields) : NumberRange := ⟨intOf fs 1, intOf fs 2⟩

/-- The cardinality with a code. -/
def Cardinality.ofCode : Option Int → Cardinality
  | some 2 => .required
  | some 3 => .repeated
  | _ => .optional

/-- The field with fields. -/
def FieldDecl.ofFields (fs : Fields) : FieldDecl where
  name := textOf fs 1
  number := intOf fs 3
  cardinality := .ofCode (Fields.int32? fs 4)
  typeCode := (Fields.int32? fs 5).map Int.toNat
  typeName := Fields.text? fs 6
  extendee := Fields.text? fs 2
  default := Fields.text? fs 7
  oneof := Fields.int32? fs 9
  jsonName := Fields.text? fs 10
  marked := boolOf fs 17
  packed := (Fields.message? fs 8).map (boolOf · 2)
  options := messageOf fs 8

/-- The choice with fields. -/
def OneofDecl.ofFields (fs : Fields) : OneofDecl where
  name := textOf fs 1
  options := messageOf fs 2

/-- The range for extensions with fields. -/
def ExtensionRangeDecl.ofFields (fs : Fields) : ExtensionRangeDecl where
  range := .ofFields fs
  options := messageOf fs 3

/-- The value of an enum with fields. -/
def EnumValueDecl.ofFields (fs : Fields) : EnumValueDecl where
  name := textOf fs 1
  number := intOf fs 2
  options := messageOf fs 3

/-- The enum with fields. -/
def EnumDecl.ofFields (fs : Fields) : EnumDecl where
  name := textOf fs 1
  values := (Fields.messages fs 2).map .ofFields
  options := messageOf fs 3
  reserved := (Fields.messages fs 4).map .ofFields

/-- Whether several values of an enum may have the same number. -/
def EnumDecl.allowsAlias (e : EnumDecl) : Bool := boolOf e.options 2

/-- The message with fields, without the messages in it. -/
def MessageHead.ofFields (fs : Fields) : MessageHead where
  name := textOf fs 1
  fields := (Fields.messages fs 2).map .ofFields
  enums := (Fields.messages fs 4).map .ofFields
  extensions := (Fields.messages fs 6).map .ofFields
  oneofs := (Fields.messages fs 8).map .ofFields
  extensible := (Fields.messages fs 5).map .ofFields
  reserved := (Fields.messages fs 9).map .ofFields
  options := messageOf fs 7

/-- Whether a message is an entry of a map. -/
def MessageHead.mapEntry (head : MessageHead) : Bool := boolOf head.options 7

/-- The message with fields, as deep as messages may be nested. -/
def MessageDecl.ofFields : Nat → Fields → MessageDecl
  | 0, fs => .mk (.ofFields fs) []
  | depth + 1, fs => .mk (.ofFields fs) ((Fields.messages fs 3).map (MessageDecl.ofFields depth))

/-- The method with fields. -/
def MethodDecl.ofFields (fs : Fields) : MethodDecl where
  name := textOf fs 1
  input := textOf fs 2
  output := textOf fs 3
  options := messageOf fs 4
  clientStreaming := boolOf fs 5
  serverStreaming := boolOf fs 6

/-- The service with fields. -/
def ServiceDecl.ofFields (fs : Fields) : ServiceDecl where
  name := textOf fs 1
  methods := (Fields.messages fs 2).map .ofFields
  options := messageOf fs 3

/-- The place with fields. -/
def Location.ofFields (fs : Fields) : Location where
  path := Fields.int32s fs 1
  leading := Fields.text? fs 3

/-- The file with fields. -/
def FileDecl.ofFields (fs : Fields) : FileDecl where
  name := textOf fs 1
  package := textOf fs 2
  imports := Fields.texts fs 3
  publicImports := Fields.int32s fs 10
  weakImports := Fields.int32s fs 11
  messages := (Fields.messages fs 4).map (.ofFields maxDepth)
  enums := (Fields.messages fs 5).map .ofFields
  services := (Fields.messages fs 6).map .ofFields
  extensions := (Fields.messages fs 7).map .ofFields
  edition := Fields.text? fs 12
  locations := (Fields.messages (messageOf fs 9) 1).map .ofFields
  options := messageOf fs 8

/-- Reads the declarations of a file; they are one level deep in the set of all files. -/
def FileDecl.read (bs : Bytes) : Except ReadFault FileDecl :=
  (grammar.readAt (maxDepth - 1) .file bs).map .ofFields

end ProtoRest.Descriptor
