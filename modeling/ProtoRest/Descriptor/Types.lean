import ProtoRest.Descriptor.Declaration
import ProtoRest.Descriptor.Value

/-! # Types
Declarations with every name resolved. Fields are in the order of their numbers, and so are the
values of enums. -/

namespace ProtoRest.Descriptor

open ProtoRest.Wire

/-- The scalar types. -/
inductive ScalarType
  /-- 64-bit floating point. -/
  | double
  /-- 32-bit floating point. -/
  | float
  /-- 64-bit signed. -/
  | int64
  /-- 64-bit unsigned. -/
  | uint64
  /-- 32-bit signed. -/
  | int32
  /-- 64-bit unsigned in eight bytes. -/
  | fixed64
  /-- 32-bit unsigned in four bytes. -/
  | fixed32
  /-- A truth value. -/
  | bool
  /-- Text. -/
  | string
  /-- Uninterpreted bytes. -/
  | bytes
  /-- 32-bit unsigned. -/
  | uint32
  /-- 32-bit signed in four bytes. -/
  | sfixed32
  /-- 64-bit signed in eight bytes. -/
  | sfixed64
  /-- 32-bit signed, small when it is near zero. -/
  | sint32
  /-- 64-bit signed, small when it is near zero. -/
  | sint64
  deriving DecidableEq, Repr

namespace ScalarType

/-- The scalar types with their codes. -/
def codes : List (Nat × ScalarType) :=
  [(1, double), (2, float), (3, int64), (4, uint64), (5, int32), (6, fixed64), (7, fixed32),
   (8, bool), (9, string), (12, bytes), (13, uint32), (15, sfixed32), (16, sfixed64), (17, sint32),
   (18, sint64)]

/-- The name in the schema language. -/
def name : ScalarType → String
  | double => "double"
  | float => "float"
  | int64 => "int64"
  | uint64 => "uint64"
  | int32 => "int32"
  | fixed64 => "fixed64"
  | fixed32 => "fixed32"
  | bool => "bool"
  | string => "string"
  | bytes => "bytes"
  | uint32 => "uint32"
  | sfixed32 => "sfixed32"
  | sfixed64 => "sfixed64"
  | sint32 => "sint32"
  | sint64 => "sint64"

/-- How a number is written; texts and bytes are not numbers. -/
def wire? : ScalarType → Option WireType
  | double | fixed64 | sfixed64 => some .fixed64
  | float | fixed32 | sfixed32 => some .fixed32
  | int64 | uint64 | int32 | bool | uint32 | sint32 | sint64 => some .varint
  | string | bytes => none

end ScalarType

/-- The type of one value of a field. -/
inductive ValueType
  /-- A scalar. -/
  | scalar (type : ScalarType)
  /-- An enum by its full name. -/
  | enum (name : String)
  /-- A message by its full name, perhaps written as a group. -/
  | message (name : String) (grouped : Bool)
  deriving DecidableEq, Repr

/-- How a number is written. -/
def ValueType.wire? : ValueType → Option WireType
  | .scalar type => type.wire?
  | .enum _ => some .varint
  | .message _ _ => none

/-- A field. -/
structure FieldType where
  /-- The name. -/
  name : String
  /-- The full name. -/
  fullName : String
  /-- The name in JSON. -/
  jsonName : String
  /-- The number. -/
  number : Nat
  /-- How often it may occur. -/
  cardinality : Cardinality
  /-- The type of one value. -/
  type : ValueType
  /-- Whether its absence can be seen. -/
  presence : Bool
  /-- The choice that it is a member of. -/
  oneof : Option String
  /-- Whether the choice only marks the field as optional. -/
  marked : Bool
  /-- Whether several values share one length. -/
  packed : Bool
  /-- The default. -/
  default : Option Value
  deriving Repr

/-- Whether a field may occur any number of times. -/
def FieldType.isRepeated (f : FieldType) : Bool := f.cardinality == .repeated

/-- A value of an enum. -/
structure EnumValueType where
  /-- The name. -/
  name : String
  /-- The full name. -/
  fullName : String
  /-- The number. -/
  number : Int
  /-- The options. -/
  options : Fields
  deriving Repr

/-- An enum. -/
structure EnumType where
  /-- The name. -/
  name : String
  /-- The full name. -/
  fullName : String
  /-- The package. -/
  package : String
  /-- The values in the order of their numbers. -/
  values : List EnumValueType
  /-- The number of the value declared first. -/
  initial : Int
  /-- The options. -/
  options : Fields
  deriving Repr

/-- A message without the messages in it. -/
structure MessageType where
  /-- The name. -/
  name : String
  /-- The full name. -/
  fullName : String
  /-- The package. -/
  package : String
  /-- The fields in the order of their numbers. -/
  fields : List FieldType
  /-- The names of the choices, each with the numbers of its members in declaration order. -/
  oneofs : List (String × List Nat)
  /-- The enums in the message, in declaration order. -/
  enums : List EnumType
  /-- Whether the message is an entry of a map. -/
  mapEntry : Bool
  deriving Repr

/-- The field with a number. -/
def MessageType.field? (m : MessageType) (number : Nat) : Option FieldType :=
  m.fields.find? (·.number == number)

/-- A message with the messages in it. -/
inductive MessageTree
  /-- The message and the messages in it, in declaration order. -/
  | mk (type : MessageType) (nested : List MessageTree)
  deriving Repr

mutual

/-- A message and the messages in it, each before those in it. -/
def MessageTree.flatten : MessageTree → List MessageType
  | .mk type nested => type :: flattenTrees nested

/-- The messages of trees. -/
def flattenTrees : List MessageTree → List MessageType
  | [] => []
  | t :: ts => t.flatten ++ flattenTrees ts

end

/-- An extension. -/
structure ExtensionType where
  /-- The full name. -/
  fullName : String
  /-- The full name of the message that it extends. -/
  extendee : String
  /-- The field. -/
  field : FieldType
  deriving Repr

/-- A method. -/
structure MethodType where
  /-- The name. -/
  name : String
  /-- The full name. -/
  fullName : String
  /-- The full name of the message that it takes. -/
  input : String
  /-- The full name of the message that it gives back. -/
  output : String
  /-- The options. -/
  options : Fields
  /-- Whether callers send a stream. -/
  clientStreaming : Bool
  /-- Whether callers get a stream. -/
  serverStreaming : Bool
  deriving Repr

/-- A service. -/
structure ServiceType where
  /-- The name. -/
  name : String
  /-- The full name. -/
  fullName : String
  /-- The methods in declaration order. -/
  methods : List MethodType
  /-- The options. -/
  options : Fields
  deriving Repr

/-- A file. -/
structure FileType where
  /-- The path of the file. -/
  name : String
  /-- The package. -/
  package : String
  /-- The messages at the top, in declaration order. -/
  messages : List MessageTree
  /-- The enums at the top, in declaration order. -/
  enums : List EnumType
  /-- The services in declaration order. -/
  services : List ServiceType
  /-- The extensions declared in the file, in messages or at the top. -/
  extensions : List ExtensionType
  /-- The places with their comments. -/
  locations : List Location
  deriving Repr

/-- All files of a schema. -/
structure Pool where
  /-- The files in the order of the request. -/
  files : List FileType
  deriving Repr

namespace Pool

/-- The file with a path. -/
def file? (p : Pool) (name : String) : Option FileType := p.files.find? (·.name == name)

/-- All messages. -/
def messages (p : Pool) : List MessageType := p.files.flatMap fun f => flattenTrees f.messages

/-- The message with a full name. -/
def message? (p : Pool) (name : String) : Option MessageType :=
  p.messages.find? (·.fullName == name)

/-- All enums. -/
def enums (p : Pool) : List EnumType :=
  p.files.flatMap fun f => f.enums ++ (flattenTrees f.messages).flatMap (·.enums)

/-- The enum with a full name. -/
def enum? (p : Pool) (name : String) : Option EnumType := p.enums.find? (·.fullName == name)

/-- All extensions. -/
def extensions (p : Pool) : List ExtensionType := p.files.flatMap (·.extensions)

/-- The extension with a full name. -/
def extension? (p : Pool) (name : String) : Option ExtensionType :=
  p.extensions.find? (·.fullName == name)

/-- The field that a message has under a number, its own or an extension. -/
def fieldOf? (p : Pool) (message : MessageType) (number : Nat) : Option FieldType :=
  match message.field? number with
  | some f => some f
  | none =>
    (p.extensions.find? fun x =>
      x.extendee == message.fullName && x.field.number == number).map (·.field)

/-- The message whose entries a field maps, if the field is a map. -/
def mapEntry? (p : Pool) (f : FieldType) : Option MessageType :=
  match f.type with
  | .message name _ =>
    if f.isRepeated then (p.message? name).filter (·.mapEntry) else none
  | .scalar _ | .enum _ => none

end Pool

end ProtoRest.Descriptor
