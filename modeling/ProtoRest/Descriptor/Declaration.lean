import ProtoRest.Wire.Fields

/-! # Declarations
What the compiler says about the files of a schema: messages, enums, services and extensions as they
are declared. Types are still names here; see `Descriptor.Pool` for what the names stand for. -/

namespace ProtoRest.Descriptor

open ProtoRest.Wire

/-- How often a field may occur. -/
inductive Cardinality
  /-- At most once. -/
  | optional
  /-- Once. -/
  | required
  /-- Any number of times. -/
  | repeated
  deriving DecidableEq, Repr

/-- A range of numbers. -/
structure NumberRange where
  /-- The first number. -/
  first : Int
  /-- The end, see where the range is used. -/
  last : Int
  deriving DecidableEq, Repr

/-- A field or an extension. -/
structure FieldDecl where
  /-- The name. -/
  name : String
  /-- The number. -/
  number : Int
  /-- How often it may occur. -/
  cardinality : Cardinality
  /-- The code of the type. -/
  typeCode : Option Nat
  /-- The name of the type. -/
  typeName : Option String
  /-- The name of the message that is extended. -/
  extendee : Option String
  /-- The default. -/
  default : Option String
  /-- The position of the choice that the field is a member of. -/
  oneof : Option Int
  /-- The name in JSON. -/
  jsonName : Option String
  /-- Whether the choice only marks the field as optional. -/
  marked : Bool
  /-- What the options say about several values sharing one length. -/
  packed : Option Bool
  /-- The options. -/
  options : Fields
  deriving Repr

/-- A choice. -/
structure OneofDecl where
  /-- The name. -/
  name : String
  /-- The options. -/
  options : Fields
  deriving Repr

/-- A range of numbers for extensions. -/
structure ExtensionRangeDecl where
  /-- The range; its end does not belong to it. -/
  range : NumberRange
  /-- The options. -/
  options : Fields
  deriving Repr

/-- A value of an enum. -/
structure EnumValueDecl where
  /-- The name. -/
  name : String
  /-- The number. -/
  number : Int
  /-- The options. -/
  options : Fields
  deriving Repr

/-- An enum. -/
structure EnumDecl where
  /-- The name. -/
  name : String
  /-- The values in declaration order. -/
  values : List EnumValueDecl
  /-- The options. -/
  options : Fields
  /-- The numbers that may not be used; the ends belong to the ranges. -/
  reserved : List NumberRange
  deriving Repr

/-- A message without the messages in it. -/
structure MessageHead where
  /-- The name. -/
  name : String
  /-- The fields in declaration order. -/
  fields : List FieldDecl
  /-- The enums in the message. -/
  enums : List EnumDecl
  /-- The extensions declared in the message. -/
  extensions : List FieldDecl
  /-- The choices. -/
  oneofs : List OneofDecl
  /-- The numbers for extensions. -/
  extensible : List ExtensionRangeDecl
  /-- The numbers that may not be used; the ends do not belong to the ranges. -/
  reserved : List NumberRange
  /-- The options. -/
  options : Fields
  deriving Repr

/-- A message. -/
inductive MessageDecl
  /-- The message with the messages in it. -/
  | mk (head : MessageHead) (nested : List MessageDecl)
  deriving Repr

/-- The message without the messages in it. -/
def MessageDecl.head : MessageDecl → MessageHead
  | mk head _ => head

/-- The messages in a message. -/
def MessageDecl.nested : MessageDecl → List MessageDecl
  | mk _ nested => nested

/-- A method. -/
structure MethodDecl where
  /-- The name. -/
  name : String
  /-- The name of the message that it takes. -/
  input : String
  /-- The name of the message that it gives back. -/
  output : String
  /-- The options. -/
  options : Fields
  /-- Whether callers send a stream. -/
  clientStreaming : Bool
  /-- Whether callers get a stream. -/
  serverStreaming : Bool
  deriving Repr

/-- A service. -/
structure ServiceDecl where
  /-- The name. -/
  name : String
  /-- The methods in declaration order. -/
  methods : List MethodDecl
  /-- The options. -/
  options : Fields
  deriving Repr

/-- A place in a file with the comment before it. -/
structure Location where
  /-- The place: field numbers and positions from the file inwards. -/
  path : List Int
  /-- The comment. -/
  leading : Option String
  deriving DecidableEq, Repr

/-- A file. -/
structure FileDecl where
  /-- The path of the file. -/
  name : String
  /-- The package. -/
  package : String
  /-- The files that it imports. -/
  imports : List String
  /-- The positions of the imports that are passed on. -/
  publicImports : List Int
  /-- The positions of the imports that may be missing. -/
  weakImports : List Int
  /-- The messages in declaration order. -/
  messages : List MessageDecl
  /-- The enums in declaration order. -/
  enums : List EnumDecl
  /-- The services in declaration order. -/
  services : List ServiceDecl
  /-- The extensions in declaration order. -/
  extensions : List FieldDecl
  /-- The version of the language. -/
  edition : Option String
  /-- The places with their comments. -/
  locations : List Location
  /-- The options. -/
  options : Fields
  deriving Repr

end ProtoRest.Descriptor
