/-! # Fields of messages
The types of message fields as the generated code sees them. A **kind** is a scalar, an enum or a
message; a **label** says how many values a field holds and whether its absence can be seen.
`FieldKind.codeType` is the type of one value in generated code and `FieldKind.docType` its name in
the documentation. -/

namespace ProtoRest.Schema

/-- The scalar types; the encodings of one number type do not matter here. -/
inductive ScalarKind
  /-- 64-bit floating point. -/
  | double
  /-- 32-bit floating point. -/
  | float
  /-- 32-bit signed. -/
  | int32
  /-- 64-bit signed. -/
  | int64
  /-- 32-bit unsigned. -/
  | uint32
  /-- 64-bit unsigned. -/
  | uint64
  /-- A truth value. -/
  | bool
  /-- Text. -/
  | string
  /-- Uninterpreted bytes. -/
  | bytes
  deriving DecidableEq, Repr

/-- A message or an enum that something refers to. -/
structure TypeRef where
  /-- The full name without a leading dot. -/
  fullName : String
  /-- The last part of the name. -/
  name : String
  /-- The path of the generated type from the package that refers to it. -/
  path : String
  deriving DecidableEq, Repr

/-- The type of one value of a field. -/
inductive FieldKind
  /-- A scalar. -/
  | scalar (kind : ScalarKind)
  /-- An enum, stored as its number. -/
  | enum (type : TypeRef)
  /-- A message. -/
  | message (type : TypeRef)
  deriving DecidableEq, Repr

/-- The type of a scalar in generated code. -/
def ScalarKind.codeType : ScalarKind → String
  | .double => "f64"
  | .float => "f32"
  | .int32 => "i32"
  | .int64 => "i64"
  | .uint32 => "u32"
  | .uint64 => "u64"
  | .bool => "bool"
  | .string => "::prost::alloc::string::String"
  | .bytes => "::prost::alloc::vec::Vec<u8>"

/-- The type of a scalar in the documentation. -/
def ScalarKind.docType : ScalarKind → String
  | .double | .float => "number"
  | .int32 | .int64 | .uint32 | .uint64 => "integer"
  | .bool => "boolean"
  | .string | .bytes => "string"

namespace FieldKind

/-- The type of one value in generated code. -/
def codeType : FieldKind → String
  | .scalar kind => kind.codeType
  | .enum _ => "i32"
  | .message type => type.path

/-- The type of one value in the documentation. -/
def docType : FieldKind → String
  | .scalar kind => kind.docType
  | .enum _ => "integer"
  | .message _ => "object"

/-- Whether a segment of a path can be read as a value. -/
def fitsPath : FieldKind → Bool
  | .scalar .bool | .scalar .bytes => false
  | .scalar _ | .enum _ => true
  | .message _ => false

/-- Whether a query value can be read as a value. -/
def fitsQuery : FieldKind → Bool
  | .scalar .bytes => false
  | .scalar _ | .enum _ => true
  | .message _ => false

/-- What can stand in a path can stand in a query. -/
theorem fitsQuery_of_fitsPath {kind : FieldKind} (h : kind.fitsPath = true) :
    kind.fitsQuery = true := by
  rcases kind with (_ | _ | _ | _ | _ | _ | _ | _ | _) | _ | _ <;> simp_all [fitsPath, fitsQuery]

end FieldKind

/-- How a field holds its values. -/
inductive FieldLabel
  /-- One value. -/
  | singular
  /-- One value or none. -/
  | optional
  /-- Any number of values. -/
  | repeated
  /-- A map with keys and values of these kinds. -/
  | map (key value : FieldKind)
  deriving DecidableEq, Repr

/-- Whether a field holds at most one value. -/
def FieldLabel.isSingle : FieldLabel → Bool
  | .singular | .optional => true
  | .repeated | .map _ _ => false

/-- A field of a message. -/
structure Field where
  /-- The name in the schema. -/
  name : String
  /-- The field number. -/
  number : Nat
  /-- The type of one value. -/
  kind : FieldKind
  /-- How many values it holds. -/
  label : FieldLabel
  /-- The choice it is a member of, unless that choice only marks an optional field. -/
  oneof : Option String
  deriving DecidableEq, Repr

end ProtoRest.Schema
