import ProtoRest.Wire.Raw

/-! # Values
The values of fields, read by the types of the fields. -/

namespace ProtoRest.Descriptor

open ProtoRest.Wire

/-- The value of a field. -/
inductive Value
  /-- A truth value. -/
  | bool (b : Bool)
  /-- A number of 32 bits with a sign. -/
  | int32 (n : Int)
  /-- A number of 64 bits with a sign. -/
  | int64 (n : Int)
  /-- A number of 32 bits. -/
  | uint32 (n : Nat)
  /-- A number of 64 bits. -/
  | uint64 (n : Nat)
  /-- A fraction of 32 bits, as its bits. -/
  | float (bits : Nat)
  /-- A fraction of 64 bits, as its bits. -/
  | double (bits : Nat)
  /-- A text. -/
  | text (s : String)
  /-- Bytes. -/
  | bytes (bs : Bytes)
  /-- The number of a value of an enum. -/
  | enum (n : Int)
  /-- A message with its full name. -/
  | message (name : String) (fields : Fields)
  /-- Any number of values. -/
  | list (values : List Value)
  /-- Keys with values. -/
  | map (entries : List (Value × Value))
  deriving Repr, Inhabited

end ProtoRest.Descriptor
