import ProtoRest.Descriptor.Types
import ProtoRest.Text.Escaped
import ProtoRest.Text.Numeral

/-! # Defaults
The value of a field that is absent: the default that is declared for it, or else the value of its
type that stands for nothing. -/

namespace ProtoRest.Descriptor

open ProtoRest.Text ProtoRest.Wire

/-- The bits of a fraction. -/
def Value.ofDouble (x : Float) : Value := .double x.toBits.toNat

/-- The bits of a short fraction. -/
def Value.ofSingle (x : Float32) : Value := .float x.toBits.toNat

/-- The truth value that a word stands for. -/
def boolOfWord? (word : String) : Option Bool :=
  if word = "true" then some true else if word = "false" then some false else none

/-- A number between bounds, its end not included. -/
def between? (low high n : Int) : Option Int := if low ≤ n ∧ n < high then some n else none

namespace ScalarType

/-- A number as a value of a type of whole numbers; nothing when the type does not have it. -/
def ofInt? (type : ScalarType) (n : Int) : Option Value :=
  match type with
  | .int32 | .sint32 | .sfixed32 => (between? (-0x80000000) 0x80000000 n).map .int32
  | .int64 | .sint64 | .sfixed64 => (between? (-0x8000000000000000) 0x8000000000000000 n).map .int64
  | .uint32 | .fixed32 => (between? 0 0x100000000 n).map fun n => .uint32 n.toNat
  | .uint64 | .fixed64 => (between? 0 0x10000000000000000 n).map fun n => .uint64 n.toNat
  | .double | .float | .bool | .string | .bytes => none

/-- The raw form of a whole number in a type; nothing when the type does not have it. -/
def rawOfInt? (type : ScalarType) (n : Int) : Option Raw :=
  (type.ofInt? n).map fun _ =>
    match type with
    | .sint32 | .sint64 => .varint (if 0 ≤ n then 2 * n.toNat else 2 * n.natAbs - 1)
    | .fixed32 | .sfixed32 => .fixed32 (n % 0x100000000).toNat
    | .fixed64 | .sfixed64 => .fixed64 (n % 0x10000000000000000).toNat
    | _ => .varint (natOfInt n)

/-- The value of a type that a text writes. -/
def ofText? (type : ScalarType) (text : String) : Option Value :=
  let cs := text.toList
  match type with
  | .bool => (boolOfWord? text).map .bool
  | .string => some (.text text)
  | .bytes => (unescape? text).map .bytes
  | .double => (fraction? cs).map fun n => .ofDouble n.double
  | .float => (fraction? cs).map fun n => .ofSingle n.single
  | .uint32 | .fixed32 | .uint64 | .fixed64 => (unsigned? cs).bind fun n => type.ofInt? n
  | .int32 | .sint32 | .sfixed32 | .int64 | .sint64 | .sfixed64 => (integer? cs).bind type.ofInt?

/-- The value of a type that stands for nothing. -/
def zero : ScalarType → Value
  | .double => .double 0
  | .float => .float 0
  | .int64 | .sfixed64 | .sint64 => .int64 0
  | .uint64 | .fixed64 => .uint64 0
  | .int32 | .sfixed32 | .sint32 => .int32 0
  | .uint32 | .fixed32 => .uint32 0
  | .bool => .bool false
  | .string => .text ""
  | .bytes => .bytes []

end ScalarType

/-- The default of a type that a text writes, given the values of enums by their full names and
their names; a message has none. -/
def ValueType.default? (enumValue? : String → String → Option Int) (type : ValueType)
    (text : String) : Option Value :=
  match type with
  | .scalar plain => plain.ofText? text
  | .enum name => (enumValue? name text).map .enum
  | .message _ _ => none

/-- The name of a type in messages. -/
def ValueType.shown : ValueType → String
  | .scalar type => type.name
  | .enum name | .message name _ => name

/-- The number of a value of an enum by its name. -/
def Pool.enumNumber? (p : Pool) (enum value : String) : Option Int := do
  let e ← p.enum? enum
  let v ← e.values.find? (·.name == value)
  return v.number

/-- The value of a field that is absent. -/
def Pool.defaultOf (p : Pool) (f : FieldType) : Value :=
  match f.default with
  | some value => value
  | none =>
    match f.type with
    | .scalar type => type.zero
    | .enum name => .enum (((p.enum? name).map (·.initial)).getD 0)
    | .message name _ => .message name []

end ProtoRest.Descriptor
