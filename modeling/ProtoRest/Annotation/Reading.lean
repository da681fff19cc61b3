import ProtoRest.Descriptor.Canonical
import ProtoRest.Descriptor.Default

/-! # Values of annotations
What an annotation holds, read from its raw values by the type of its extension. -/

namespace ProtoRest.Annotation

open ProtoRest.Descriptor ProtoRest.Wire

/-- The number that is written as twice its distance from zero, less one if it is negative. -/
def unfold (n : Nat) : Int := if n % 2 = 0 then (n / 2 : Nat) else -((n + 1) / 2 : Nat)

/-- A number as a value of a type. -/
def numberValue (type : ValueType) (n : Nat) : Value :=
  match type with
  | .scalar .double => .double n
  | .scalar .float => .float n
  | .scalar .int64 | .scalar .sfixed64 => .int64 (int64OfNat n)
  | .scalar .uint64 | .scalar .fixed64 => .uint64 n
  | .scalar .int32 | .scalar .sfixed32 => .int32 (int32OfNat n)
  | .scalar .fixed32 | .scalar .uint32 => .uint32 n
  | .scalar .bool => .bool (n != 0)
  | .scalar .sint32 => .int32 (unfold n)
  | .scalar .sint64 => .int64 (unfold n)
  | .enum _ => .enum (int32OfNat n)
  | .scalar .string | .scalar .bytes | .message _ _ => .uint64 n

/-- A raw value as a value of a type. -/
def singleValue (type : ValueType) (raw : Raw) : Value :=
  match raw with
  | .varint n | .fixed64 n | .fixed32 n => numberValue type n
  | .text s => .text s
  | .bytes bs => .bytes bs
  | .message fields | .group fields =>
    match type with
    | .message name _ => .message name fields
    | .scalar _ | .enum _ => .message "" fields
  | .packed _ => .list []

/-- The raw values that a field has, one by one. -/
def singles (raws : List Raw) : List Raw :=
  raws.flatMap fun
    | .packed values => values
    | value => [value]

/-- The value of a field with raw values that is not repeated. -/
def lastValue? (f : FieldType) (raws : List Raw) : Option Value :=
  (singles raws).getLast?.map (singleValue f.type)

/-- A part of an entry of a map: what is written, or else the default. -/
def entryValue (p : Pool) (entry : MessageType) (fields : Fields) (number : Nat) : Value :=
  match entry.field? number with
  | none => .list []
  | some f => (lastValue? f (Fields.values fields number)).getD (p.defaultOf f)

/-- The value of a field with raw values; nothing when there is none. -/
def fieldValue (p : Pool) (f : FieldType) (raws : List Raw) : Option Value :=
  if f.isRepeated then
    if (singles raws).isEmpty then none
    else
      match p.mapEntry? f with
      | some entry =>
        some (.map (raws.map fun raw =>
          (entryValue p entry raw.inside keyNumber, entryValue p entry raw.inside valueNumber)))
      | none => some (.list ((singles raws).map (singleValue f.type)))
  else lastValue? f raws

end ProtoRest.Annotation
