import ProtoRest.Wire.Fault
import ProtoRest.Wire.Varint

/-! # Raw values
The fields of a message as they stand in its bytes: numbers with values in the order of writing.
`writeFields` writes them. -/

namespace ProtoRest.Wire

/-- A value as it is written. -/
inductive Raw
  /-- A varint. -/
  | varint (n : Nat)
  /-- Eight bytes as a number. -/
  | fixed64 (n : Nat)
  /-- Four bytes as a number. -/
  | fixed32 (n : Nat)
  /-- Bytes after their number. -/
  | bytes (bs : Bytes)
  /-- A text. -/
  | text (s : String)
  /-- A message after its length. -/
  | message (fields : List (Nat × Raw))
  /-- A message between the marks of a group. -/
  | group (fields : List (Nat × Raw))
  /-- Numbers after the length of all of them. -/
  | packed (values : List Raw)
  deriving Repr, Inhabited

/-- The fields of a message in the order of writing. -/
abbrev Fields := List (Nat × Raw)

/-- The wire type of a value. -/
def Raw.wireType : Raw → WireType
  | .varint _ => .varint
  | .fixed64 _ => .fixed64
  | .fixed32 _ => .fixed32
  | .bytes _ | .text _ | .message _ | .packed _ => .delimited
  | .group _ => .startGroup

/-- The bytes of a key. -/
def writeKey (number : Nat) (wire : WireType) : Bytes := writeVarint (number * 8 + wire.code)

/-- Bytes after their number. -/
def delimited (bs : Bytes) : Bytes := writeVarint bs.length ++ bs

mutual

/-- The bytes of a value after the key of its field. -/
def Raw.write (number : Nat) : Raw → Bytes
  | .varint n => writeVarint n
  | .fixed64 n => writeFixed 8 n
  | .fixed32 n => writeFixed 4 n
  | .bytes bs => delimited bs
  | .text s => delimited (bytesOfText s)
  | .message fields => delimited (writeFields fields)
  | .group fields => writeFields fields ++ writeKey number .endGroup
  | .packed values => delimited (writeValues values)

/-- The bytes of the fields of a message. -/
def writeFields : List (Nat × Raw) → Bytes
  | [] => []
  | (number, value) :: fields =>
    writeKey number value.wireType ++ value.write number ++ writeFields fields

/-- The bytes of values without keys. -/
def writeValues : List Raw → Bytes
  | [] => []
  | value :: values => value.write 0 ++ writeValues values

end

@[simp] theorem writeFields_nil : writeFields [] = [] := by rw [writeFields]

/-- The bytes of two runs of fields are those of the first and then those of the second. -/
theorem writeFields_append (fs gs : Fields) :
    writeFields (fs ++ gs) = writeFields fs ++ writeFields gs := by
  induction fs with
  | nil => simp
  | cons f fs ih => simp [writeFields, ih]

end ProtoRest.Wire
