/-! # Reading faults
What can be wrong with the bytes of a message, and in which field, the innermost first. -/

namespace ProtoRest.Wire

/-- How a value is written. -/
inductive WireType
  /-- As a varint. -/
  | varint
  /-- In eight bytes. -/
  | fixed64
  /-- In bytes after their number. -/
  | delimited
  /-- As the start of a group. -/
  | startGroup
  /-- As the end of a group. -/
  | endGroup
  /-- In four bytes. -/
  | fixed32
  deriving DecidableEq, Repr

namespace WireType

/-- The number in a key. -/
def code : WireType → Nat
  | .varint => 0
  | .fixed64 => 1
  | .delimited => 2
  | .startGroup => 3
  | .endGroup => 4
  | .fixed32 => 5

/-- The wire type with a number. -/
def ofCode? (n : Nat) : Option WireType :=
  [varint, fixed64, delimited, startGroup, endGroup, fixed32].find? (·.code == n)

/-- The name shown in messages. -/
def name : WireType → String
  | .varint => "Varint"
  | .fixed64 => "SixtyFourBit"
  | .delimited => "LengthDelimited"
  | .startGroup => "StartGroup"
  | .endGroup => "EndGroup"
  | .fixed32 => "ThirtyTwoBit"

end WireType

/-- What is wrong. -/
inductive Cause
  /-- A number does not end or is too large. -/
  | varint
  /-- A key is too large. -/
  | key (n : Nat)
  /-- A key has no wire type. -/
  | wireCode (n : Nat)
  /-- A key has the field number zero. -/
  | zeroNumber
  /-- A value goes on after the end of the bytes. -/
  | underflow
  /-- A value goes on after the end of its message. -/
  | overlong
  /-- A group ends that was not open. -/
  | endGroup
  /-- Messages are nested too deeply. -/
  | tooDeep
  /-- A value is written in another way than its field says. -/
  | wireType (found expected : WireType)
  /-- A text is not encoded as one. -/
  | notText
  deriving DecidableEq, Repr

/-- The text about a cause. -/
def Cause.message : Cause → String
  | .varint => "invalid varint"
  | .key n => "invalid key value: " ++ toString n
  | .wireCode n => "invalid wire type value: " ++ toString n
  | .zeroNumber => "invalid tag value: 0"
  | .underflow => "buffer underflow"
  | .overlong => "delimited length exceeded"
  | .endGroup => "unexpected end group tag"
  | .tooDeep => "recursion limit reached"
  | .wireType found expected =>
    "invalid wire type: " ++ found.name ++ " (expected " ++ expected.name ++ ")"
  | .notText => "invalid string value: data is not UTF-8 encoded"

/-- A cause with the fields around it. -/
structure ReadFault where
  /-- The fields as messages and names, the innermost first. -/
  fields : List (String × String)
  /-- The cause. -/
  cause : Cause
  deriving DecidableEq, Repr

/-- A cause outside every field. -/
def ReadFault.bare (cause : Cause) : ReadFault := ⟨[], cause⟩

/-- A fault with one more field around it. -/
def ReadFault.inside (message field : String) (fault : ReadFault) : ReadFault :=
  { fault with fields := fault.fields ++ [(message, field)] }

/-- The text about a fault. -/
def ReadFault.message (fault : ReadFault) : String :=
  "failed to decode Protobuf message: " ++
    String.join (fault.fields.map fun f => f.1 ++ "." ++ f.2 ++ ": ") ++ fault.cause.message

end ProtoRest.Wire
