import ProtoRest.Wire.Reader

/-! # Looking up fields
The value of a field that a message has once is the last one written; messages that are written
several times are one message with the fields of all of them. -/

namespace ProtoRest.Wire

/-- The number in 32 bits with a sign that a varint stands for. -/
def int32OfNat (n : Nat) : Int := Int.bmod n 0x100000000

/-- The number in 64 bits with a sign that a varint stands for. -/
def int64OfNat (n : Nat) : Int := Int.bmod n 0x10000000000000000

/-- The varint that stands for a number with a sign. -/
def natOfInt (i : Int) : Nat := (i % 0x10000000000000000).toNat

namespace Raw

/-- The text of a value. -/
def text? : Raw → Option String
  | .text s => some s
  | _ => none

/-- The bytes of a value. -/
def bytes? : Raw → Option Bytes
  | .bytes bs => some bs
  | _ => none

/-- The numbers of a value. -/
def nats : Raw → List Nat
  | .varint n => [n]
  | .packed values =>
    values.filterMap fun
      | .varint n => some n
      | _ => none
  | _ => []

/-- The fields of a message. -/
def fields? : Raw → Option Fields
  | .message fields | .group fields => some fields
  | _ => none

/-- The fields of a message; what is no message has none. -/
def inside (raw : Raw) : List (Nat × Raw) := raw.fields?.getD []

end Raw

namespace Fields

/-- The values of a field. -/
def values (fs : Fields) (number : Nat) : List Raw :=
  fs.filterMap fun f => if f.1 = number then some f.2 else none

@[simp] theorem values_nil (number : Nat) : values [] number = [] := rfl

/-- The texts of a field. -/
def texts (fs : Fields) (number : Nat) : List String := (values fs number).filterMap Raw.text?

/-- The text of a field. -/
def text? (fs : Fields) (number : Nat) : Option String := (texts fs number).getLast?

/-- The bytes of a field, each time. -/
def blobs (fs : Fields) (number : Nat) : List Bytes := (values fs number).filterMap Raw.bytes?

/-- The numbers of a field. -/
def nats (fs : Fields) (number : Nat) : List Nat := (values fs number).flatMap Raw.nats

/-- The number of a field in 32 bits with a sign. -/
def int32? (fs : Fields) (number : Nat) : Option Int :=
  (nats fs number).getLast?.map int32OfNat

/-- The numbers of a field in 32 bits with a sign. -/
def int32s (fs : Fields) (number : Nat) : List Int := (nats fs number).map int32OfNat

/-- The truth value of a field. -/
def bool? (fs : Fields) (number : Nat) : Option Bool := (nats fs number).getLast?.map (· != 0)

/-- The messages of a field. -/
def messages (fs : Fields) (number : Nat) : List Fields := (values fs number).filterMap Raw.fields?

/-- The message of a field. -/
def message? (fs : Fields) (number : Nat) : Option Fields :=
  match messages fs number with
  | [] => none
  | ms => some ms.flatten

end Fields

end ProtoRest.Wire
