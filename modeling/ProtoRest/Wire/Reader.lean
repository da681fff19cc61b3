import ProtoRest.Wire.Raw

/-! # Reading messages
A **grammar** says for each type of message which fields it has and how their values are written.
`Grammar.read` reads the bytes of a message into its fields. Fields that the grammar does not have
are kept as they are written. A message ends where its length says, and what is read on the way may
not go on after that; a group ends at its mark. -/

namespace ProtoRest.Wire

/-! ## Grammars -/

/-- How the values of a field are written; `σ` names the types of messages. -/
inductive Shape (σ : Type)
  /-- As a number; several may share one length if `packable` is set. -/
  | number (wire : WireType) (packable : Bool)
  /-- As a text. -/
  | text
  /-- As bytes. -/
  | bytes
  /-- As a message. -/
  | message (type : σ)
  /-- As a group. -/
  | group (type : σ)
  deriving Repr

/-- A varint. -/
def Shape.varint {σ : Type} : Shape σ := .number .varint false

/-- A varint, of which several may share one length. -/
def Shape.varints {σ : Type} : Shape σ := .number .varint true

/-- A field of a message. -/
structure FieldSpec (σ : Type) where
  /-- The name of the message in faults. -/
  owner : String
  /-- The name of the field in faults. -/
  name : String
  /-- How its values are written. -/
  shape : Shape σ
  deriving Repr

/-- The fields of each type of message by their numbers. -/
abbrev Grammar (σ : Type) := σ → Nat → Option (FieldSpec σ)

/-! ## Parts of a field -/

/-- The start of a field. -/
structure Key where
  /-- The number of the field. -/
  number : Nat
  /-- How its value is written. -/
  wire : WireType
  deriving DecidableEq, Repr

/-- The largest key. -/
def maxKey : Nat := 0xffffffff

/-- Reads the start of a field. -/
def readKey (bs : Bytes) : Except Cause (Read Key) :=
  match readVarint bs with
  | none => .error .varint
  | some r =>
    if maxKey < r.value then .error (.key r.value)
    else
      match WireType.ofCode? (r.value % 8) with
      | none => .error (.wireCode (r.value % 8))
      | some wire =>
        if r.value / 8 = 0 then .error .zeroNumber
        else .ok ⟨⟨r.value / 8, wire⟩, r.used, r.rest⟩

/-- Reads a number of bytes. -/
def readExact (n : Nat) (bs : Bytes) : Except Cause (Read Bytes) :=
  if holds n bs then .ok ⟨bs.take n, n, bs.drop n⟩ else .error .underflow

/-- Reads a length that is followed by as many bytes. -/
def readLength (bs : Bytes) : Except Cause (Read Nat) :=
  match readVarint bs with
  | none => .error .varint
  | some r => if holds r.value r.rest then .ok r else .error .underflow

/-- Reads bytes after their number. -/
def readDelimited (bs : Bytes) : Except Cause (Read Bytes) :=
  match readLength bs with
  | .error cause => .error cause
  | .ok r => .ok ⟨r.rest.take r.value, r.used + r.value, r.rest.drop r.value⟩

/-- Reads a number. -/
def readNumber (wire : WireType) (bs : Bytes) : Except Cause (Read Raw) :=
  match wire with
  | .varint =>
    match readVarint bs with
    | none => .error .varint
    | some r => .ok ⟨.varint r.value, r.used, r.rest⟩
  | .fixed64 => (readExact 8 bs).map fun r => ⟨.fixed64 (fixedValue r.value), r.used, r.rest⟩
  | .fixed32 => (readExact 4 bs).map fun r => ⟨.fixed32 (fixedValue r.value), r.used, r.rest⟩
  | .delimited | .startGroup | .endGroup => .error .endGroup

/-- Reads numbers until a number of bytes is used; the fuel bounds how many there are. -/
def readNumbers (wire : WireType) : Nat → Nat → Bytes → Except Cause (Read (List Raw))
  | _, 0, bs => .ok ⟨[], 0, bs⟩
  | 0, _ + 1, _ => .error .overlong
  | fuel + 1, left + 1, bs =>
    match readNumber wire bs with
    | .error cause => .error cause
    | .ok r =>
      if left + 1 < r.used then .error .overlong
      else
        match readNumbers wire fuel (left + 1 - r.used) r.rest with
        | .error cause => .error cause
        | .ok more => .ok ⟨r.value :: more.value, r.used + more.used, more.rest⟩

/-- Reads numbers after the length of all of them. -/
def readPacked (wire : WireType) (bs : Bytes) : Except Cause (Read Raw) :=
  match readLength bs with
  | .error cause => .error cause
  | .ok r =>
    match readNumbers wire r.value r.value r.rest with
    | .error cause => .error cause
    | .ok numbers => .ok ⟨.packed numbers.value, r.used + numbers.used, numbers.rest⟩

/-! ## Fields -/

/-- Where the fields of a message end. -/
inductive Extent
  /-- After a number of bytes. -/
  | after (left : Nat)
  /-- At the mark of a group. -/
  | mark (number : Nat)
  deriving DecidableEq, Repr

/-- What is left of an extent after a number of bytes; nothing if it does not reach so far. -/
def Extent.shrink (used : Nat) : Extent → Option Extent
  | .after left => if left < used then none else some (.after (left - used))
  | .mark number => some (.mark number)

/-- How the fields of nested messages are read: how deep they may nest, their type if it is known,
where they end, and the bytes. -/
abbrev FieldsReader (σ : Type) :=
  Nat → Option σ → Extent → Bytes → Except ReadFault (Read Fields)

/-- Reads the fields of a nested message, one level further in. -/
def nested {σ : Type} (fields : FieldsReader σ) (depth : Nat) (type : Option σ) (extent : Extent)
    (bs : Bytes) : Except ReadFault (Read Fields) :=
  match depth with
  | 0 => .error (.bare .tooDeep)
  | depth + 1 => fields depth type extent bs

/-- Reads a message after its length. -/
def readMessage {σ : Type} (fields : FieldsReader σ) (depth : Nat) (type : σ) (bs : Bytes) :
    Except ReadFault (Read Raw) :=
  match depth with
  | 0 => .error (.bare .tooDeep)
  | depth + 1 =>
    match readLength bs with
    | .error cause => .error (.bare cause)
    | .ok r =>
      (fields depth (some type) (.after r.value) r.rest).map fun m =>
        ⟨.message m.value, r.used + m.used, m.rest⟩

/-- Reads the value of a field that the grammar has. -/
def readKnown {σ : Type} (fields : FieldsReader σ) (depth : Nat) (shape : Shape σ) (key : Key)
    (bs : Bytes) : Except ReadFault (Read Raw) :=
  let expect (wire : WireType) (read : Except ReadFault (Read Raw)) :=
    if key.wire = wire then read else .error (.bare (.wireType key.wire wire))
  match shape with
  | .number wire packable =>
    if packable && key.wire == .delimited then (readPacked wire bs).mapError .bare
    else expect wire ((readNumber wire bs).mapError .bare)
  | .text =>
    expect .delimited
      (match readDelimited bs with
       | .error cause => .error (.bare cause)
       | .ok r =>
         match textOfBytes r.value with
         | none => .error (.bare .notText)
         | some s => .ok ⟨.text s, r.used, r.rest⟩)
  | .bytes =>
    expect .delimited
      ((readDelimited bs).mapError .bare |>.map fun r => ⟨.bytes r.value, r.used, r.rest⟩)
  | .message type => expect .delimited (readMessage fields depth type bs)
  | .group type =>
    expect .startGroup
      ((nested fields depth (some type) (.mark key.number) bs).map fun r =>
        ⟨.group r.value, r.used, r.rest⟩)

/-- Reads the value of a field that the grammar does not have. -/
def readUnknown {σ : Type} (fields : FieldsReader σ) (depth : Nat) (key : Key) (bs : Bytes) :
    Except ReadFault (Read Raw) :=
  if depth = 0 then .error (.bare .tooDeep)
  else
    match key.wire with
    | .varint | .fixed64 | .fixed32 => (readNumber key.wire bs).mapError .bare
    | .delimited =>
      (readDelimited bs).mapError .bare |>.map fun r => ⟨.bytes r.value, r.used, r.rest⟩
    | .startGroup =>
      (nested fields depth none (.mark key.number) bs).map fun r =>
        ⟨.group r.value, r.used, r.rest⟩
    | .endGroup => .error (.bare .endGroup)

/-- Reads the value of a field after its key. -/
def readValue {σ : Type} (g : Grammar σ) (fields : FieldsReader σ) (depth : Nat) (type : Option σ)
    (key : Key) (bs : Bytes) : Except ReadFault (Read Raw) :=
  match type.bind (g · key.number) with
  | none => readUnknown fields depth key bs
  | some spec =>
    (readKnown fields depth spec.shape key bs).mapError (.inside spec.owner spec.name)

/-- Reads fields up to their end; each takes at least one byte, so that as much fuel as there are
bytes, and one more, is enough. -/
def readFields {σ : Type} (g : Grammar σ) : Nat → FieldsReader σ
  | 0 => fun _ _ _ _ => .error (.bare .underflow)
  | fuel + 1 => fun depth type extent bs =>
    if extent = .after 0 then .ok ⟨[], 0, bs⟩
    else
      match readKey bs with
      | .error cause => .error (.bare cause)
      | .ok key =>
        match extent, key.value.wire with
        | .mark number, .endGroup =>
          if key.value.number = number then .ok ⟨[], key.used, key.rest⟩
          else .error (.bare .endGroup)
        | _, _ =>
          match readValue g (readFields g fuel) depth type key.value key.rest with
          | .error fault => .error fault
          | .ok r =>
            -- a value is read to its own end, and only then it shows that it went beyond this
            -- message
            match extent.shrink (key.used + r.used) with
            | none => .error (.bare .overlong)
            | some extent =>
              match readFields g fuel depth type extent r.rest with
              | .error fault => .error fault
              | .ok more =>
                .ok ⟨(key.value.number, r.value) :: more.value,
                  key.used + r.used + more.used, more.rest⟩

/-- How deep messages may be nested. -/
def maxDepth : Nat := 100

/-- Reads the bytes of a message, given how deep other messages may be nested in it. -/
def Grammar.readAt {σ : Type} (g : Grammar σ) (depth : Nat) (type : σ) (bs : Bytes) :
    Except ReadFault Fields :=
  (readFields g (bs.length + 1) depth (some type) (.after bs.length) bs).map (·.value)

/-- Reads the bytes of a message. -/
def Grammar.read {σ : Type} (g : Grammar σ) (type : σ) (bs : Bytes) : Except ReadFault Fields :=
  g.readAt maxDepth type bs

end ProtoRest.Wire
