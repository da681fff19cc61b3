import ProtoRest.Descriptor.Types
import ProtoRest.Wire.Fields

/-! # Canonical form of messages
A message is read by its type in a pool and brought into the form in which each field is written
once: the fields of its type in the order of their numbers, and then all others in the same order.
Later values replace earlier ones, messages are merged, a choice keeps the member written last, an
entry of a map replaces those with the same key, and numbers are cut to their width. Fields that the
type does not have stay as they are. -/

namespace ProtoRest.Descriptor

open ProtoRest.Wire

/-- How the values of a field are written. -/
def shapeOfField (f : FieldType) : Shape String :=
  match f.type with
  | .message name grouped => if grouped then .group name else .message name
  | .scalar .string => .text
  | type =>
    match type.wire? with
    | some wire => .number wire f.isRepeated
    | none => .bytes

/-- The messages of a pool as a grammar; a message goes by its full name. -/
def poolGrammar (p : Pool) : Grammar String := fun message number =>
  ((p.message? message).bind (p.fieldOf? · number)).map fun f =>
    ⟨message, f.name, shapeOfField f⟩

/-! ## Slots -/

/-- The values of each field so far, in the order of the numbers. -/
abbrev Slots := List (Nat × List Raw)

/-- Sets the values of a field. -/
def setSlot (number : Nat) (values : List Raw) : Slots → Slots
  | [] => [(number, values)]
  | (n, old) :: slots =>
    if number < n then (number, values) :: (n, old) :: slots
    else if number = n then (n, values) :: slots
    else (n, old) :: setSlot number values slots

/-- The values of a field so far. -/
def slot (slots : Slots) (number : Nat) : List Raw := (slots.lookup number).getD []

/-- A field without the other members of its choice. -/
def clearRivals (type : MessageType) (f : FieldType) (slots : Slots) : Slots :=
  match f.oneof with
  | none => slots
  | some choice =>
    slots.filter fun s =>
      s.1 == f.number || (type.field? s.1).bind (·.oneof) != some choice

/-- A message with the fields of another after its own. -/
def mergeRaw : List Raw → Raw → Raw
  | [.message old], .message new => .message (old ++ new)
  | [.group old], .group new => .group (old ++ new)
  | _, new => new

/-- Adds a value to the slots of a message. -/
def addValue (p : Pool) (type : MessageType) (slots : Slots) (field : Nat × Raw) : Slots :=
  match p.fieldOf? type field.1 with
  | none => setSlot field.1 (slot slots field.1 ++ [field.2]) slots
  | some f =>
    let slots := clearRivals type f slots
    if f.isRepeated then
      let values :=
        match field.2 with
        | .packed values => values
        | value => [value]
      setSlot field.1 (slot slots field.1 ++ values) slots
    else setSlot field.1 [mergeRaw (slot slots field.1) field.2] slots

/-- The fields of a type before all others. -/
def ownFirst (type : MessageType) (slots : Slots) : Slots :=
  let isOwn (s : Nat × List Raw) : Bool := (type.field? s.1).isSome
  slots.filter isOwn ++ slots.filter fun s => !isOwn s

/-! ## Values -/

/-- A number in the width of its type. -/
def canonicalNumber (type : ValueType) (n : Nat) : Nat :=
  match type with
  | .scalar .int32 | .enum _ => natOfInt (int32OfNat n)
  | .scalar .uint32 | .scalar .sint32 => n % 0x100000000
  | .scalar .bool => if n = 0 then 0 else 1
  | _ => n

/-- Whether a value is the one that stands for nothing. -/
def isZero : Raw → Bool
  | .varint n => n == 0
  | .fixed64 n => n == 0
  | .fixed32 n => n == 0
  | .text s => s.isEmpty
  | .bytes bs => bs.isEmpty
  | .message _ | .group _ | .packed _ => false

/-- Whether a value stands for nothing in a type; a fraction may have a sign then. -/
def isDefault (type : ValueType) (value : Raw) : Bool :=
  match type, value with
  | .scalar .double, .fixed64 n => n % 0x8000000000000000 == 0
  | .scalar .float, .fixed32 n => n % 0x80000000 == 0
  | _, value => isZero value

/-- The raw value that stands for nothing in a type. -/
def Pool.zeroRaw (p : Pool) : ValueType → Raw
  | .message _ grouped => if grouped then .group [] else .message []
  | .enum name => .varint (natOfInt (((p.enum? name).map (·.initial)).getD 0))
  | .scalar .string => .text ""
  | .scalar .bytes => .bytes []
  | .scalar type =>
    match type.wire? with
    | some .fixed64 => .fixed64 0
    | some .fixed32 => .fixed32 0
    | _ => .varint 0

/-! ## Maps -/

/-- The number of the key of an entry. -/
def keyNumber : Nat := 1

/-- The number of the value of an entry. -/
def valueNumber : Nat := 2

/-- The types that keys can have. -/
def keyTypes : List ScalarType :=
  [.int32, .int64, .uint32, .uint64, .sint32, .sint64, .fixed32, .fixed64, .sfixed32, .sfixed64,
   .bool, .string]

/-- Whether a message has all that an entry needs. -/
def isWholeEntry (entry : MessageType) : Bool :=
  (entry.field? valueNumber).isSome &&
    (entry.field? keyNumber).any fun f => keyTypes.any fun type => f.type == .scalar type

/-- An entry in canonical form with its key and its value only; one whose absence could be seen is
there even if it is not written. -/
def entryParts (p : Pool) (entry : MessageType) (fields : Fields) : Fields :=
  [keyNumber, valueNumber].flatMap fun number =>
    match fields.filter (·.1 = number), entry.field? number with
    | [], some f => if f.presence then [(number, p.zeroRaw f.type)] else []
    | parts, _ => parts

/-- The bytes of the key of an entry. -/
def entryKey (fields : Fields) : Bytes := writeFields (fields.filter (·.1 = keyNumber))

/-- Entries without those that a later entry with the same key replaces. -/
def lastEntries : List Fields → List Fields
  | [] => []
  | e :: es =>
    if es.any fun other => entryKey other == entryKey e then lastEntries es else e :: lastEntries es

/-! ## Messages -/

/-- The values of a field in canonical form, given that of the messages in it. -/
def canonicalValues (p : Pool) (f : FieldType) (inner : Fields → Fields) (raws : List Raw) :
    List Raw :=
  match p.mapEntry? f with
  | some entry =>
    (lastEntries (raws.map fun value => entryParts p entry (inner value.inside))).map .message
  | none =>
    let values : List Raw := raws.map fun
      | .varint n => Raw.varint (canonicalNumber f.type n)
      | .message fields => .message (inner fields)
      | .group fields => .group (inner fields)
      | value => value
    if f.packed then if values.isEmpty then [] else [.packed values]
    else if f.isRepeated then values
    else values.filter fun value => f.presence || !isDefault f.type value

/-- The canonical form of a message, given that of the messages in it. -/
def canonicalLevel (p : Pool) (inner : String → Fields → Fields) (message : String) (fs : Fields) :
    Fields :=
  match p.message? message with
  | none => fs
  | some type =>
    (ownFirst type (fs.foldl (addValue p type) [])).flatMap fun s =>
      let values :=
        match p.fieldOf? type s.1 with
        | none => s.2
        | some f =>
          match f.type with
          | .message name _ => canonicalValues p f (inner name) s.2
          | .scalar _ | .enum _ => canonicalValues p f id s.2
      values.map fun value => (s.1, value)

/-- The canonical form of a message, as deep as messages may be nested. -/
def canonicalAt (p : Pool) : Nat → String → Fields → Fields
  | 0, message, fs => canonicalLevel p (fun _ fields => fields) message fs
  | depth + 1, message, fs =>
    canonicalLevel p (fun name fields => canonicalAt p depth name fields) message fs

/-- The canonical form of a message. -/
def canonical (p : Pool) (message : String) (fs : Fields) : Fields :=
  canonicalAt p maxDepth message fs

/-- Whether every map in a message has entries with a key and a value, given whether those in the
messages in it have. -/
def hasWholeMapsLevel (p : Pool) (inner : String → Fields → Bool) (message : String) (fs : Fields) :
    Bool :=
  match p.message? message with
  | none => true
  | some type =>
    fs.all fun field =>
      match p.fieldOf? type field.1 with
      | none => true
      | some f =>
        (p.mapEntry? f).all isWholeEntry &&
          match f.type with
          | .message name _ => inner name field.2.inside
          | .scalar _ | .enum _ => true

/-- Whether every map in a message has entries with a key and a value, as deep as messages may be
nested. -/
def hasWholeMapsAt (p : Pool) : Nat → String → Fields → Bool
  | 0, message, fs => hasWholeMapsLevel p (fun _ _ => true) message fs
  | depth + 1, message, fs =>
    hasWholeMapsLevel p (fun name fields => hasWholeMapsAt p depth name fields) message fs

/-- Whether every map in a message has entries with a key and a value. -/
def hasWholeMaps (p : Pool) (message : String) (fs : Fields) : Bool :=
  hasWholeMapsAt p maxDepth message fs

/-- Reads a message by its type in a pool. -/
def readMessage (p : Pool) (message : String) (bs : Bytes) : Except ReadFault Fields :=
  ((poolGrammar p).read message bs).map (canonical p message)

end ProtoRest.Descriptor
