import ProtoRest.Annotation.Reading
import ProtoRest.Text.Decimal
import ProtoRest.Text.Quoted

/-! # Shown values
How a value is shown when it is not of the type that is needed. A message is shown with its type and
with the values of its fields in the order of their numbers. -/

namespace ProtoRest.Annotation

open ProtoRest.Descriptor ProtoRest.Text ProtoRest.Wire

/-! ## Pieces -/

/-- A byte between double quotes. -/
def escapeByte (b : UInt8) : List Char :=
  let c := Char.ofNat b.toNat
  if b = 0 then ['\\', '0']
  else if b = 9 then ['\\', 't']
  else if b = 10 then ['\\', 'n']
  else if b = 13 then ['\\', 'r']
  else if c = '"' ∨ c = '\\' then ['\\', c]
  else if 0x20 ≤ b ∧ b < 0x7f then [c]
  else
    let digits := hexDigits b.toNat
    ['\\', 'x'] ++ List.replicate (2 - digits.length) '0' ++ digits

/-- Bytes between double quotes. -/
def quoteBytes (bs : Bytes) : String :=
  "b" ++ String.ofList ('"' :: bs.flatMap escapeByte ++ ['"'])

/-- Texts with commas between them. -/
def commaSeparated (texts : List String) : String := ", ".intercalate texts

/-- A name before its parts in parentheses. -/
def applied (name text : String) : String := name ++ "(" ++ text ++ ")"

/-- Texts in brackets. -/
def bracketed (texts : List String) : String := "[" ++ commaSeparated texts ++ "]"

/-- Texts in braces. -/
def braced (texts : List String) : String := "\x7b" ++ commaSeparated texts ++ "\x7d"

/-- A name before named parts in braces. -/
def recordText (name : String) (parts : List (String × String)) : String :=
  name ++ " \x7b " ++ commaSeparated (parts.map fun p => p.1 ++ ": " ++ p.2) ++ " \x7d"

/-- A truth value. -/
def boolText (b : Bool) : String := if b then "true" else "false"

/-- A text that may be absent. -/
def optionText : Option String → String
  | none => "None"
  | some s => applied "Some" s

/-! ## Types -/

/-- A cardinality. -/
def cardinalityText : Cardinality → String
  | .optional => "Optional"
  | .required => "Required"
  | .repeated => "Repeated"

/-- A scalar that is the default of a field; a field has no other defaults. -/
def scalarText : Value → String
  | .bool b => applied "Bool" (boolText b)
  | .int32 n => applied "I32" (toString n)
  | .int64 n => applied "I64" (toString n)
  | .uint32 n => applied "U32" (toString n)
  | .uint64 n => applied "U64" (toString n)
  | .float bits => applied "F32" (numberText binary32 bits)
  | .double bits => applied "F64" (numberText binary64 bits)
  | .text s => applied "String" (quote s)
  | .bytes bs => applied "Bytes" (quoteBytes bs)
  | .enum n => applied "EnumNumber" (toString n)
  | .message _ _ | .list _ | .map _ => ""

/-- A field of a message. -/
def fieldText (p : Pool) (f : FieldType) : String :=
  let isMap := (p.mapEntry? f).isSome
  let isGroup :=
    match f.type with
    | .message _ grouped => grouped
    | .scalar _ | .enum _ => false
  recordText "FieldDescriptor"
    [("name", quote f.name), ("full_name", quote f.fullName), ("json_name", quote f.jsonName),
     ("number", toString f.number), ("kind", f.type.shown),
     ("cardinality", cardinalityText f.cardinality),
     ("containing_oneof", optionText (f.oneof.map quote)),
     ("default_value", optionText (f.default.map scalarText)), ("is_group", boolText isGroup),
     ("is_list", boolText (f.isRepeated && !isMap)), ("is_map", boolText isMap),
     ("is_packed", boolText f.packed), ("supports_presence", boolText f.presence)]

/-- A choice of a message. -/
def oneofText (p : Pool) (m : MessageType) (o : String × List Nat) : String :=
  recordText "OneofDescriptor"
    [("name", quote o.1), ("full_name", quote (m.fullName ++ "." ++ o.1)),
     ("fields", bracketed ((o.2.filterMap m.field?).map (fieldText p)))]

/-- The type of a message. -/
def messageTypeText (p : Pool) (m : MessageType) : String :=
  recordText "MessageDescriptor"
    [("name", quote m.name), ("full_name", quote m.fullName),
     ("is_map_entry", boolText m.mapEntry), ("fields", bracketed (m.fields.map (fieldText p))),
     ("oneofs", bracketed (m.oneofs.map (oneofText p m)))]

/-- The type of a message by its full name. -/
def typeText (p : Pool) (name : String) : String :=
  ((p.message? name).map (messageTypeText p)).getD ""

/-- The field that a message has under a number, its own or an extension. -/
def fieldOfName? (p : Pool) (message : String) (number : Nat) : Option FieldType :=
  (p.message? message).bind (p.fieldOf? · number)

/-! ## Values -/

/-- Adds values of a field in front of those that follow under its number; the fields are in the order
of their numbers. -/
def gather (number : Nat) (texts : List String) :
    List (Nat × List String) → List (Nat × List String)
  | [] => [(number, texts)]
  | (n, more) :: rest =>
    if n < number then (n, more) :: gather number texts rest
    else if n = number then (n, texts ++ more) :: rest
    else (number, texts) :: (n, more) :: rest

/-- The values of a field together. -/
def fieldValuesText (p : Pool) (f : Option FieldType) (texts : List String) : String :=
  match f with
  | none => applied "Unknown" (recordText "UnknownFieldSet" [("fields", bracketed texts)])
  | some f =>
    applied "Value"
      (if (p.mapEntry? f).isSome then applied "Map" (braced texts)
       else if f.isRepeated then applied "List" (bracketed texts)
       else texts.getLastD "")

/-- A message with the texts of its fields. -/
def messageText (p : Pool) (message : String) (fields : List (Nat × List String)) : String :=
  applied "Message"
    (recordText "DynamicMessage"
      [("desc", typeText p message),
       ("fields",
        recordText "DynamicMessageFieldSet"
          [("fields",
            braced (fields.map fun s =>
              toString s.1 ++ ": " ++
                fieldValuesText p (fieldOfName? p message s.1) s.2))])])

/-- A value of a type that is not a message. -/
def plainText (p : Pool) (v : Value) : String :=
  match v with
  | .message name _ => messageText p name []
  | v => scalarText v

/-- The part of an entry that a field set has under a number, or else its default. -/
def entryPartText (p : Pool) (entry : MessageType) (fields : List (Nat × List String))
    (number : Nat) : String :=
  match fields.lookup number, entry.field? number with
  | some texts, _ => texts.getLastD ""
  | none, some f => plainText p (p.defaultOf f)
  | none, none => ""

/-- Bytes as numbers. -/
def byteNumbers (width n : Nat) : String :=
  bracketed ((writeFixed width n).map fun b => toString b.toNat)

/-- A field that the type of its message does not have. -/
def unknownText (number : Nat) (value : String) : String :=
  recordText "UnknownField" [("number", toString number), ("value", value)]

mutual

/-- The texts of the values that a raw value of a field holds. -/
def rawTexts (p : Pool) (f : Option FieldType) (number : Nat) : Raw → List String
  | .message fields =>
    match f with
    | none => []
    | some f =>
      match f.type, p.mapEntry? f with
      | .message _ _, some entry =>
        let parts := fieldsTexts p entry.fullName fields
        [entryPartText p entry parts keyNumber ++ ": " ++ entryPartText p entry parts valueNumber]
      | .message name _, none => [messageText p name (fieldsTexts p name fields)]
      | _, _ => []
  | .group fields =>
    match f.map FieldType.type with
    | some (.message name _) => [messageText p name (fieldsTexts p name fields)]
    | _ =>
      [unknownText number
        (applied "Group"
          (recordText "UnknownFieldSet"
            [("fields", bracketed ((fieldsTexts p "" fields).flatMap (·.2)))]))]
  | .packed values => packedTexts p f number values
  | .varint n =>
    match f with
    | some f => [scalarText (numberValue f.type n)]
    | none => [unknownText number (applied "Varint" (toString n))]
  | .fixed64 n =>
    match f with
    | some f => [scalarText (numberValue f.type n)]
    | none => [unknownText number (applied "SixtyFourBit" (byteNumbers 8 n))]
  | .fixed32 n =>
    match f with
    | some f => [scalarText (numberValue f.type n)]
    | none => [unknownText number (applied "ThirtyTwoBit" (byteNumbers 4 n))]
  | .text s => [scalarText (.text s)]
  | .bytes bs =>
    match f with
    | some _ => [scalarText (.bytes bs)]
    | none => [unknownText number (applied "LengthDelimited" (quoteBytes bs))]

/-- The texts of the values of the fields of a message, by their numbers. -/
def fieldsTexts (p : Pool) (message : String) : List (Nat × Raw) → List (Nat × List String)
  | [] => []
  | (number, raw) :: fields =>
    gather number (rawTexts p (fieldOfName? p message number) number raw)
      (fieldsTexts p message fields)

/-- The texts of values that share one length. -/
def packedTexts (p : Pool) (f : Option FieldType) (number : Nat) : List Raw → List String
  | [] => []
  | raw :: raws => rawTexts p f number raw ++ packedTexts p f number raws

end

mutual

/-- A value as it is shown. -/
def shown (p : Pool) : Value → String
  | .message name fields => messageText p name (fieldsTexts p name fields)
  | .list values => applied "List" (bracketed (shownAll p values))
  | .map entries => applied "Map" (braced (shownEntries p entries))
  | .bool b => scalarText (.bool b)
  | .int32 n => scalarText (.int32 n)
  | .int64 n => scalarText (.int64 n)
  | .uint32 n => scalarText (.uint32 n)
  | .uint64 n => scalarText (.uint64 n)
  | .float bits => scalarText (.float bits)
  | .double bits => scalarText (.double bits)
  | .text s => scalarText (.text s)
  | .bytes bs => scalarText (.bytes bs)
  | .enum n => scalarText (.enum n)

/-- Values as they are shown. -/
def shownAll (p : Pool) : List Value → List String
  | [] => []
  | v :: vs => shown p v :: shownAll p vs

/-- Entries of a map as they are shown. -/
def shownEntries (p : Pool) : List (Value × Value) → List String
  | [] => []
  | (key, value) :: entries => (shown p key ++ ": " ++ shown p value) :: shownEntries p entries

end

end ProtoRest.Annotation
