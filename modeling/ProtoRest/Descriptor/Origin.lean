import ProtoRest.Descriptor.Build

/-! # Where types come from
A message is declared by the first file that declares its name, and the edition of that file decides
whether the absence of a field of the message can be seen. -/

namespace ProtoRest.Descriptor

/-- Whether a file declares a message with a full name. -/
def FileDecl.declares (f : FileDecl) (message : String) : Bool :=
  (headsInAll f.package f.messages).any (·.1 == message)

/-- The edition of the file that declares a message. -/
def editionOf? (files : List FileDecl) (message : String) : Option Edition :=
  (files.find? (·.declares message)).bind (·.edition?)

/-- Whether the values of a type are messages. -/
def ValueType.isMessage : ValueType → Bool
  | .message _ _ => true
  | .scalar _ | .enum _ => false

/-- Whether the absence of a field can be seen in an edition: a mark, a choice and a message show it
always, and in the second edition everything does that occurs at most once. -/
def FieldType.hasPresence (f : FieldType) (edition : Edition) : Bool :=
  f.marked || f.oneof.isSome || (!f.isRepeated && (f.type.isMessage || edition == .second))

end ProtoRest.Descriptor
