import ProtoRest.Descriptor.OpenOption
import ProtoRest.Descriptor.OptionTypes

/-! # Forms of fields
What decides how the values of a field are written and read, apart from its names: the **form** of a
field. A message goes by its full name, and its fields, with those of its extensions, by their
numbers. -/

namespace ProtoRest.Descriptor

/-- What decides how the values of a field are written and read. -/
structure FieldForm where
  /-- The number. -/
  number : Nat
  /-- The type of one value. -/
  type : ValueType
  /-- Whether it may occur any number of times. -/
  isRepeated : Bool
  /-- Whether its absence can be seen. -/
  presence : Bool
  /-- The choice that it is a member of. -/
  oneof : Option String
  /-- Whether several values share one length. -/
  packed : Bool
  deriving DecidableEq, Repr

/-- The form of a field. -/
def FieldType.form (f : FieldType) : FieldForm where
  number := f.number
  type := f.type
  isRepeated := f.isRepeated
  presence := f.presence
  oneof := f.oneof
  packed := f.packed

namespace Pool

/-- The form of the field that a message has under a number, its own or that of an extension. -/
def formOf? (p : Pool) (message : String) (number : Nat) : Option FieldForm :=
  ((p.message? message).bind (p.fieldOf? · number)).map FieldType.form

/-- The number of an extension. -/
def extensionNumber? (p : Pool) (name : String) : Option Nat :=
  (p.extension? name).map (·.field.number)

/-- A message has fields of the given forms. -/
def HasForms (p : Pool) (message : String) (forms : List FieldForm) : Prop :=
  ∀ form ∈ forms, p.formOf? message form.number = some form

instance (p : Pool) (message : String) (forms : List FieldForm) :
    Decidable (p.HasForms message forms) :=
  inferInstanceAs (Decidable (∀ form ∈ forms, p.formOf? message form.number = some form))

/-- The options of an owner hold an extension under a number, as one message of a type. -/
def HoldsMessage (p : Pool) (owner : OptionOwner) (extension message : String) (number : Nat) :
    Prop :=
  p.extensionNumber? extension = some number ∧
    p.formOf? owner.fullName number = some
      { number, type := .message message false, isRepeated := false, presence := true,
        oneof := none, packed := false }

instance (p : Pool) (owner : OptionOwner) (extension message : String) (number : Nat) :
    Decidable (p.HoldsMessage owner extension message number) :=
  inferInstanceAs (Decidable (_ ∧ _))

/-- The form of a number is that of the message's field with that number. -/
theorem formOf?_eq_some_iff {p : Pool} {message : String} {number : Nat} {form : FieldForm} :
    p.formOf? message number = some form ↔
      ∃ type f, p.message? message = some type ∧ p.fieldOf? type number = some f ∧ f.form = form := by
  simp only [formOf?, Option.map_eq_some_iff, Option.bind_eq_some_iff]
  constructor
  · rintro ⟨f, ⟨type, htype, hf⟩, hform⟩
    exact ⟨type, f, htype, hf, hform⟩
  · rintro ⟨type, f, htype, hf, hform⟩
    exact ⟨f, ⟨type, htype, hf⟩, hform⟩

end Pool

end ProtoRest.Descriptor
