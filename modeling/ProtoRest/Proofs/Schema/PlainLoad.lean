import ProtoRest.Proofs.Descriptor.PlainPool
import ProtoRest.Proofs.Schema.LoadFaults
import ProtoRest.Proofs.Schema.LoadSteps

/-! # Loading from a plain pool
The services of a file are loaded alike from a pool and from its plain form (`service_plain`): neither
the annotations of services and methods nor the messages that methods exchange depend on the options of
enums. These only decide whether the file is loaded at all: it is when its services are and when the
annotations of its enums are accepted (`load_of_acceptsAll`, `load_of_not_acceptsAll`). -/

namespace ProtoRest.Annotation

open ProtoRest.Descriptor ProtoRest.Wire

/-! ## Values of annotations -/

section

variable (p : Pool)

/-- A part of an entry is the same value. -/
theorem entryValue_plain (entry : MessageType) :
    entryValue p.plain entry.plain = entryValue p entry := by
  funext fields number
  simp only [entryValue, MessageType.field?_plain, Pool.defaultOf_plain]

/-- The value of an option is the same. -/
theorem fieldValue_plain : fieldValue p.plain = fieldValue p := by
  funext f raws
  rw [fieldValue, fieldValue, Pool.mapEntry?_plain]
  cases p.mapEntry? f with
  | none => rfl
  | some entry => simp only [Option.map_some, entryValue_plain]

/-! ## Shown values -/

/-- A field is a map in a plain pool when it is one. -/
theorem isSome_mapEntry?_plain (f : FieldType) :
    (p.plain.mapEntry? f).isSome = (p.mapEntry? f).isSome := by
  rw [Pool.mapEntry?_plain, Option.isSome_map]

/-- A field is shown alike. -/
theorem fieldText_plain : fieldText p.plain = fieldText p := by
  funext f
  simp only [fieldText, isSome_mapEntry?_plain]

/-- A choice is shown alike. -/
theorem oneofText_plain (m : MessageType) : oneofText p.plain m.plain = oneofText p m := by
  funext o
  have hfields : m.plain.field? = m.field? := rfl
  simp only [oneofText, fieldText_plain, hfields, MessageType.plain_fullName]

/-- The type of a message is shown alike: nothing of its enums is. -/
theorem messageTypeText_plain (m : MessageType) :
    messageTypeText p.plain m.plain = messageTypeText p m := by
  simp only [messageTypeText, fieldText_plain, oneofText_plain, MessageType.plain_name,
    MessageType.plain_fullName, MessageType.plain_fields, MessageType.plain_oneofs,
    MessageType.plain_mapEntry]

/-- The type of a field is shown alike. -/
theorem typeText_plain : typeText p.plain = typeText p := by
  have htext : messageTypeText p.plain ∘ MessageType.plain = messageTypeText p :=
    funext (messageTypeText_plain p)
  funext name
  simp only [typeText, Pool.message?_plain, Option.map_map, htext]

/-- A field is found by its name alike. -/
theorem fieldOfName?_plain : fieldOfName? p.plain = fieldOfName? p := by
  funext message number
  rw [fieldOfName?, fieldOfName?, Pool.message?_plain]
  cases p.message? message with
  | none => rfl
  | some m => exact p.fieldOf?_plain m number

/-- The values of a field are shown alike. -/
theorem fieldValuesText_plain : fieldValuesText p.plain = fieldValuesText p := by
  funext f texts
  cases f with
  | none => rfl
  | some f => simp only [fieldValuesText, isSome_mapEntry?_plain]

/-- The type of a value that is a message is shown alike. -/
theorem messageText_plain : messageText p.plain = messageText p := by
  funext message fields
  simp only [messageText, typeText_plain, fieldValuesText_plain, fieldOfName?_plain]

/-- A value that is no message is shown alike. -/
theorem plainText_plain : plainText p.plain = plainText p := by
  funext v
  cases v <;> simp only [plainText, messageText_plain]

/-- A part of an entry is shown alike. -/
theorem entryPartText_plain (entry : MessageType) :
    entryPartText p.plain entry.plain = entryPartText p entry := by
  funext fields number
  simp only [entryPartText, MessageType.field?_plain, plainText_plain, Pool.defaultOf_plain]

mutual

/-- A raw value in a message is shown alike. -/
theorem rawTexts_plain : ∀ (f : Option FieldType) (number : Nat) (raw : Raw),
    rawTexts p.plain f number raw = rawTexts p f number raw
  | f, number, .message fields => by
    cases f with
    | none => rfl
    | some f =>
      simp only [rawTexts, Pool.mapEntry?_plain, messageText_plain, fieldsTexts_plain _ fields]
      -- a message in a map is shown as an entry, and both pools have the same entries
      cases f.type with
      | message name grouped =>
        cases p.mapEntry? f with
        | none => rfl
        | some entry => simp only [Option.map_some, entryPartText_plain, MessageType.plain_fullName]
      | scalar type => rfl
      | enum name => rfl
  | f, number, .group fields => by
    simp only [rawTexts, messageText_plain, fieldsTexts_plain _ fields]
  | f, number, .packed values => by
    rw [rawTexts, rawTexts, packedTexts_plain f number values]
  | f, number, .varint n => by simp only [rawTexts]
  | f, number, .fixed64 n => by simp only [rawTexts]
  | f, number, .fixed32 n => by simp only [rawTexts]
  | f, number, .text s => by rw [rawTexts, rawTexts]
  | f, number, .bytes bs => by simp only [rawTexts]

/-- The fields in a message are shown alike. -/
theorem fieldsTexts_plain : ∀ (message : String) (fields : List (Nat × Raw)),
    fieldsTexts p.plain message fields = fieldsTexts p message fields
  | message, [] => by rw [fieldsTexts, fieldsTexts]
  | message, (number, raw) :: fields => by
    rw [fieldsTexts, fieldsTexts, fieldOfName?_plain, rawTexts_plain _ number raw,
      fieldsTexts_plain message fields]

/-- Values that share a length are shown alike. -/
theorem packedTexts_plain : ∀ (f : Option FieldType) (number : Nat) (raws : List Raw),
    packedTexts p.plain f number raws = packedTexts p f number raws
  | f, number, [] => by rw [packedTexts, packedTexts]
  | f, number, raw :: raws => by
    rw [packedTexts, packedTexts, rawTexts_plain f number raw, packedTexts_plain f number raws]

end

mutual

/-- A value is shown alike, and with it the fault that it is not the expected one. -/
theorem shown_plain : ∀ v : Value, shown p.plain v = shown p v
  | .message name fields => by rw [shown, shown, messageText_plain, fieldsTexts_plain]
  | .list values => by rw [shown, shown, shownAll_plain values]
  | .map entries => by rw [shown, shown, shownEntries_plain entries]
  | .bool b => by rw [shown, shown]
  | .int32 n => by rw [shown, shown]
  | .int64 n => by rw [shown, shown]
  | .uint32 n => by rw [shown, shown]
  | .uint64 n => by rw [shown, shown]
  | .float bits => by rw [shown, shown]
  | .double bits => by rw [shown, shown]
  | .text s => by rw [shown, shown]
  | .bytes bs => by rw [shown, shown]
  | .enum n => by rw [shown, shown]

/-- Several values are shown alike. -/
theorem shownAll_plain : ∀ vs : List Value, shownAll p.plain vs = shownAll p vs
  | [] => by rw [shownAll, shownAll]
  | v :: vs => by rw [shownAll, shownAll, shown_plain v, shownAll_plain vs]

/-- The entries of a map are shown alike. -/
theorem shownEntries_plain : ∀ entries : List (Value × Value),
    shownEntries p.plain entries = shownEntries p entries
  | [] => by rw [shownEntries, shownEntries]
  | (key, value) :: entries => by
    rw [shownEntries, shownEntries, shown_plain key, shown_plain value, shownEntries_plain entries]

end

end

/-! ## Options -/

section

variable (p : Pool) (owner : OptionOwner) (fields : Fields) (extension : String)

/-- An extension has the same value in options. -/
theorem value?_plain : (Options.of p.plain owner fields).value? extension =
    (Options.of p owner fields).value? extension := by
  simp only [Options.value?, Options.of, Pool.extension?_plain, Pool.message?_plain,
    fieldValue_plain]
  cases p.extension? extension with
  | none => rfl
  | some x =>
    cases p.message? owner.fullName with
    | none => rfl
    | some type =>
      show (p.plain.fieldOf? type.plain x.field.number >>= _) = _
      rw [Pool.fieldOf?_plain]
      rfl

/-- An extension of another kind than the expected one gives the same fault. -/
theorem unexpected_plain (expected : String) (v : Value) :
    (Options.of p.plain owner fields).unexpected extension expected v =
      (Options.of p owner fields).unexpected extension expected v := by
  simp only [Options.unexpected, Options.of, shown_plain]

/-- A switch is read from options alike. -/
theorem bool_plain : (Options.of p.plain owner fields).bool extension =
    (Options.of p owner fields).bool extension := by
  simp only [Options.bool, value?_plain, unexpected_plain]

/-- A text is read from options alike. -/
theorem text?_plain : (Options.of p.plain owner fields).text? extension =
    (Options.of p owner fields).text? extension := by
  simp only [Options.text?, value?_plain, unexpected_plain]

/-- A message is read from options alike. -/
theorem optionMessage?_plain {α : Type} (read : Bytes → Except ReadFault α) :
    (Options.of p.plain owner fields).message? extension read =
      (Options.of p owner fields).message? extension read := by
  simp only [Options.message?, value?_plain, unexpected_plain]

end

end ProtoRest.Annotation

namespace ProtoRest.Schema.Loader

open ProtoRest.Annotation ProtoRest.Descriptor Result

/-- A loader that sees plain enums only. -/
def plain (l : Loader) : Loader := ⟨l.pool.plain, l.file.plain⟩

variable (l : Loader)

/-- The kind of a field is loaded alike, since an enum is loaded by its name only. -/
theorem kind_plain : l.plain.kind = l.kind := by
  funext type
  cases type with
  | scalar type => rfl
  | enum name =>
    rw [kind, kind, plain, Pool.enum?_plain]
    cases l.pool.enum? name <;> rfl
  | message name grouped =>
    rw [kind, kind, plain, Pool.message?_plain]
    cases l.pool.message? name <;> rfl

/-- The kind of a part of a map is loaded alike. -/
theorem entryKind_plain (entry : MessageType) : l.plain.entryKind entry.plain = l.entryKind entry := by
  funext number
  rw [entryKind, entryKind, kind_plain, MessageType.field?_plain]

/-- The label of a field is loaded alike. -/
theorem label_plain : l.plain.label = l.label := by
  have hentry (f : FieldType) : l.plain.pool.mapEntry? f = (l.pool.mapEntry? f).map MessageType.plain :=
    l.pool.mapEntry?_plain f
  funext f
  rw [label, label, hentry]
  cases l.pool.mapEntry? f with
  | none => rfl
  | some entry => simp only [Option.map_some, entryKind_plain]

/-- A field is loaded alike. -/
theorem field_plain : l.plain.field = l.field := by
  funext f
  rw [field, field, label_plain, kind_plain]

/-- A message is loaded alike. -/
theorem message_plain : l.plain.message = l.message := by
  have hmessage (name : String) :
      l.plain.pool.message? name = (l.pool.message? name).map MessageType.plain :=
    l.pool.message?_plain name
  funext name
  rw [message, message, hmessage, field_plain]
  cases l.pool.message? name <;> rfl

/-- A method is loaded alike, its options included. -/
theorem method_plain : l.plain.method = l.method := by
  have hpool : l.plain.pool = l.pool.plain := rfl
  funext path m
  rw [method, method, message_plain]
  simp only [hpool, optionMessage?_plain, bool_plain, text?_plain]
  rfl

/-- Services are loaded alike. -/
theorem service_plain : l.plain.service = l.service := by
  have hpool : l.plain.pool = l.pool.plain := rfl
  funext index s
  rw [service, service, method_plain]
  simp only [hpool, bool_plain]
  rfl

/-! ## Accepted annotations -/

/-- The annotations of an enum and its values can be read, and every status in them is one of HTTP. -/
structure Accepts (e : EnumType) : Prop where
  /-- The status of the enum. -/
  status : ∃ status, (Options.of l.pool .enum e.options).int32? defaultStatusName = .ok status ∧
    ∀ n ∈ status, isStatus n = true
  /-- The annotations of its values. -/
  values : ∀ v ∈ e.values, ∃ error,
    (Options.of l.pool .enumValue v.options).message? errorOptionsName ErrorOptions.read = .ok error ∧
      ∀ n ∈ error.bind (·.status), isStatus n = true

variable {l}

/-- A value of an enum is loaded exactly when its annotation can be read and sets no status out of
bounds. -/
theorem enumValue_eq_ok_iff {v : EnumValueType} : (∃ loaded, l.enumValue v = .ok loaded) ↔
    ∃ error,
      (Options.of l.pool .enumValue v.options).message? errorOptionsName ErrorOptions.read = .ok error ∧
        ∀ n ∈ error.bind (·.status), isStatus n = true := by
  constructor
  · rintro ⟨loaded, h⟩
    exact ⟨loaded.error, (enumValue_eq_ok h).error, (enumValue_eq_ok h).status⟩
  · rintro ⟨error, herror, hstatus⟩
    simp only [enumValue, bind_eq_ok_iff, annotation_eq_ok_iff, pure_eq_ok_iff, checkStatus_eq_ok_iff]
    exact ⟨_, error, herror, (), hstatus, rfl⟩

/-- An enum that is loaded has annotations that are accepted. -/
theorem accepts_of_loadsEnum {path : List Int} {e : EnumType} {loaded : Enum}
    (h : l.LoadsEnum path e loaded) : l.Accepts e := by
  refine ⟨⟨loaded.defaultStatus, h.status, h.checked⟩, fun v hv => ?_⟩
  obtain ⟨value, -, hvalue⟩ := exists_right_of_forall₂ h.values v hv
  exact ⟨value.error, hvalue.error, hvalue.status⟩

/-- An enum is loaded exactly when its annotations are accepted. -/
theorem enum_eq_ok_iff {path : List Int} {e : EnumType} :
    (∃ loaded, l.enum path e = .ok loaded) ↔ l.Accepts e := by
  constructor
  · rintro ⟨loaded, h⟩
    exact accepts_of_loadsEnum (enum_eq_ok h)
  · rintro ⟨⟨status, hstatus, hchecked⟩, hvalues⟩
    obtain ⟨values, hvalues⟩ := exists_mapM_eq_ok fun v hv => enumValue_eq_ok_iff.mpr (hvalues v hv)
    simp only [enum, bind_eq_ok_iff, annotation_eq_ok_iff, pure_eq_ok_iff, checkStatus_eq_ok_iff]
    exact ⟨_, status, hstatus, (), hchecked, values, hvalues, rfl⟩

/-! ## Files -/

/-- Whether the annotations of all enums of the file are accepted. -/
def AcceptsAll (l : Loader) : Prop := ∀ e ∈ enums l.file, l.Accepts e.2

/-- The services of the file. -/
def services (l : Loader) : Except Failure (List Service) :=
  l.file.services.zipIdx.mapM fun (s, i) => l.service i s

/-- The services of a file are loaded alike. -/
theorem services_plain : l.plain.services = l.services := by
  rw [services, services, service_plain]
  rfl

/-- Loaders that differ only in options of enums load the same services. -/
theorem services_eq_of_plain {l' : Loader} (h : l.plain = l'.plain) : l.services = l'.services := by
  rw [← l.services_plain, h, l'.services_plain]

/-- A file whose annotations of enums are accepted is loaded when its services are. -/
theorem load_of_acceptsAll (h : l.AcceptsAll) :
    ∃ enums, l.load = l.services.map fun services =>
      { name := l.file.name, package := l.file.package, services, enums } := by
  have hloads : ∀ e ∈ enums l.file, ∃ loaded, l.enum e.1 e.2 = .ok loaded := fun e he =>
    enum_eq_ok_iff.mpr (h e he)
  obtain ⟨loaded, hloaded⟩ := exists_mapM_eq_ok hloads
  refine ⟨loaded, ?_⟩
  rw [load, hloaded, services]
  rfl

/-- A file fails as its services do. -/
theorem load_of_services_eq_error {failure : Failure} (h : l.services = .error failure) :
    l.load = .error failure := by
  rw [load, ← services.eq_1, h]
  rfl

/-- What is loaded had its annotations of enums accepted. -/
theorem acceptsAll_of_load {file : File} (h : l.load = .ok file) : l.AcceptsAll := by
  intro e he
  obtain ⟨loaded, -, hloaded⟩ := exists_right_of_forall₂ (load_eq_ok h).2 e he
  exact accepts_of_loadsEnum hloaded

/-- A file with annotations of enums that are not accepted fails as its services do, or else its options
are at fault. -/
theorem load_of_not_acceptsAll (h : ¬l.AcceptsAll) :
    (∃ failure, l.services = .error failure ∧ l.load = .error failure) ∨
      ∃ message, l.load = .error (l.fault message) := by
  cases hservices : l.services with
  | error failure => exact .inl ⟨failure, rfl, load_of_services_eq_error hservices⟩
  | ok services =>
    cases hload : l.load with
    | ok file => exact absurd (acceptsAll_of_load hload) h
    | error failure =>
      -- the services are loaded, so an enum failed
      rw [load, ← Loader.services.eq_1, hservices, ok_bind] at hload
      obtain hload | ⟨_, -, hload⟩ := bind_eq_error_iff.mp hload
      · obtain ⟨e, -, hfailure⟩ := exists_of_mapM_eq_error hload
        obtain ⟨message, rfl⟩ | ⟨-, hnot⟩ := (loads_enum e.1 e.2).error failure hfailure
        · exact .inr ⟨message, rfl⟩
        · exact absurd trivial hnot
      · cases hload

end ProtoRest.Schema.Loader
