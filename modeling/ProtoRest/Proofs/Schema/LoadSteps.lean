import ProtoRest.Proofs.Result
import ProtoRest.Schema.Load

/-! # Steps of loading
What it says that a part of a file is loaded. For each kind of part there is one lemma, which reads the
success of its step as facts about what was loaded (`load_eq_ok` for a file). Proofs about loaded files
start from these facts and open no step. -/

namespace ProtoRest.Schema.Loader

open ProtoRest.Annotation ProtoRest.Descriptor Result

variable {l : Loader}

/-- An annotation is loaded exactly when it is read. -/
theorem annotation_eq_ok_iff {α : Type} {owner : String} {read : Except String α} {a : α} :
    l.annotation owner read = .ok a ↔ read = .ok a :=
  mapError_eq_ok_iff

/-! ## Messages -/

/-- The kind of an enum type refers to the enum of the pool. -/
theorem kind_enum_eq_ok {name : String} {kind : FieldKind} (h : l.kind (.enum name) = .ok kind) :
    ∃ e, l.pool.enum? name = some e ∧ kind = .enum (l.enumRef e) := by
  rw [Loader.kind] at h
  split at h
  · cases h
  · next e he => exact ⟨e, he, (Except.ok.inj h).symm⟩

/-- The kind of a message type refers to the message of the pool. -/
theorem kind_message_eq_ok {name : String} {grouped : Bool} {kind : FieldKind}
    (h : l.kind (.message name grouped) = .ok kind) :
    ∃ m, l.pool.message? name = some m ∧ kind = .message (l.messageRef m) := by
  rw [Loader.kind] at h
  split at h
  · cases h
  · next m hm => exact ⟨m, hm, (Except.ok.inj h).symm⟩

/-- A loaded field keeps its name, and has the label, the kind and the oneof of its type. -/
theorem field_eq_ok {g : FieldType} {f : Field} (h : l.field g = .ok f) :
    f.name = g.name ∧ l.label g = .ok f.label ∧ l.kind g.type = .ok f.kind ∧
      f.oneof = if g.marked then none else g.oneof := by
  rw [Loader.field] at h
  obtain ⟨label, hlabel, h⟩ := bind_eq_ok_iff.mp h
  obtain ⟨kind, hkind, h⟩ := bind_eq_ok_iff.mp h
  obtain rfl := pure_eq_ok_iff.mp h
  exact ⟨rfl, hlabel, hkind, rfl⟩

/-- A loaded message refers to its type and holds its fields, in order. -/
theorem message_eq_ok {name : String} {m : Message} (h : l.message name = .ok m) :
    ∃ type, l.pool.message? name = some type ∧ m.type = l.messageRef type ∧
      List.Forall₂ (fun g f => l.field g = .ok f) type.fields m.fields := by
  rw [Loader.message] at h
  split at h
  · cases h
  · next type htype =>
    obtain ⟨fields, hfields, h⟩ := bind_eq_ok_iff.mp h
    obtain rfl := pure_eq_ok_iff.mp h
    exact ⟨type, htype, rfl, mapM_eq_ok_iff.mp hfields⟩

/-! ## Services -/

/-- A method is loaded from its type at a place. -/
structure LoadsMethod (l : Loader) (place : List Int) (m : MethodType) (loaded : Method) : Prop where
  /-- It keeps its name. -/
  name : loaded.name = m.name
  /-- It has the comment of the place. -/
  comment : loaded.comment = l.comment place
  /-- Its rule is what the annotation says. -/
  rule : (Options.of l.pool .method m.options).message? ruleName HttpRule.read = .ok loaded.rule
  /-- What it takes is loaded. -/
  input : l.message m.input = .ok loaded.input
  /-- What it gives back is loaded. -/
  output : l.message m.output = .ok loaded.output

/-- What a method that was loaded holds. -/
theorem method_eq_ok {place : List Int} {m : MethodType} {loaded : Method}
    (h : l.method place m = .ok loaded) : l.LoadsMethod place m loaded := by
  rw [Loader.method] at h
  obtain ⟨rule, hrule, h⟩ := bind_eq_ok_iff.mp h
  obtain ⟨auth, -, h⟩ := bind_eq_ok_iff.mp h
  obtain ⟨authLine, -, h⟩ := bind_eq_ok_iff.mp h
  obtain ⟨input, hinput, h⟩ := bind_eq_ok_iff.mp h
  obtain ⟨output, houtput, h⟩ := bind_eq_ok_iff.mp h
  obtain rfl := pure_eq_ok_iff.mp h
  exact ⟨rfl, rfl, annotation_eq_ok_iff.mp hrule, hinput, houtput⟩

/-- The methods of a service are loaded at their positions. -/
theorem service_eq_ok {index : Nat} {s : ServiceType} {loaded : Service}
    (h : l.service index s = .ok loaded) :
    loaded.name = s.name ∧ loaded.comment = l.comment (servicePath index) ∧
      List.Forall₂ (fun (m : MethodType × Nat) method =>
        l.LoadsMethod (methodPath index m.2) m.1 method) s.methods.zipIdx loaded.methods := by
  rw [Loader.service] at h
  obtain ⟨auth, -, h⟩ := bind_eq_ok_iff.mp h
  obtain ⟨methods, hmethods, h⟩ := bind_eq_ok_iff.mp h
  obtain rfl := pure_eq_ok_iff.mp h
  exact ⟨rfl, rfl, (mapM_eq_ok_iff.mp hmethods).imp fun _ _ => method_eq_ok⟩

/-! ## Enums -/

/-- A value of an enum is loaded from its type. -/
structure LoadsEnumValue (l : Loader) (v : EnumValueType) (loaded : EnumValue) : Prop where
  /-- It keeps its name. -/
  name : loaded.name = v.name
  /-- It keeps its number. -/
  number : loaded.number = v.number
  /-- Its error is what the annotation says. -/
  error : (Options.of l.pool .enumValue v.options).message? errorOptionsName ErrorOptions.read =
    .ok loaded.error
  /-- The status of the error was checked. -/
  status : ∀ n ∈ loaded.error.bind (·.status), isStatus n = true

/-- What an enum value that was loaded holds. -/
theorem enumValue_eq_ok {v : EnumValueType} {loaded : EnumValue} (h : l.enumValue v = .ok loaded) :
    l.LoadsEnumValue v loaded := by
  rw [Loader.enumValue] at h
  obtain ⟨error, herror, h⟩ := bind_eq_ok_iff.mp h
  obtain ⟨_, hstatus, h⟩ := bind_eq_ok_iff.mp h
  obtain rfl := pure_eq_ok_iff.mp h
  exact ⟨rfl, rfl, annotation_eq_ok_iff.mp herror, checkStatus_eq_ok_iff.mp hstatus⟩

/-- An enum is loaded from its type at a place. -/
structure LoadsEnum (l : Loader) (place : List Int) (e : EnumType) (loaded : Enum) : Prop where
  /-- It keeps its name. -/
  name : loaded.name = e.name
  /-- It keeps its full name. -/
  fullName : loaded.fullName = e.fullName
  /-- It has the path by which the file refers to it. -/
  path : loaded.path = (l.enumRef e).path
  /-- It has the comment of the place. -/
  comment : loaded.comment = l.comment place
  /-- Its status is what the annotation says. -/
  status : (Options.of l.pool .enum e.options).int32? defaultStatusName = .ok loaded.defaultStatus
  /-- Its status was checked. -/
  checked : ∀ n ∈ loaded.defaultStatus, isStatus n = true
  /-- Its values are loaded. -/
  values : List.Forall₂ l.LoadsEnumValue e.values loaded.values

/-- What an enum that was loaded holds. -/
theorem enum_eq_ok {place : List Int} {e : EnumType} {loaded : Enum} (h : l.enum place e = .ok loaded) :
    l.LoadsEnum place e loaded := by
  rw [Loader.enum] at h
  obtain ⟨status, hstatus, h⟩ := bind_eq_ok_iff.mp h
  obtain ⟨_, hchecked, h⟩ := bind_eq_ok_iff.mp h
  obtain ⟨values, hvalues, h⟩ := bind_eq_ok_iff.mp h
  obtain rfl := pure_eq_ok_iff.mp h
  exact ⟨rfl, rfl, rfl, rfl, annotation_eq_ok_iff.mp hstatus, checkStatus_eq_ok_iff.mp hchecked,
    (mapM_eq_ok_iff.mp hvalues).imp fun _ _ => enumValue_eq_ok⟩

/-! ## Files -/

/-- The services of a file are loaded at their positions, and its enums at their places. -/
theorem load_eq_ok {file : File} (h : l.load = .ok file) :
    List.Forall₂ (fun (s : ServiceType × Nat) service => l.service s.2 s.1 = .ok service)
        l.file.services.zipIdx file.services ∧
      List.Forall₂ (fun (e : List Int × EnumType) loaded => l.LoadsEnum e.1 e.2 loaded)
        (enums l.file) file.enums := by
  rw [Loader.load] at h
  obtain ⟨services, hservices, h⟩ := bind_eq_ok_iff.mp h
  obtain ⟨enums, henums, h⟩ := bind_eq_ok_iff.mp h
  obtain rfl := pure_eq_ok_iff.mp h
  exact ⟨mapM_eq_ok_iff.mp hservices, (mapM_eq_ok_iff.mp henums).imp fun _ _ => enum_eq_ok⟩

end ProtoRest.Schema.Loader
