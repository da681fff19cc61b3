import ProtoRest.Plugin.Job
import ProtoRest.Proofs.Descriptor.NamedPool
import ProtoRest.Proofs.ErrorSet.TableVerdict
import ProtoRest.Proofs.Route.ServerVerdict
import ProtoRest.Proofs.Schema.LoadSteps

/-! # Files of names
A file that is loaded from a pool of names is made of names (`isNamedFile_of_load`), so what it
stands for in generated code depends on nothing else. -/

namespace ProtoRest.Plugin

open ProtoRest.Code ProtoRest.Descriptor ProtoRest.Route ProtoRest.Schema Result

/-- A file whose names and types are made of names and whose statuses were checked. -/
structure IsNamedFile (file : File) : Prop where
  /-- Its services are. -/
  services : ∀ s ∈ file.services, IsNamedService s
  /-- Its enums are. -/
  enums : ∀ e ∈ file.enums, ErrorSet.IsNamedEnum e
  /-- The statuses of its errors were checked. -/
  statuses : ∀ e ∈ file.enums, ErrorSet.HasStatuses e

section Loading

variable {l : Loader} (hpool : IsNamedPool l.pool)

/-! ## Messages -/

include hpool

/-- Every message that a named pool finds is named by identifiers. -/
theorem isNamedMessageType_of_message? {name : String} {m : MessageType}
    (h : l.pool.message? name = some m) : IsNamedMessageType m := by
  obtain ⟨f, hf, hm⟩ := List.mem_flatMap.mp (List.mem_of_find?_eq_some h)
  exact (hpool f hf).messages m hm

/-- The path of a message of a named pool is a text of the named sort. -/
theorem isNamedText_messageRef {name : String} {m : MessageType}
    (h : l.pool.message? name = some m) : IsNamedText (l.messageRef m).path := by
  have hm := isNamedMessageType_of_message? hpool h
  exact isNamedText_typePath hm.package hm.fullName

/-- The kind that is loaded for a type refers to named types only. -/
theorem isNamedKind {type : ValueType} {kind : FieldKind} (h : l.kind type = .ok kind) :
    IsNamedKind kind := by
  cases type with
  | scalar type =>
    cases h
    trivial
  | enum name =>
    obtain ⟨e, -, rfl⟩ := Loader.kind_enum_eq_ok h
    trivial
  | message name grouped =>
    obtain ⟨m, hm, rfl⟩ := Loader.kind_message_eq_ok h
    exact isNamedText_messageRef hpool hm

/-- The kind that is loaded for a part of a map entry refers to named types only. -/
theorem isNamedKind_entry {entry : MessageType} {number : Nat} {kind : FieldKind}
    (h : l.entryKind entry number = .ok kind) : IsNamedKind kind := by
  rw [Loader.entryKind] at h
  split at h
  · cases h
  · exact isNamedKind hpool h

/-- A loaded field keeps its name and refers to named types only. -/
theorem hasNamedKinds_field {f : FieldType} {loaded : Field} (h : l.field f = .ok loaded) :
    loaded.name = f.name ∧ HasNamedKinds loaded := by
  obtain ⟨hname, hlabel, hkind, -⟩ := Loader.field_eq_ok h
  refine ⟨hname, isNamedKind hpool hkind, ?_⟩
  rw [Loader.label] at hlabel
  split at hlabel
  · obtain ⟨key, hkey, hlabel⟩ := bind_eq_ok_iff.mp hlabel
    obtain ⟨value, hvalue, hlabel⟩ := bind_eq_ok_iff.mp hlabel
    rw [← pure_eq_ok_iff.mp hlabel]
    exact ⟨isNamedKind_entry hpool hkey, isNamedKind_entry hpool hvalue⟩
  · split_ifs at hlabel <;> rw [← pure_eq_ok_iff.mp hlabel] <;> trivial

/-- The fields of a loaded message are named and refer to named types only. -/
theorem hasNamedFields_message {name : String} {m : Message} (h : l.message name = .ok m) :
    HasNamedFields m := by
  obtain ⟨type, htype, href, hfields⟩ := Loader.message_eq_ok h
  refine ⟨?_, fun f hf => ?_, fun f hf => ?_⟩
  · rw [href]
    exact isNamedText_messageRef hpool htype
  · obtain ⟨decl, hdecl, hloaded⟩ := exists_left_of_forall₂ hfields f hf
    rw [(hasNamedKinds_field hpool hloaded).1]
    exact (isNamedMessageType_of_message? hpool htype).fields decl hdecl
  · obtain ⟨decl, -, hloaded⟩ := exists_left_of_forall₂ hfields f hf
    exact (hasNamedKinds_field hpool hloaded).2

/-! ## Services and enums -/

/-- A method with a proper name is loaded as a named one. -/
theorem isNamedMethod {path : List Int} {m : MethodType} (hm : HasNameChars m.name)
    {loaded : Method} (h : l.LoadsMethod path m loaded) : IsNamedMethod loaded :=
  ⟨h.name ▸ hm, hasNamedFields_message hpool h.input, hasNamedFields_message hpool h.output⟩

/-- A service with proper names is loaded as a named one. -/
theorem isNamedService {index : Nat} {s : ServiceType} (hs : IsNamedServiceType s)
    {loaded : Service} (h : l.service index s = .ok loaded) : IsNamedService loaded := by
  obtain ⟨hname, -, hmethods⟩ := Loader.service_eq_ok h
  refine ⟨hname ▸ hs.name, fun m hm => ?_⟩
  obtain ⟨⟨decl, i⟩, hdecl, hm⟩ := exists_left_of_forall₂ hmethods m hm
  exact isNamedMethod hpool (hs.methods decl (List.fst_mem_of_mem_zipIdx hdecl)) hm

omit hpool in
/-- An enum with proper names is loaded as a named one. -/
theorem isNamedEnum {path : List Int} {e : EnumType} (he : IsNamedEnumType e) {loaded : Enum}
    (h : l.LoadsEnum path e loaded) : ErrorSet.IsNamedEnum loaded := by
  refine ⟨?_, fun v hv => ?_⟩
  · rw [h.path]
    exact isNamedText_typePath he.package he.fullName
  · obtain ⟨decl, hdecl, hloaded⟩ := exists_left_of_forall₂ h.values v hv
    rw [hloaded.name]
    exact he.values decl hdecl

end Loading

/-! ## Files -/

/-- Whatever stands in one tree stands among the messages of all. -/
theorem mem_flattenTrees {ts : List MessageTree} {t : MessageTree} (ht : t ∈ ts) {m : MessageType}
    (hm : m ∈ t.flatten) : m ∈ flattenTrees ts := by
  induction ts with
  | nil => cases ht
  | cons u us ih =>
    rw [flattenTrees]
    obtain rfl | ht := List.mem_cons.mp ht
    · exact List.mem_append_left _ hm
    · exact List.mem_append_right _ (ih ht)

mutual

/-- The enums in a message are those of the messages in it. -/
theorem mem_enumsIn : ∀ {t : MessageTree} {path : List Int} {e : List Int × EnumType},
    e ∈ Loader.enumsIn path t → ∃ m ∈ t.flatten, e.2 ∈ m.enums
  | .mk type nested, path, e, h => by
    rw [Loader.enumsIn] at h
    split_ifs at h
    · cases h
    · rw [MessageTree.flatten]
      obtain h | h := List.mem_append.mp h
      · obtain ⟨⟨decl, i⟩, hdecl, rfl⟩ := List.mem_map.mp h
        exact ⟨type, List.mem_cons_self, List.fst_mem_of_mem_zipIdx hdecl⟩
      · obtain ⟨m, hm, he⟩ := mem_enumsInAll h
        exact ⟨m, List.mem_cons_of_mem type hm, he⟩

/-- Every enum found in the trees belongs to one of their messages. -/
theorem mem_enumsInAll : ∀ {ts : List MessageTree} {path : List Int} {index : Nat}
    {e : List Int × EnumType}, e ∈ Loader.enumsInAll path index ts →
      ∃ m ∈ flattenTrees ts, e.2 ∈ m.enums
  | [], path, index, e, h => by
    rw [Loader.enumsInAll] at h
    cases h
  | t :: ts, path, index, e, h => by
    rw [Loader.enumsInAll] at h
    rw [flattenTrees]
    obtain h | h := List.mem_append.mp h
    · obtain ⟨m, hm, he⟩ := mem_enumsIn h
      exact ⟨m, List.mem_append_left _ hm, he⟩
    · obtain ⟨m, hm, he⟩ := mem_enumsInAll h
      exact ⟨m, List.mem_append_right _ hm, he⟩

end

/-- The enums with places are those at the top and those of messages. -/
theorem exists_of_mem_enums {f : FileType} {e : List Int × EnumType} (h : e ∈ Loader.enums f) :
    e.2 ∈ f.enums ∨ ∃ m ∈ flattenTrees f.messages, e.2 ∈ m.enums := by
  rw [Loader.enums] at h
  obtain h | h := List.mem_append.mp h
  · obtain ⟨⟨decl, i⟩, hdecl, rfl⟩ := List.mem_map.mp h
    exact .inl (List.fst_mem_of_mem_zipIdx hdecl)
  · obtain ⟨⟨t, i⟩, ht, h⟩ := List.mem_flatMap.mp h
    obtain ⟨m, hm, he⟩ := mem_enumsIn h
    exact .inr ⟨m, mem_flattenTrees (List.fst_mem_of_mem_zipIdx ht) hm, he⟩

/-- Every enum of a named file is named. -/
theorem isNamedEnumType_of_mem {f : FileType} (hf : IsNamedFileType f) {e : List Int × EnumType}
    (h : e ∈ Loader.enums f) : IsNamedEnumType e.2 := by
  obtain he | ⟨m, hm, he⟩ := exists_of_mem_enums h
  · exact hf.enums _ he
  · exact (hf.messages m hm).enums _ he

/-- Loading an enum checks its statuses. -/
theorem hasStatuses_enum {l : Loader} {path : List Int} {e : EnumType} {loaded : Enum}
    (h : l.LoadsEnum path e loaded) : ErrorSet.HasStatuses loaded := by
  refine ⟨h.checked, fun v hv options hoptions n hn => ?_⟩
  obtain ⟨decl, -, hloaded⟩ := exists_left_of_forall₂ h.values v hv
  exact hloaded.status n (Option.mem_bind_iff.mpr ⟨options, hoptions, hn⟩)

/-- The statuses of a file that is loaded were checked. -/
theorem hasStatuses_of_load {l : Loader} {file : File} (h : l.load = .ok file) :
    ∀ e ∈ file.enums, ErrorSet.HasStatuses e := by
  intro e he
  obtain ⟨decl, -, hloaded⟩ := exists_left_of_forall₂ (Loader.load_eq_ok h).2 e he
  exact hasStatuses_enum hloaded

/-- A file that is loaded from a pool of names is made of names. -/
theorem isNamedFile_of_load {l : Loader} (hpool : IsNamedPool l.pool) (hfile : l.file ∈ l.pool.files)
    {file : File} (h : l.load = .ok file) : IsNamedFile file := by
  obtain ⟨hservices, henums⟩ := Loader.load_eq_ok h
  constructor
  · intro s hs
    obtain ⟨⟨decl, i⟩, hdecl, hs⟩ := exists_left_of_forall₂ hservices s hs
    exact isNamedService hpool
      ((hpool l.file hfile).services decl (List.fst_mem_of_mem_zipIdx hdecl)) hs
  · intro e he
    obtain ⟨decl, hdecl, he⟩ := exists_left_of_forall₂ henums e he
    exact isNamedEnum (isNamedEnumType_of_mem (hpool l.file hfile) hdecl) he
  · exact hasStatuses_of_load h

end ProtoRest.Plugin
