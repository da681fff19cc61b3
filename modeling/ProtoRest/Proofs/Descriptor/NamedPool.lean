import ProtoRest.Descriptor.Named
import ProtoRest.Proofs.Descriptor.BuildSteps
import ProtoRest.Proofs.Schema.NamedPaths

/-! # Pools of names
The types of a pool keep the names of their declarations: the pool of named files is named
(`isNamedPool_ofDecls`). -/

namespace ProtoRest.Descriptor

open ProtoRest.Code ProtoRest.Schema ProtoRest.Text Result

/-! ## Named types -/

/-- An enum with names. -/
structure IsNamedEnumType (e : EnumType) : Prop where
  /-- Its full name. -/
  fullName : HasDottedChars e.fullName.toList
  /-- Its package. -/
  package : HasDottedChars e.package.toList
  /-- The names of its values. -/
  values : ∀ v ∈ e.values, HasNameChars v.name

/-- A message with names. -/
structure IsNamedMessageType (m : MessageType) : Prop where
  /-- Its full name. -/
  fullName : HasDottedChars m.fullName.toList
  /-- Its package. -/
  package : HasDottedChars m.package.toList
  /-- The names of its fields. -/
  fields : ∀ f ∈ m.fields, HasNameChars f.name
  /-- The enums in it have names. -/
  enums : ∀ e ∈ m.enums, IsNamedEnumType e

/-- A service with names. -/
structure IsNamedServiceType (s : ServiceType) : Prop where
  /-- Its name. -/
  name : HasNameChars s.name
  /-- The names of its methods. -/
  methods : ∀ m ∈ s.methods, HasNameChars m.name

/-- A file with names. -/
structure IsNamedFileType (f : FileType) : Prop where
  /-- Its messages and those in them have names. -/
  messages : ∀ m ∈ flattenTrees f.messages, IsNamedMessageType m
  /-- Its enums have names. -/
  enums : ∀ e ∈ f.enums, IsNamedEnumType e
  /-- Its services have names. -/
  services : ∀ s ∈ f.services, IsNamedServiceType s

/-- A pool of files with names. -/
def IsNamedPool (p : Pool) : Prop := ∀ f ∈ p.files, IsNamedFileType f

/-! ## Full names -/

/-- The characters of a name are allowed in a dotted name. -/
theorem hasDottedChars_of_hasNameChars {name : String} (h : HasNameChars name) :
    HasDottedChars name.toList := fun c hc => .inl (h c hc)

/-- A dotted name consists of characters of names and dots. -/
theorem hasDottedChars_of_isDottedName {text : String} (h : isDottedName text = true) :
    HasDottedChars text.toList := by
  intro c hc
  by_cases hdot : c = '.'
  · exact .inr hdot
  · have hmem : c ∈ (splitAt '.' text.toList).flatten := by
      rw [splitAt, flatten_splitWhere, List.mem_filter]
      exact ⟨hc, by simpa using hdot⟩
    obtain ⟨part, hpart, hcpart⟩ := List.mem_flatten.mp hmem
    have hname := hasNameChars_of_isName (List.all_eq_true.mp h part hpart)
    exact .inl (hname c (by rwa [String.toList_ofList]))

/-- The package of a named file is written in such characters. -/
theorem hasDottedChars_package {f : FileDecl} (h : f.isNamed = true) :
    HasDottedChars f.package.toList := by
  simp only [FileDecl.isNamed, Bool.and_eq_true, Bool.or_eq_true, beq_iff_eq] at h
  obtain ⟨⟨⟨hempty | hdotted, -⟩, -⟩, -⟩ := h
  · rw [hempty]
    intro c hc
    cases hc
  · exact hasDottedChars_of_isDottedName hdotted

/-- A name in a scope is written in such characters when both are. -/
theorem hasDottedChars_inScope {scope name : String} (hscope : HasDottedChars scope.toList)
    (hname : HasNameChars name) : HasDottedChars (inScope scope name).toList := by
  rw [inScope]
  split_ifs
  · exact hasDottedChars_of_hasNameChars hname
  · intro c hc
    simp only [String.toList_append, List.mem_append] at hc
    obtain (hc | hc) | hc := hc
    · exact hscope c hc
    · exact .inr (by simpa using hc)
    · exact .inl (hname c hc)

/-! ## Types of declarations -/

section Types

variable {p : Place} (hpackage : HasDottedChars p.package.toList) {scope : String}
  {path : List Int}

include hpackage in
/-- A named enum is built to a named type. -/
theorem isNamed_enumType {e : EnumDecl} (he : e.isNamed = true)
    (hscope : HasDottedChars scope.toList) {type : EnumType} (h : enumType p scope e = .ok type) :
    IsNamedEnumType type := by
  rw [EnumDecl.isNamed, Bool.and_eq_true, List.all_eq_true] at he
  obtain ⟨hname, hvalues⟩ := he
  obtain ⟨hfullName, hplace, hperm⟩ := enumType_eq_ok h
  refine ⟨?_, hplace ▸ hpackage, fun v hv => ?_⟩
  · rw [hfullName]
    exact hasDottedChars_inScope hscope (hasNameChars_of_isName hname)
  · obtain ⟨decl, hdecl, rfl⟩ := List.mem_map.mp (hperm.mem_iff.mp hv)
    exact hasNameChars_of_isName (hvalues decl hdecl)

mutual

/-- A named message is built to named types, with all that is nested in it. -/
theorem isNamed_messageTree (hp : HasDottedChars p.package.toList) : ∀ {m : MessageDecl}
    {scope : String} {path : List Int} {tree : MessageTree} {extensions : List ExtensionType},
      m.isNamed = true →
      HasDottedChars scope.toList → messageTree p scope path m = .ok (tree, extensions) →
        ∀ type ∈ tree.flatten, IsNamedMessageType type
  | .mk head nested, scope, path, tree, extensions, hm, hscope, h => by
    rw [MessageDecl.isNamed, MessageHead.isNamed] at hm
    simp only [Bool.and_eq_true, List.all_eq_true] at hm
    obtain ⟨⟨⟨hname, hfields⟩, henums⟩, hnested⟩ := hm
    have hinner := hasDottedChars_inScope hscope (hasNameChars_of_isName hname)
    obtain ⟨fields, trees, _, enums, _, hfieldTypes, htrees, henumTypes, -, rfl, -⟩ :=
      messageTree_eq_ok h
    rw [MessageTree.flatten, List.forall_mem_cons]
    -- putting the fields in the order of their numbers does not change their names
    refine ⟨⟨hinner, hp, fun f hf => ?_, fun e he => ?_⟩,
      isNamed_messageTrees hp hnested hinner htrees⟩
    · obtain ⟨decl, hdecl, _, _, hf⟩ :=
        exists_left_of_forall₂ (fieldTypes_eq_ok hfieldTypes) f (mem_byNumber.mp hf)
      rw [(fieldType_eq_ok hf).1]
      exact hasNameChars_of_isName (hfields decl hdecl)
    · obtain ⟨decl, hdecl, he⟩ := exists_left_of_forall₂ (mapM_eq_ok_iff.mp henumTypes) e he
      exact isNamed_enumType hp (henums decl hdecl) hinner he

/-- Named messages are built to named types, with all that is nested in them. -/
theorem isNamed_messageTrees (hp : HasDottedChars p.package.toList) : ∀ {ms : List MessageDecl}
    {scope : String} {path : List Int} {index : Nat} {trees : List MessageTree}
    {extensions : List ExtensionType},
      areNamed ms = true → HasDottedChars scope.toList →
        messageTrees p scope path index ms = .ok (trees, extensions) →
          ∀ type ∈ flattenTrees trees, IsNamedMessageType type
  | [], scope, path, index, trees, extensions, hms, hscope, h => by
    rw [messageTrees] at h
    obtain ⟨rfl, -⟩ := Prod.ext_iff.mp (Except.ok.inj h)
    intro type htype
    cases htype
  | m :: ms, scope, path, index, trees, extensions, hms, hscope, h => by
    rw [areNamed, Bool.and_eq_true] at hms
    obtain ⟨tree, more, _, _, htree, hmore, rfl, -⟩ := messageTrees_cons_eq_ok h
    rw [flattenTrees, List.forall_mem_append]
    exact ⟨isNamed_messageTree hp hms.1 hscope htree, isNamed_messageTrees hp hms.2 hscope hmore⟩

end

/-- A named service is built to a named type. -/
theorem isNamed_serviceType {s : ServiceDecl} (hs : s.isNamed = true) {type : ServiceType}
    (h : serviceType p s = .ok type) : IsNamedServiceType type := by
  rw [ServiceDecl.isNamed, Bool.and_eq_true, List.all_eq_true] at hs
  obtain ⟨hname, hmethods⟩ := serviceType_eq_ok h
  refine ⟨hname ▸ hasNameChars_of_isName hs.1, fun m hm => ?_⟩
  obtain ⟨decl, hdecl, hm⟩ := exists_left_of_forall₂ hmethods m hm
  rw [(methodType_eq_ok hm).1]
  exact hasNameChars_of_isName (hs.2 decl hdecl)

end Types

/-- The types of a named file are named. -/
theorem isNamed_fileType {catalog : Catalog} {files before : List FileDecl} {f : FileDecl}
    (hf : f.isNamed = true) {edition : Edition} {type : FileType}
    (h : fileType catalog files before f edition = .ok type) : IsNamedFileType type := by
  have hscope := hasDottedChars_package hf
  simp only [FileDecl.isNamed, Bool.and_eq_true, List.all_eq_true] at hf
  obtain ⟨⟨⟨-, hmessages⟩, henums⟩, hservices⟩ := hf
  obtain ⟨p, _, _, hpackage, -, -, hmessageTypes, henumTypes, hserviceTypes, -⟩ := fileType_eq_ok h
  have hplace : HasDottedChars p.package.toList := hpackage ▸ hscope
  refine ⟨isNamed_messageTrees hplace hmessages hscope hmessageTypes, fun e he => ?_,
    fun s hs => ?_⟩
  · obtain ⟨decl, hdecl, he⟩ := exists_left_of_forall₂ (mapM_eq_ok_iff.mp henumTypes) e he
    exact isNamed_enumType hplace (henums decl hdecl) hscope he
  · obtain ⟨decl, hdecl, hs⟩ := exists_left_of_forall₂ (mapM_eq_ok_iff.mp hserviceTypes) s hs
    exact isNamed_serviceType (hservices decl hdecl) hs

/-! ## Settled declarations -/

section Settled

variable {s : Settler} {scope : String}

/-- Declarations with the names of others are named when these are. -/
theorem all_of_forall₂ {α : Type} {R : α → α → Prop} {as bs : List α} {p : α → Bool}
    (h : List.Forall₂ R as bs) (hp : ∀ a b, R a b → p a = true → p b = true)
    (has : as.all p = true) : bs.all p = true := by
  rw [List.all_eq_true] at has ⊢
  intro b hb
  obtain ⟨a, ha, hab⟩ := exists_left_of_forall₂ h b hb
  exact hp a b hab (has a ha)

/-- Settling keeps the names of an enum. -/
theorem isNamed_enum {e settled : EnumDecl} (h : s.enum scope e = .ok settled)
    (he : e.isNamed = true) : settled.isNamed = true := by
  obtain ⟨_, -, values, hvalues, rfl⟩ := settledEnum_eq_ok_iff.mp h
  rw [EnumDecl.isNamed, Bool.and_eq_true] at he ⊢
  refine ⟨he.1, all_of_forall₂ (mapM_eq_ok_iff.mp hvalues) (fun v w hw hv => ?_) he.2⟩
  obtain ⟨_, -, rfl⟩ := settledEnumValue_eq_ok_iff.mp hw
  exact hv

/-- Settling keeps the names of a service. -/
theorem isNamed_service {d settled : ServiceDecl} (h : s.service scope d = .ok settled)
    (hd : d.isNamed = true) : settled.isNamed = true := by
  obtain ⟨_, -, methods, hmethods, rfl⟩ := settledService_eq_ok_iff.mp h
  rw [ServiceDecl.isNamed, Bool.and_eq_true] at hd ⊢
  refine ⟨hd.1, all_of_forall₂ (mapM_eq_ok_iff.mp hmethods) (fun m n hn hm => ?_) hd.2⟩
  obtain ⟨_, -, rfl⟩ := settledMethod_eq_ok_iff.mp hn
  exact hm

mutual

/-- Settling keeps the names of a message and of all that is nested in it. -/
theorem isNamed_message : ∀ {m settled : MessageDecl} {scope : String},
    s.message scope m = .ok settled → m.isNamed = true → settled.isNamed = true
  | .mk head nested, settled, scope, h, hm => by
    rw [MessageDecl.isNamed, MessageHead.isNamed] at hm
    simp only [Bool.and_eq_true] at hm
    obtain ⟨⟨⟨hname, hfields⟩, henums⟩, hnested⟩ := hm
    obtain ⟨_, -, _, -, _, -, fields, hfields', messages, hnested', enums, henums', _, -, rfl⟩ :=
      settledMessage_eq_ok_iff.mp h
    rw [MessageDecl.isNamed, MessageHead.isNamed]
    simp only [Bool.and_eq_true]
    refine ⟨⟨⟨hname, ?_⟩, ?_⟩, areNamed_messages hnested' hnested⟩
    · refine all_of_forall₂ (mapM_eq_ok_iff.mp hfields') (fun f f' hf hfield => ?_) hfields
      obtain ⟨_, -, rfl⟩ := settledField_eq_ok_iff.mp hf
      exact hfield
    · exact all_of_forall₂ (mapM_eq_ok_iff.mp henums') (fun _ _ => isNamed_enum) henums

/-- Settling keeps the names of messages and of all that is nested in them. -/
theorem areNamed_messages : ∀ {ms settled : List MessageDecl} {scope : String},
    s.messages scope ms = .ok settled → areNamed ms = true → areNamed settled = true
  | [], settled, scope, h, hms => by
    obtain rfl := settledMessages_nil_eq_ok_iff.mp h
    rfl
  | m :: ms, settled, scope, h, hms => by
    rw [areNamed, Bool.and_eq_true] at hms
    obtain ⟨first, hfirst, more, hmore, rfl⟩ := settledMessages_cons_eq_ok_iff.mp h
    rw [areNamed, Bool.and_eq_true]
    exact ⟨isNamed_message hfirst hms.1, areNamed_messages hmore hms.2⟩

end

/-- Settling the options of a file keeps its names. -/
theorem isNamed_file {f settled : FileDecl} (h : s.file f = .ok settled) (hf : f.isNamed = true) :
    settled.isNamed = true := by
  rw [FileDecl.isNamed] at hf ⊢
  simp only [Bool.and_eq_true] at hf ⊢
  obtain ⟨⟨⟨hpackage, hmessages⟩, henums⟩, hservices⟩ := hf
  obtain ⟨_, -, messages, hmessages', enums, henums', services, hservices', _, -, rfl⟩ :=
    settledFile_eq_ok_iff.mp h
  exact ⟨⟨⟨hpackage, areNamed_messages hmessages' hmessages⟩,
    all_of_forall₂ (mapM_eq_ok_iff.mp henums') (fun _ _ => isNamed_enum) henums⟩,
    all_of_forall₂ (mapM_eq_ok_iff.mp hservices') (fun _ _ => isNamed_service) hservices⟩

end Settled

/-- The pool of named files is named. -/
theorem isNamedPool_ofDecls {decls : List FileDecl} (hdecls : ∀ f ∈ decls, f.isNamed = true)
    {pool : Pool} (h : Pool.ofDecls decls = .ok pool) : IsNamedPool pool := by
  obtain ⟨files, _, settled, hfiles, -, hsettled, htypes⟩ := ofDecls_eq_ok h
  intro type htype
  obtain ⟨g, hg, catalog, all, before, -, hfile⟩ := exists_left_of_forall₂ htypes type htype
  obtain ⟨f, hf, -, s, hsettle⟩ := exists_left_of_forall₂ hsettled g hg
  obtain ⟨decl, hdecl, rfl, -⟩ := exists_left_of_forall₂ hfiles f hf
  exact isNamed_fileType (isNamed_file hsettle (hdecls f.1 hdecl)) hfile

end ProtoRest.Descriptor
