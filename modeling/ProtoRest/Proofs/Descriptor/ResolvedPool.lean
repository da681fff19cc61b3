import ProtoRest.Proofs.Descriptor.MessageHeads

/-! # Pools of resolved names
A name that is resolved is defined, and what is defined as a message or an enum is declared by some
file (`declares_of_mem_definitionsFrom`). Settling options and making types both keep the names of
messages and enums (`typeNames_of_settled`, `names_of_fileType`), so in a pool that was built every
name of a type stands for one (`isResolvedPool_ofDecls`). -/

namespace ProtoRest.Descriptor

open Result

/-! ## Resolved names -/

/-- Whether the name of a type of values stands for a type of the pool. -/
def Pool.resolves (p : Pool) : ValueType → Bool
  | .scalar _ => true
  | .enum name => (p.enum? name).isSome
  | .message name _ => (p.message? name).isSome

/-- A pool in which every name of a type stands for one. -/
structure IsResolvedPool (p : Pool) : Prop where
  /-- The types of fields do. -/
  fields : ∀ m ∈ p.messages, ∀ f ∈ m.fields, p.resolves f.type = true
  /-- What methods take and give back does. -/
  methods : ∀ file ∈ p.files, ∀ s ∈ file.services, ∀ m ∈ s.methods, ∀ name ∈ [m.input, m.output],
    (p.message? name).isSome = true

/-! ## Lookups -/

section Lookups

variable {v : View} {need : Need} {d : Definition}

/-- What is found under a full name is defined and of the needed kind. -/
theorem mem_of_lookupFull {name : String} (h : v.lookupFull need name = .found d) :
    d ∈ v.defs ∧ need.accepts d.role = true := by
  rw [View.lookupFull] at h
  split at h
  · cases h
  · rename_i found hfound
    split_ifs at h with hfile haccepts
    obtain rfl := Lookup.found.inj h
    exact ⟨List.mem_of_find?_eq_some hfound, haccepts⟩

/-- What is found first is what one of the lookups found. -/
theorem mem_of_firstFound {ls : List Lookup} (h : firstFound ls = .found d) : .found d ∈ ls := by
  induction ls with
  | nil => cases h
  | cons l ls ih =>
    cases l with
    | found d' =>
      rw [firstFound] at h
      obtain rfl := Lookup.found.inj h
      exact List.mem_cons_self
    | missing => exact List.mem_cons_of_mem _ (ih h)
    -- a name that was not found in one scope may be found in a later one
    | otherRole _ | notImported _ | hidden _ =>
      simp only [firstFound] at h
      split at h
      · rename_i hrest
        obtain rfl := Lookup.found.inj h
        exact List.mem_cons_of_mem _ (ih hrest)
      · cases h

/-- What is found from a scope is defined and of the needed kind. -/
theorem mem_of_lookup {scope name : String} (h : v.lookup need scope name = .found d) :
    d ∈ v.defs ∧ need.accepts d.role = true := by
  rw [View.lookup] at h
  -- a full name; or a name that stands outside all scopes, has one part, or has several parts
  split at h
  · exact mem_of_lookupFull h
  · split_ifs at h with hscope hparts
    · exact mem_of_lookupFull h
    · obtain ⟨s, -, h⟩ := List.mem_map.mp (mem_of_firstFound h)
      exact mem_of_lookupFull h
    · rw [View.lookupParts] at h
      split at h
      · cases h
      · split at h
        · cases h
        · exact mem_of_lookupFull h

/-- A name is resolved to a definition that meets the need. -/
theorem mem_of_resolve {scope name : String} (h : v.resolve need scope name = .ok d) :
    d ∈ v.defs ∧ need.accepts d.role = true := by
  rw [View.resolve] at h
  split at h
  · rename_i hfound
    obtain rfl := Except.ok.inj h
    exact mem_of_lookup hfound
  all_goals cases h

end Lookups

/-! ## Declared names -/

/-- The full names of the types that a file declares. -/
structure TypeNames where
  /-- Those of messages, each with those of the enums in it. -/
  messages : List (String × List String)
  /-- Those of the enums at the top. -/
  enums : List String

/-- The full names of a message and of the enums in it. -/
def headNames (m : String × MessageHead) : String × List String :=
  (m.1, m.2.enums.map fun e => inScope m.1 e.name)

/-- The full names of the types that a file declares. -/
def FileDecl.typeNames (f : FileDecl) : TypeNames where
  messages := (headsInAll f.package f.messages).map headNames
  enums := f.enums.map fun e => inScope f.package e.name

/-- The full names of the types of a file. -/
def FileType.typeNames (f : FileType) : TypeNames where
  messages := (flattenTrees f.messages).map fun m => (m.fullName, m.enums.map (·.fullName))
  enums := f.enums.map (·.fullName)

/-- What is defined as a message or an enum is named so. -/
structure TypeNames.Declares (names : TypeNames) (d : Definition) : Prop where
  /-- A message is one of the messages. -/
  message : d.role = .message → d.name ∈ names.messages.map (·.1)
  /-- An enum is one of the enums. -/
  enum : d.role = .enum → d.name ∈ names.messages.flatMap (·.2) ++ names.enums

namespace TypeNames.Declares

variable {names more : TypeNames} {d : Definition}

/-- A definition that is declared by names is declared by more of them. -/
theorem mono (h : names.Declares d) (hmessages : names.messages ⊆ more.messages)
    (henums : names.enums ⊆ more.enums) : more.Declares d := by
  refine ⟨fun hrole => List.map_subset _ hmessages (h.message hrole), fun hrole => ?_⟩
  rw [List.mem_append, List.mem_flatMap]
  obtain hd | hd := List.mem_append.mp (h.enum hrole)
  · obtain ⟨m, hm, hd⟩ := List.mem_flatMap.mp hd
    exact .inl ⟨m, hmessages hm, hd⟩
  · exact .inr (henums hd)

/-- A definition of another kind than messages and enums needs no name to declare it. -/
theorem of_role {role : Role} (h : d.role = role) (hmessage : role ≠ .message)
    (henum : role ≠ .enum) : names.Declares d :=
  ⟨fun h' => absurd (h.symm.trans h') hmessage, fun h' => absurd (h.symm.trans h') henum⟩

/-- A message is declared by its name. -/
theorem of_message (hrole : d.role = .message) (h : d.name ∈ names.messages.map (·.1)) :
    names.Declares d :=
  ⟨fun _ => h, fun h' => Role.noConfusion (hrole.symm.trans h')⟩

/-- An enum is declared by its name, in a message or in the file. -/
theorem of_enum (hrole : d.role = .enum) (h : d.name ∈ names.messages.flatMap (·.2) ++ names.enums) :
    names.Declares d :=
  ⟨fun h' => Role.noConfusion (hrole.symm.trans h'), fun _ => h⟩

end TypeNames.Declares

section Findings

variable {s : Source} {d : Definition}

/-- A finding that defines a name says its full name and its kind. -/
theorem eq_of_defines {scope name : String} {role : Role} (h : .defines d = s.defines scope name role) :
    d.name = inScope scope name ∧ d.role = role := by
  rw [Source.defines, Finding.defines.injEq] at h
  rw [h]
  exact ⟨rfl, rfl⟩

/-- Findings of one kind define names of this kind. -/
theorem role_of_mem_map_defines {α : Type} {scope : String} {role : Role} {as : List α}
    {name : α → String} (h : .defines d ∈ as.map fun a => s.defines scope (name a) role) :
    d.role = role := by
  obtain ⟨a, -, h⟩ := List.mem_map.mp h
  exact (eq_of_defines h.symm).2

/-- The names of fields are taken, but define nothing. -/
theorem not_defines_of_nameFindings {head : MessageHead} : .defines d ∉ head.nameFindings s := by
  intro h
  rw [MessageHead.nameFindings] at h
  split at h
  · cases h
  · split at h
    · cases h
    · cases List.mem_singleton.mp h

/-- What an enum defines is its own name or the name of a value. -/
theorem declares_of_mem_enum {names : TypeNames} {scope : String} {e : EnumDecl}
    (h : .defines d ∈ e.findings s scope)
    (he : inScope scope e.name ∈ names.messages.flatMap (·.2) ++ names.enums) :
    names.Declares d := by
  rw [EnumDecl.findings, List.cons_append, List.mem_cons, List.mem_append] at h
  obtain h | h | h := h
  · obtain ⟨hname, hrole⟩ := eq_of_defines h
    rw [← hname] at he
    exact .of_enum hrole he
  · split at h
    · cases List.mem_singleton.mp h
    · split_ifs at h
      · cases List.mem_singleton.mp h
      · cases h
  · exact .of_role (role_of_mem_map_defines h) (by decide) (by decide)

mutual

/-- What a message defines is declared by the messages in it and their enums. -/
theorem declares_of_mem_message : ∀ {m : MessageDecl} {scope : String},
    .defines d ∈ m.findings s scope → TypeNames.Declares ⟨(m.headsIn scope).map headNames, []⟩ d
  | .mk head nested, scope, h => by
    rw [MessageDecl.findings] at h
    rw [MessageDecl.headsIn, List.map_cons]
    simp only [List.mem_cons, List.mem_append, List.mem_flatMap] at h
    -- the message itself, its checks, choices, fields, messages, enums and extensions
    obtain h | ((((h | h) | h) | h) | ⟨e, he, h⟩) | h := h
    · obtain ⟨hname, hrole⟩ := eq_of_defines h
      exact .of_message hrole (by rw [hname]; exact List.mem_cons_self)
    · exact absurd h not_defines_of_nameFindings
    · exact .of_role (role_of_mem_map_defines h) (by decide) (by decide)
    · exact .of_role (role_of_mem_map_defines h) (by decide) (by decide)
    · exact (declares_of_mem_messages h).mono (List.subset_cons_self _ _) (List.Subset.refl _)
    · refine declares_of_mem_enum h (List.mem_append_left _ ?_)
      rw [List.flatMap_cons]
      exact List.mem_append_left _ (List.mem_map.mpr ⟨e, he, rfl⟩)
    · exact .of_role (role_of_mem_map_defines h) (by decide) (by decide)

/-- What messages define is declared by the messages in them and their enums. -/
theorem declares_of_mem_messages : ∀ {ms : List MessageDecl} {scope : String},
    .defines d ∈ nestedFindings s scope ms →
      TypeNames.Declares ⟨(headsInAll scope ms).map headNames, []⟩ d
  | [], scope, h => by
    rw [nestedFindings] at h
    cases h
  | m :: ms, scope, h => by
    rw [nestedFindings, List.mem_append] at h
    rw [headsInAll, List.map_append]
    obtain h | h := h
    · exact (declares_of_mem_message h).mono (List.subset_append_left _ _) (List.Subset.refl _)
    · exact (declares_of_mem_messages h).mono (List.subset_append_right _ _) (List.Subset.refl _)

end

end Findings

/-- What a file defines as a message or an enum is declared by it. -/
theorem declares_of_mem_findings {f : FileDecl} {edition : Edition} {d : Definition}
    (h : .defines d ∈ f.findings edition) : f.typeNames.Declares d := by
  rw [FileDecl.findings] at h
  simp only [List.mem_append, List.mem_flatMap] at h
  -- packages, messages, enums, services and extensions
  obtain (((h | h) | ⟨e, he, h⟩) | ⟨service, -, h⟩) | h := h
  · split_ifs at h
    · cases h
    · exact .of_role (role_of_mem_map_defines h) (by decide) (by decide)
  · exact (declares_of_mem_messages h).mono (List.Subset.refl _) (List.nil_subset _)
  · exact declares_of_mem_enum h (List.mem_append_right _ (List.mem_map.mpr ⟨e, he, rfl⟩))
  · rw [ServiceDecl.findings, List.mem_cons] at h
    obtain h | h := h
    · exact .of_role (eq_of_defines h).2 (by decide) (by decide)
    · exact .of_role (role_of_mem_map_defines h) (by decide) (by decide)
  · exact .of_role (role_of_mem_map_defines h) (by decide) (by decide)

/-! ## All definitions -/

/-- A definition that is added is the only new one. -/
theorem mem_of_define {defs more : List Definition} {d d' : Definition}
    (h : define defs d = .ok more) (hd' : d' ∈ more) : d' ∈ defs ∨ d' = d := by
  rw [define] at h
  split at h
  · obtain rfl := Except.ok.inj h
    rwa [List.mem_append, List.mem_singleton] at hd'
  · split_ifs at h
    obtain rfl := Except.ok.inj h
    exact .inl hd'

/-- Every definition is an old one or one of the findings. -/
theorem mem_of_addFindings {findings : List Finding} {defs more : List Definition} {d : Definition}
    (h : findings.foldlM addFinding defs = .ok more) (hd : d ∈ more) :
    d ∈ defs ∨ .defines d ∈ findings := by
  induction findings generalizing defs with
  | nil =>
    obtain rfl := pure_eq_ok_iff.mp h
    exact .inl hd
  | cons finding findings ih =>
    rw [List.foldlM_cons] at h
    obtain ⟨next, hnext, h⟩ := bind_eq_ok_iff.mp h
    obtain hd | hd := ih h
    · cases finding with
      | defines d' =>
        obtain hd | rfl := mem_of_define hnext hd
        · exact .inl hd
        · exact .inr List.mem_cons_self
      | wrong fault => cases hnext
    · exact .inr (List.mem_cons_of_mem _ hd)

/-- What is defined as a message or an enum is declared by one of the files. -/
theorem declares_of_mem_definitionsFrom {names : List String} {files : List (FileDecl × Edition)}
    {defs more : List Definition} (h : definitionsFrom names defs files = .ok more) {d : Definition}
    (hd : d ∈ more) : d ∈ defs ∨ ∃ f ∈ files, f.1.typeNames.Declares d := by
  induction files generalizing names defs with
  | nil =>
    obtain rfl := Except.ok.inj h
    exact .inl hd
  | cons f fs ih =>
    obtain ⟨-, next, hnext, h⟩ := definitionsFrom_cons_eq_ok h
    obtain hd | ⟨g, hg, hd⟩ := ih h
    · refine (mem_of_addFindings hnext hd).imp id fun hfinding => ?_
      exact ⟨f, List.mem_cons_self, declares_of_mem_findings hfinding⟩
    · exact .inr ⟨g, List.mem_cons_of_mem _ hg, hd⟩

/-! ## Settled names -/

section Settled

variable {s : Settler} {scope : String}

/-- Settling enums keeps their names. -/
theorem names_of_settled_enums {es settled : List EnumDecl} (h : es.mapM (s.enum scope) = .ok settled) :
    settled.map (fun e => inScope scope e.name) = es.map fun e => inScope scope e.name := by
  refine map_eq_of_forall₂ (mapM_eq_ok_iff.mp h) fun e e' he => ?_
  obtain ⟨_, -, _, -, rfl⟩ := settledEnum_eq_ok_iff.mp he
  rfl

/-- Settling messages keeps the names of all messages and enums in them. -/
theorem headNames_of_messages {ms settled : List MessageDecl}
    (h : s.messages scope ms = .ok settled) :
    (headsInAll scope settled).map headNames = (headsInAll scope ms).map headNames := by
  refine map_eq_of_forall₂ (heads_of_settled_messages h) fun m settled hm => ?_
  rw [headNames, headNames, hm.name, names_of_settled_enums hm.enums]

/-- Settling options keeps the names of the types. -/
theorem typeNames_of_settled {f settled : FileDecl} (h : s.file f = .ok settled) :
    settled.typeNames = f.typeNames := by
  obtain ⟨_, -, messages, hmessages, enums, henums, _, -, _, -, rfl⟩ := settledFile_eq_ok_iff.mp h
  rw [FileDecl.typeNames, FileDecl.typeNames, headNames_of_messages hmessages,
    names_of_settled_enums henums]

end Settled

/-! ## Names in types -/

/-- A name is defined in a role. -/
def Defines (defs : List Definition) (role : Role) (name : String) : Prop :=
  ∃ d ∈ defs, d.name = name ∧ d.role = role

/-- The name of a type of values is defined. -/
def DefinesType (defs : List Definition) : ValueType → Prop
  | .scalar _ => True
  | .enum name => Defines defs .enum name
  | .message name _ => Defines defs .message name

/-- Every name of a type in a file is defined. -/
structure IsDefinedFile (defs : List Definition) (f : FileType) : Prop where
  /-- Those of the types of fields are. -/
  fields : ∀ m ∈ flattenTrees f.messages, ∀ field ∈ m.fields, DefinesType defs field.type
  /-- Those of what methods take and give back are. -/
  methods : ∀ s ∈ f.services, ∀ m ∈ s.methods, ∀ name ∈ [m.input, m.output],
    Defines defs .message name

section Types

variable {p : Place} {scope : String} {path : List Int}

/-- A message that a name resolves to is defined. -/
theorem defines_of_resolve {v : View} {name : String} {d : Definition}
    (h : v.resolve .message scope name = .ok d) : Defines v.defs .message d.name := by
  obtain ⟨hd, haccepts⟩ := mem_of_resolve h
  refine ⟨d, hd, rfl, ?_⟩
  cases hrole : d.role with
  | message => rfl
  | _ =>
    rw [hrole] at haccepts
    cases haccepts

/-- The message or enum that the type of a field refers to is defined. -/
theorem definesType_of_valueType {f : FieldDecl} {type : ValueType}
    (h : valueType p scope path f = .ok type) : DefinesType p.view.defs type := by
  rw [valueType] at h
  split at h
  · dsimp only at h
    split_ifs at h
    obtain rfl := Except.ok.inj h
    trivial
  · obtain ⟨d, hresolve, h⟩ := bind_eq_ok_iff.mp h
    obtain rfl := pure_eq_ok_iff.mp h
    obtain ⟨hd, haccepts⟩ := mem_of_resolve hresolve
    split_ifs with henum
    · exact ⟨d, hd, rfl, henum⟩
    -- what is not an enum is a message: nothing else meets the need
    · refine ⟨d, hd, rfl, ?_⟩
      cases hrole : d.role with
      | message => rfl
      | enum => exact absurd hrole henum
      | _ =>
        rw [hrole] at haccepts
        cases haccepts

/-- Enums are built under their full names, in order. -/
theorem fullNames_of_enumTypes {es : List EnumDecl} {types : List EnumType}
    (h : es.mapM (enumType p scope) = .ok types) :
    types.map (·.fullName) = es.map fun e => inScope scope e.name :=
  map_eq_of_forall₂ (mapM_eq_ok_iff.mp h) fun _ _ he => (enumType_eq_ok he).1

/-- Messages are built under the names of the messages in them and of their enums, in order. -/
theorem names_of_messageTrees {ms : List MessageDecl} {index : Nat} {trees : List MessageTree}
    {extensions : List ExtensionType}
    (h : messageTrees p scope path index ms = .ok (trees, extensions)) :
    (flattenTrees trees).map (fun type => (type.fullName, type.enums.map (·.fullName))) =
      (headsInAll scope ms).map headNames := by
  refine map_eq_of_forall₂ (heads_of_messageTrees h) fun m type hm => ?_
  rw [headNames, hm.name, fullNames_of_enumTypes hm.enums]

/-- Every field of a message that is built refers to what is defined. -/
theorem definesType_of_messageTrees {ms : List MessageDecl} {index : Nat} {trees : List MessageTree}
    {extensions : List ExtensionType}
    (h : messageTrees p scope path index ms = .ok (trees, extensions)) :
    ∀ type ∈ flattenTrees trees, ∀ f ∈ type.fields, DefinesType p.view.defs f.type := by
  intro type htype f hf
  obtain ⟨m, -, hm⟩ := exists_left_of_forall₂ (heads_of_messageTrees h) type htype
  obtain ⟨_, fields, hfields, hbyNumber⟩ := hm.fields
  rw [hbyNumber, mem_byNumber] at hf
  obtain ⟨_, -, _, _, hf⟩ := exists_left_of_forall₂ (fieldTypes_eq_ok hfields) f hf
  exact definesType_of_valueType (fieldType_eq_ok hf).2.1

/-- The messages of every method that is built are defined. -/
theorem defines_of_serviceType {s : ServiceDecl} {type : ServiceType} (h : serviceType p s = .ok type) :
    ∀ m ∈ type.methods, ∀ name ∈ [m.input, m.output], Defines p.view.defs .message name := by
  intro m hm
  obtain ⟨decl, -, hmethod⟩ := exists_left_of_forall₂ (serviceType_eq_ok h).2 m hm
  obtain ⟨-, -, input, output, hinput, houtput, hin, hout⟩ := methodType_eq_ok hmethod
  rw [List.forall_mem_cons, List.forall_mem_singleton, hin, hout]
  exact ⟨defines_of_resolve hinput, defines_of_resolve houtput⟩

end Types

/-- The types of a file have the names that it declares, and every name in them is defined. -/
theorem names_of_fileType {catalog : Catalog} {files before : List FileDecl} {f : FileDecl}
    {edition : Edition} {type : FileType}
    (h : fileType catalog files before f edition = .ok type) :
    type.typeNames = f.typeNames ∧ IsDefinedFile catalog.defs type := by
  obtain ⟨p, _, _, -, -, hview, hmessages, henums, hservices, -⟩ := fileType_eq_ok h
  have hdefs : p.view.defs = catalog.defs := congrArg View.defs hview
  rw [← hdefs]
  refine ⟨?_, definesType_of_messageTrees hmessages, fun s hs => ?_⟩
  · rw [FileType.typeNames, FileDecl.typeNames, names_of_messageTrees hmessages,
      fullNames_of_enumTypes henums]
  · obtain ⟨decl, -, hs⟩ := exists_left_of_forall₂ (mapM_eq_ok_iff.mp hservices) s hs
    exact defines_of_serviceType hs

/-! ## Pools -/

section Pools

variable {pool : Pool}

/-- A pool has every message that a file of it declares. -/
theorem isSome_message?_of_declares {f : FileType} (hf : f ∈ pool.files) {d : Definition}
    (hdeclares : f.typeNames.Declares d) (hrole : d.role = .message) :
    (pool.message? d.name).isSome = true := by
  have hd := hdeclares.message hrole
  rw [FileType.typeNames, List.map_map] at hd
  obtain ⟨m, hm, hname⟩ := List.mem_map.mp hd
  rw [Pool.message?, List.find?_isSome]
  exact ⟨m, List.mem_flatMap.mpr ⟨f, hf, hm⟩, beq_iff_eq.mpr hname⟩

/-- A pool has every enum that a file of it declares. -/
theorem isSome_enum?_of_declares {f : FileType} (hf : f ∈ pool.files) {d : Definition}
    (hdeclares : f.typeNames.Declares d) (hrole : d.role = .enum) :
    (pool.enum? d.name).isSome = true := by
  have hmem {e : EnumType} (he : e ∈ f.enums ∨ ∃ m ∈ flattenTrees f.messages, e ∈ m.enums)
      (hname : e.fullName = d.name) : (pool.enum? d.name).isSome = true := by
    rw [Pool.enum?, List.find?_isSome]
    refine ⟨e, List.mem_flatMap.mpr ⟨f, hf, ?_⟩, beq_iff_eq.mpr hname⟩
    rwa [List.mem_append, List.mem_flatMap]
  obtain hd | hd := List.mem_append.mp (hdeclares.enum hrole)
  · obtain ⟨names, hnames, hd⟩ := List.mem_flatMap.mp hd
    obtain ⟨m, hm, rfl⟩ := List.mem_map.mp hnames
    obtain ⟨e, he, hname⟩ := List.mem_map.mp hd
    exact hmem (.inr ⟨m, hm, he⟩) hname
  · obtain ⟨e, he, hname⟩ := List.mem_map.mp hd
    exact hmem (.inl he) hname

/-- A pool whose names are defined and whose files declare what is defined is resolved. -/
theorem isResolvedPool_of_declares {defs : List Definition}
    (hdeclares : ∀ d ∈ defs, ∃ f ∈ pool.files, f.typeNames.Declares d)
    (hdefined : ∀ f ∈ pool.files, IsDefinedFile defs f) : IsResolvedPool pool := by
  have hmessage {name : String} (h : Defines defs .message name) :
      (pool.message? name).isSome = true := by
    obtain ⟨d, hd, rfl, hrole⟩ := h
    obtain ⟨f, hf, hdeclares⟩ := hdeclares d hd
    exact isSome_message?_of_declares hf hdeclares hrole
  -- a name is defined, some file declares its definition, and that file has the type
  constructor
  · intro m hm f hf
    obtain ⟨file, hfile, hm⟩ := List.mem_flatMap.mp hm
    have hdefines := (hdefined file hfile).fields m hm f hf
    cases htype : f.type with
    | scalar type => rfl
    | enum name =>
      rw [htype] at hdefines
      obtain ⟨d, hd, rfl, hrole⟩ := hdefines
      obtain ⟨g, hg, hdeclares⟩ := hdeclares d hd
      exact isSome_enum?_of_declares hg hdeclares hrole
    | message name grouped =>
      rw [htype] at hdefines
      exact hmessage hdefines
  · intro file hfile s hs m hm name hname
    exact hmessage ((hdefined file hfile).methods s hs m hm name hname)

end Pools

/-- In a pool that was built, every name of a type stands for one. -/
theorem isResolvedPool_ofDecls {decls : List FileDecl} {pool : Pool}
    (h : Pool.ofDecls decls = .ok pool) : IsResolvedPool pool := by
  obtain ⟨files, defs, settled, -, hdefs, hsettled, htypes⟩ := ofDecls_eq_ok h
  refine isResolvedPool_of_declares (fun d (hd : d ∈ defs) => ?_) fun type htype => ?_
  · obtain hd | ⟨f, hf, hdeclares⟩ := declares_of_mem_definitionsFrom hdefs hd
    · cases hd
    · obtain ⟨g, hg, -, s, hsettle⟩ := exists_right_of_forall₂ hsettled f hf
      obtain ⟨type, htype, catalog, all, before, -, hfile⟩ := exists_right_of_forall₂ htypes g hg
      -- neither settling options nor making types changes the names
      rw [← typeNames_of_settled hsettle, ← (names_of_fileType hfile).1] at hdeclares
      exact ⟨type, htype, hdeclares⟩
  · obtain ⟨g, -, catalog, all, before, rfl, hfile⟩ := exists_left_of_forall₂ htypes type htype
    exact (names_of_fileType hfile).2

end ProtoRest.Descriptor
