import Mathlib.Tactic.SplitIfs
import ProtoRest.Descriptor.Complete
import ProtoRest.Descriptor.Origin
import ProtoRest.Proofs.Related
import ProtoRest.Proofs.Result

/-! # Steps of building a pool
What each step from declarations to the types of a pool has done when it succeeds: the types of an
enum, a message, a service and a file, the settled declarations of each, and the whole pool
(`ofDecls_eq_ok`). What is proved about pools rests on these. -/

namespace ProtoRest.Descriptor

open Result

/-! ## Order of fields and values -/

/-- A field is put among the others, and none is lost. -/
theorem perm_insertField (f : FieldType) (fs : List FieldType) : (insertField f fs).Perm (f :: fs) := by
  induction fs with
  | nil => exact .refl _
  | cons g gs ih =>
    rw [insertField]
    split_ifs
    · exact .refl _
    · exact (ih.cons g).trans (.swap f g gs)

/-- Fields are sorted by number, and none is lost. -/
theorem perm_byNumber (fs : List FieldType) : (byNumber fs).Perm fs := by
  rw [byNumber]
  induction fs with
  | nil => exact .refl _
  | cons f fs ih => exact (perm_insertField f _).trans (ih.cons f)

/-- A sorted list has the fields of the list. -/
theorem mem_byNumber {g : FieldType} {fs : List FieldType} : g ∈ byNumber fs ↔ g ∈ fs :=
  (perm_byNumber fs).mem_iff

/-- A value is put among the others, and none is lost. -/
theorem perm_insertValue (v : EnumValueType) (vs : List EnumValueType) :
    (insertValue v vs).Perm (v :: vs) := by
  induction vs with
  | nil => exact .refl _
  | cons w ws ih =>
    rw [insertValue]
    split_ifs
    · exact (ih.cons w).trans (.swap v w ws)
    · exact (ih.cons w).trans (.swap v w ws)
    · exact .refl _

/-- Values are put among others one by one, and none is lost. -/
theorem perm_sortedValues (vs sorted : List EnumValueType) :
    (vs.foldl (fun sorted v => insertValue v sorted) sorted).Perm (vs ++ sorted) := by
  induction vs generalizing sorted with
  | nil => exact .refl _
  | cons v vs ih =>
    rw [List.foldl_cons]
    exact (ih _).trans (((perm_insertValue v sorted).append_left vs).trans List.perm_middle)

/-! ## Types -/

section Types

variable {p : Place} {scope : String} {path : List Int}

/-- An enum that is built has its full name, its package and its declared values in some order. -/
theorem enumType_eq_ok {e : EnumDecl} {type : EnumType} (h : enumType p scope e = .ok type) :
    type.fullName = inScope scope e.name ∧ type.package = p.package ∧
      type.values.Perm (e.values.map fun v => .mk v.name (inScope scope v.name) v.number v.options) := by
  rw [enumType] at h
  obtain ⟨_, -, h⟩ := bind_eq_ok_iff.mp h
  obtain rfl := pure_eq_ok_iff.mp h
  exact ⟨rfl, rfl, (perm_sortedValues _ []).trans (.of_eq (List.append_nil _))⟩

/-- A field is built in a choice exactly when it is declared in one. -/
theorem oneofOf_eq_ok {oneofs : List OneofDecl} {f : FieldDecl} {oneof : Option String}
    (h : oneofOf oneofs f = .ok oneof) : oneof.isSome = f.oneof.isSome := by
  rw [oneofOf] at h
  split at h
  · obtain rfl := Except.ok.inj h
    simp [*]
  · split at h
    · cases h
    · obtain rfl := Except.ok.inj h
      simp [*]

/-- A field that is built has the declared name, the type that it refers to and the presence that
follows from both. -/
theorem fieldType_eq_ok {fullName message : String} {head : MessageHead} {f : FieldDecl}
    {type : FieldType} (h : fieldType p fullName path message head f = .ok type) :
    type.name = f.name ∧ valueType p fullName path f = .ok type.type ∧
      type.presence = type.hasPresence p.edition := by
  rw [fieldType] at h
  obtain ⟨_, -, h⟩ := bind_eq_ok_iff.mp h
  obtain ⟨valueType, hvalueType, h⟩ := bind_eq_ok_iff.mp h
  obtain ⟨default, -, h⟩ := bind_eq_ok_iff.mp h
  obtain ⟨oneof, honeof, h⟩ := bind_eq_ok_iff.mp h
  obtain rfl := pure_eq_ok_iff.mp h
  refine ⟨rfl, hvalueType, ?_⟩
  rw [FieldType.hasPresence, oneofOf_eq_ok honeof]
  rfl

/-- The fields of a message are built one after the other, each at its place. -/
theorem fieldTypes_cons_eq_ok {head : MessageHead} {before fs : List FieldDecl} {f : FieldDecl}
    {types : List FieldType} (h : fieldTypes p scope path head before (f :: fs) = .ok types) :
    ∃ type more, fieldType p (inScope scope f.name) (path ++ [2, (before.length : Int)]) scope head f =
        .ok type ∧
      fieldTypes p scope path head (f :: before) fs = .ok more ∧ types = type :: more := by
  rw [fieldTypes] at h
  obtain ⟨type, htype, h⟩ := bind_eq_ok_iff.mp h
  obtain ⟨_, -, h⟩ := bind_eq_ok_iff.mp h
  obtain ⟨more, hmore, h⟩ := bind_eq_ok_iff.mp h
  exact ⟨type, more, htype, hmore, (pure_eq_ok_iff.mp h).symm⟩

/-- The fields of a message are made one by one. -/
theorem fieldTypes_eq_ok {head : MessageHead} {before fs : List FieldDecl} {types : List FieldType}
    (h : fieldTypes p scope path head before fs = .ok types) :
    List.Forall₂ (fun f type => ∃ fullName path,
      fieldType p fullName path scope head f = .ok type) fs types := by
  induction fs generalizing before types with
  | nil =>
    obtain rfl := Except.ok.inj h
    exact .nil
  | cons f fs ih =>
    obtain ⟨type, more, htype, hmore, rfl⟩ := fieldTypes_cons_eq_ok h
    exact .cons ⟨_, _, htype⟩ (ih hmore)

/-- A message is built from its fields, the messages in it, its enums and its extensions. -/
theorem messageTree_eq_ok {head : MessageHead} {nested : List MessageDecl} {tree : MessageTree}
    {extensions : List ExtensionType}
    (h : messageTree p scope path (.mk head nested) = .ok (tree, extensions)) :
    ∃ fields trees inTrees enums own,
      fieldTypes p (inScope scope head.name) path head [] head.fields = .ok fields ∧
      messageTrees p (inScope scope head.name) (path ++ [3]) 0 nested = .ok (trees, inTrees) ∧
      head.enums.mapM (enumType p (inScope scope head.name)) = .ok enums ∧
      extensionTypes p (inScope scope head.name) (path ++ [6]) 0 head.extensions = .ok own ∧
      tree = .mk
        { name := head.name
          fullName := inScope scope head.name
          package := p.package
          fields := byNumber fields
          oneofs := oneofMembers head fields
          enums
          mapEntry := head.mapEntry } trees ∧
      extensions = inTrees ++ own := by
  rw [messageTree] at h
  obtain ⟨fields, hfields, h⟩ := bind_eq_ok_iff.mp h
  obtain ⟨⟨trees, inTrees⟩, htrees, h⟩ := bind_eq_ok_iff.mp h
  obtain ⟨enums, henums, h⟩ := bind_eq_ok_iff.mp h
  obtain ⟨own, hown, h⟩ := bind_eq_ok_iff.mp h
  -- every step gave a result, and the last one puts them together
  obtain ⟨rfl, rfl⟩ := Prod.ext_iff.mp (pure_eq_ok_iff.mp h)
  exact ⟨fields, trees, inTrees, enums, own, hfields, htrees, henums, hown, rfl, rfl⟩

/-- Messages are built one after the other, each at its place. -/
theorem messageTrees_cons_eq_ok {m : MessageDecl} {ms : List MessageDecl} {index : Nat}
    {trees : List MessageTree} {extensions : List ExtensionType}
    (h : messageTrees p scope path index (m :: ms) = .ok (trees, extensions)) :
    ∃ tree more inTree inMore, messageTree p scope (path ++ [(index : Int)]) m = .ok (tree, inTree) ∧
      messageTrees p scope path (index + 1) ms = .ok (more, inMore) ∧ trees = tree :: more ∧
        extensions = inTree ++ inMore := by
  rw [messageTrees] at h
  obtain ⟨⟨tree, inTree⟩, htree, h⟩ := bind_eq_ok_iff.mp h
  obtain ⟨⟨more, inMore⟩, hmore, h⟩ := bind_eq_ok_iff.mp h
  obtain ⟨rfl, rfl⟩ := Prod.ext_iff.mp (pure_eq_ok_iff.mp h)
  exact ⟨tree, more, inTree, inMore, htree, hmore, rfl, rfl⟩

/-- A method that is built has the declared name and options, and refers to messages that are seen
from it. -/
theorem methodType_eq_ok {m : MethodDecl} {type : MethodType} (h : methodType p scope m = .ok type) :
    type.name = m.name ∧ type.options = m.options ∧ ∃ input output : Definition,
      p.view.resolve .message (inScope scope m.name) m.input = .ok input ∧
      p.view.resolve .message (inScope scope m.name) m.output = .ok output ∧
      type.input = input.name ∧ type.output = output.name := by
  rw [methodType] at h
  obtain ⟨input, hinput, h⟩ := bind_eq_ok_iff.mp h
  obtain ⟨output, houtput, h⟩ := bind_eq_ok_iff.mp h
  obtain rfl := pure_eq_ok_iff.mp h
  exact ⟨rfl, rfl, input, output, hinput, houtput, rfl, rfl⟩

/-- A service that is built has the declared name, and the methods are built one by one. -/
theorem serviceType_eq_ok {s : ServiceDecl} {type : ServiceType} (h : serviceType p s = .ok type) :
    type.name = s.name ∧ List.Forall₂ (fun m type =>
      methodType p (inScope p.package s.name) m = .ok type) s.methods type.methods := by
  rw [serviceType] at h
  obtain ⟨methods, hmethods, h⟩ := bind_eq_ok_iff.mp h
  obtain rfl := pure_eq_ok_iff.mp h
  exact ⟨rfl, mapM_eq_ok_iff.mp hmethods⟩

end Types

/-- The types of a file are made in a place that sees the definitions. -/
theorem fileType_eq_ok {catalog : Catalog} {files before : List FileDecl} {f : FileDecl}
    {edition : Edition} {type : FileType}
    (h : fileType catalog files before f edition = .ok type) :
    ∃ (p : Place) (inMessages own : List ExtensionType), p.package = f.package ∧
      p.edition = edition ∧ p.view = viewOf before catalog.defs f ∧
      messageTrees p f.package [4] 0 f.messages = .ok (type.messages, inMessages) ∧
      f.enums.mapM (enumType p f.package) = .ok type.enums ∧
      f.services.mapM (serviceType p) = .ok type.services ∧
      extensionTypes p f.package [7] 0 f.extensions = .ok own ∧
      type.name = f.name ∧ type.extensions = inMessages ++ own := by
  rw [fileType] at h
  obtain ⟨_, -, h⟩ := bind_eq_ok_iff.mp h
  obtain ⟨⟨messages, inMessages⟩, hmessages, h⟩ := bind_eq_ok_iff.mp h
  obtain ⟨enums, henums, h⟩ := bind_eq_ok_iff.mp h
  obtain ⟨services, hservices, h⟩ := bind_eq_ok_iff.mp h
  obtain ⟨own, hown, h⟩ := bind_eq_ok_iff.mp h
  obtain rfl := pure_eq_ok_iff.mp h
  exact ⟨_, inMessages, own, rfl, rfl, rfl, hmessages, henums, hservices, hown, rfl, rfl⟩

/-- Files are built one after the other, each behind those before it. -/
theorem fileTypes_cons_eq_ok {catalog : Catalog} {all before : List FileDecl} {f : FileDecl × Edition}
    {fs : List (FileDecl × Edition)} {types : List FileType}
    (h : fileTypes catalog all before (f :: fs) = .ok types) :
    ∃ type more, fileType catalog all before f.1 f.2 = .ok type ∧
      fileTypes catalog all (before ++ [f.1]) fs = .ok more ∧ types = type :: more := by
  obtain ⟨f, edition⟩ := f
  rw [fileTypes] at h
  obtain ⟨type, htype, h⟩ := bind_eq_ok_iff.mp h
  obtain ⟨more, hmore, h⟩ := bind_eq_ok_iff.mp h
  exact ⟨type, more, htype, hmore, (pure_eq_ok_iff.mp h).symm⟩

/-- The files of a pool are built one by one over the same definitions. -/
theorem ofFiles_eq_ok {defs : List Definition} {files : List (FileDecl × Edition)} {pool : Pool}
    (h : Pool.ofFiles defs files = .ok pool) :
    List.Forall₂ (fun f type => ∃ catalog all before, catalog.defs = defs ∧
      fileType catalog all before f.1 f.2 = .ok type) files pool.files := by
  -- the files before grow along the list, so the induction is for any files before it
  have hfiles (catalog : Catalog) (all before : List FileDecl) (fs : List (FileDecl × Edition))
      (types : List FileType) (h : fileTypes catalog all before fs = .ok types) :
      List.Forall₂ (fun f type => ∃ before, fileType catalog all before f.1 f.2 = .ok type)
        fs types := by
    induction fs generalizing before types with
    | nil =>
      obtain rfl := Except.ok.inj h
      exact .nil
    | cons f fs ih =>
      obtain ⟨type, more, htype, hmore, rfl⟩ := fileTypes_cons_eq_ok h
      exact .cons ⟨before, htype⟩ (ih _ _ hmore)
  rw [Pool.ofFiles] at h
  obtain ⟨types, htypes, h⟩ := bind_eq_ok_iff.mp h
  obtain rfl := pure_eq_ok_iff.mp h
  refine (hfiles _ _ _ _ _ htypes).imp ?_
  rintro f type ⟨before, htype⟩
  exact ⟨_, _, before, rfl, htype⟩

/-! ## What a file sees -/

/-- What a file imports, and its name. -/
def FileDecl.links (f : FileDecl) : String × List String × List Int :=
  (f.name, f.imports, f.publicImports)

section Links

variable {files files' : List FileDecl}

/-- The names and the imports of files decide which of them are reached. -/
theorem reach_congr (h : files'.map FileDecl.links = files.map FileDecl.links) (steps : Nat)
    (names : List String) : reach files' steps names = reach files steps names := by
  have hpassed (name : String) : (files'.find? (·.name == name)).map FileDecl.links =
      (files.find? (·.name == name)).map FileDecl.links := by
    have hfind (files : List FileDecl) : (files.find? (·.name == name)).map FileDecl.links =
        (files.map FileDecl.links).find? (·.1 == name) := by
      rw [List.find?_map]
      rfl
    rw [hfind, hfind, h]
  induction steps generalizing names with
  | zero => rfl
  | succ steps ih =>
    rw [reach, reach, ih]
    refine congrArg (fun more : List String => reach files steps
      (names ++ more.eraseDups.filter (!names.contains ·))) ?_
    refine congrArg (names.flatMap ·) (funext fun name => ?_)
    have hname := hpassed name
    generalize files'.find? (·.name == name) = f' at hname
    generalize files.find? (·.name == name) = f at hname
    cases f <;> cases f' <;> simp_all [FileDecl.links, FileDecl.passedOn]

/-- What a file sees does not change with anything else. -/
theorem viewOf_congr (h : files'.map FileDecl.links = files.map FileDecl.links)
    (defs : List Definition) {f f' : FileDecl} (hf : f'.links = f.links) :
    viewOf files' defs f' = viewOf files defs f := by
  simp only [FileDecl.links, Prod.mk.injEq] at hf
  have hlength : files'.length = files.length := by
    simpa using congrArg List.length h
  rw [viewOf, viewOf, reach_congr h, hlength, hf.1, hf.2.1]

end Links

/-! ## Settled declarations -/

section Settled

variable {s : Settler} {scope : String}

/-- A field is settled with its options, and nothing else changes. -/
theorem settledField_eq_ok_iff {f settled : FieldDecl} : s.field scope f = .ok settled ↔
    ∃ options, s.options .field (inScope scope f.name) f.options = .ok options ∧
      { f with options } = settled := by
  simp only [Settler.field, bind_eq_ok_iff, pure_eq_ok_iff]

/-- A choice is settled with its options, and nothing else changes. -/
theorem settledOneof_eq_ok_iff {o settled : OneofDecl} : s.oneof scope o = .ok settled ↔
    ∃ options, s.options .oneof (inScope scope o.name) o.options = .ok options ∧
      { o with options } = settled := by
  simp only [Settler.oneof, bind_eq_ok_iff, pure_eq_ok_iff]

/-- A value of an enum is settled with its options, and nothing else changes. -/
theorem settledEnumValue_eq_ok_iff {v settled : EnumValueDecl} : s.enumValue scope v = .ok settled ↔
    ∃ options, s.options .enumValue (inScope scope v.name) v.options = .ok options ∧
      { v with options } = settled := by
  simp only [Settler.enumValue, bind_eq_ok_iff, pure_eq_ok_iff]

/-- An enum is settled with its options and its values. -/
theorem settledEnum_eq_ok_iff {e settled : EnumDecl} : s.enum scope e = .ok settled ↔
    ∃ options, s.options .enum (inScope scope e.name) e.options = .ok options ∧
    ∃ values, e.values.mapM (s.enumValue scope) = .ok values ∧ { e with options, values } = settled := by
  simp only [Settler.enum, bind_eq_ok_iff, pure_eq_ok_iff]

/-- A method is settled with its options, and nothing else changes. -/
theorem settledMethod_eq_ok_iff {m settled : MethodDecl} : s.method scope m = .ok settled ↔
    ∃ options, s.options .method (inScope scope m.name) m.options = .ok options ∧
      { m with options } = settled := by
  simp only [Settler.method, bind_eq_ok_iff, pure_eq_ok_iff]

/-- A service is settled with its options and its methods. -/
theorem settledService_eq_ok_iff {d settled : ServiceDecl} : s.service scope d = .ok settled ↔
    ∃ options, s.options .service (inScope scope d.name) d.options = .ok options ∧
    ∃ methods, d.methods.mapM (s.method (inScope scope d.name)) = .ok methods ∧
      { d with options, methods } = settled := by
  simp only [Settler.service, bind_eq_ok_iff, pure_eq_ok_iff]

/-- A message is settled with its options and all that is declared in it. -/
theorem settledMessage_eq_ok_iff {head : MessageHead} {nested : List MessageDecl}
    {settled : MessageDecl} : s.message scope (.mk head nested) = .ok settled ↔
    ∃ options, s.options .message (inScope scope head.name) head.options = .ok options ∧
    ∃ extensible, head.extensible.mapM (s.extensionRange (inScope scope head.name)) = .ok extensible ∧
    ∃ oneofs, head.oneofs.mapM (s.oneof (inScope scope head.name)) = .ok oneofs ∧
    ∃ fields, head.fields.mapM (s.field (inScope scope head.name)) = .ok fields ∧
    ∃ messages, s.messages (inScope scope head.name) nested = .ok messages ∧
    ∃ enums, head.enums.mapM (s.enum (inScope scope head.name)) = .ok enums ∧
    ∃ extensions, head.extensions.mapM (s.field (inScope scope head.name)) = .ok extensions ∧
      .mk { head with options, extensible, oneofs, fields, enums, extensions } messages = settled := by
  simp only [Settler.message, bind_eq_ok_iff, pure_eq_ok_iff]

/-- Where there are no messages, none is settled. -/
theorem settledMessages_nil_eq_ok_iff {settled : List MessageDecl} :
    s.messages scope [] = .ok settled ↔ [] = settled := by
  rw [Settler.messages, Except.ok.injEq]

/-- Messages are settled one after the other. -/
theorem settledMessages_cons_eq_ok_iff {m : MessageDecl} {ms settled : List MessageDecl} :
    s.messages scope (m :: ms) = .ok settled ↔
      ∃ first, s.message scope m = .ok first ∧ ∃ more, s.messages scope ms = .ok more ∧
        first :: more = settled := by
  simp only [Settler.messages, bind_eq_ok_iff, pure_eq_ok_iff]

/-- A file is settled with its options and all that is declared in it. -/
theorem settledFile_eq_ok_iff {f settled : FileDecl} : s.file f = .ok settled ↔
    ∃ options, s.options .file f.package f.options = .ok options ∧
    ∃ messages, s.messages f.package f.messages = .ok messages ∧
    ∃ enums, f.enums.mapM (s.enum f.package) = .ok enums ∧
    ∃ services, f.services.mapM (s.service f.package) = .ok services ∧
    ∃ extensions, f.extensions.mapM (s.field f.package) = .ok extensions ∧
      { f with options, messages, enums, services, extensions } = settled := by
  simp only [Settler.file, bind_eq_ok_iff, pure_eq_ok_iff]

end Settled

/-- Files are settled one after the other, each with what it sees of those before it. -/
theorem settleFiles_cons_eq_ok {pool : Pool} {defs : List Definition} {before : List FileDecl}
    {f : FileDecl × Edition} {fs settled : List (FileDecl × Edition)}
    (h : settleFiles pool defs before (f :: fs) = .ok settled) :
    ∃ first more, Settler.file ⟨pool, viewOf before defs f.1⟩ f.1 = .ok first ∧
      settleFiles pool defs (before ++ [f.1]) fs = .ok more ∧ settled = (first, f.2) :: more := by
  obtain ⟨f, edition⟩ := f
  rw [settleFiles] at h
  obtain ⟨first, hfirst, h⟩ := bind_eq_ok_iff.mp h
  obtain ⟨more, hmore, h⟩ := bind_eq_ok_iff.mp h
  exact ⟨first, more, hfirst, hmore, (pure_eq_ok_iff.mp h).symm⟩

/-- Files are settled one by one, in their editions. -/
theorem settleFiles_eq_ok {pool : Pool} {defs : List Definition} {before : List FileDecl}
    {files settled : List (FileDecl × Edition)}
    (h : settleFiles pool defs before files = .ok settled) :
    List.Forall₂ (fun f g => g.2 = f.2 ∧ ∃ s : Settler, s.file f.1 = .ok g.1) files settled := by
  induction files generalizing before settled with
  | nil =>
    obtain rfl := Except.ok.inj h
    exact .nil
  | cons f fs ih =>
    obtain ⟨first, more, hfirst, hmore, rfl⟩ := settleFiles_cons_eq_ok h
    exact .cons ⟨rfl, _, hfirst⟩ (ih hmore)

/-! ## Definitions -/

/-- The names of a file are taken when no file before it is called alike and no name is taken twice.
-/
theorem definitionsFrom_cons_eq_ok {names : List String} {defs more : List Definition}
    {f : FileDecl × Edition} {fs : List (FileDecl × Edition)}
    (h : definitionsFrom names defs (f :: fs) = .ok more) :
    f.1.name ∉ names ∧ ∃ next, (f.1.findings f.2).foldlM addFinding defs = .ok next ∧
      definitionsFrom (f.1.name :: names) next fs = .ok more := by
  obtain ⟨f, edition⟩ := f
  rw [definitionsFrom] at h
  split_ifs at h with hseen
  obtain ⟨next, hnext, h⟩ := bind_eq_ok_iff.mp h
  exact ⟨hseen, next, hnext, h⟩

/-! ## Pools -/

/-- Every file is declared in an edition. -/
theorem editions_eq_some_iff {decls : List FileDecl} {files : List (FileDecl × Edition)} :
    decls.mapM (fun f => f.edition?.map (f, ·)) = some files ↔
      List.Forall₂ (fun decl f => f.1 = decl ∧ decl.edition? = some f.2) decls files := by
  induction decls generalizing files with
  | nil => rw [List.mapM_nil, List.forall₂_nil_left_iff, eq_comm, Option.pure_def, Option.some.injEq]
  | cons decl decls ih =>
    rw [List.mapM_cons]
    constructor
    · intro h
      obtain ⟨first, hfirst, h⟩ := Option.bind_eq_some_iff.mp h
      obtain ⟨more, hmore, h⟩ := Option.bind_eq_some_iff.mp h
      obtain ⟨edition, hedition, rfl⟩ := Option.map_eq_some_iff.mp hfirst
      obtain rfl := Option.some.inj h
      exact .cons ⟨rfl, hedition⟩ (ih.mp hmore)
    · intro h
      cases h with
      | @cons _ f _ files hf hrest =>
        obtain ⟨rfl, hedition⟩ := hf
        refine Option.bind_eq_some_iff.mpr ⟨f, ?_, ?_⟩
        · exact Option.map_eq_some_iff.mpr ⟨f.2, hedition, rfl⟩
        · exact Option.bind_eq_some_iff.mpr ⟨files, ih.mpr hrest, rfl⟩

/-- A pool is built twice: a first one settles the options of the files, and the settled files make
the other. -/
theorem exists_steps {decls : List FileDecl} {pool : Pool} (h : Pool.ofDecls decls = .ok pool) :
    ∃ files defs first settled, decls.mapM (fun f => f.edition?.map (f, ·)) = some files ∧
      definitionsOf files = .ok defs ∧ Pool.ofFiles defs files = .ok first ∧
      settleFiles first defs [] files = .ok settled ∧ Pool.ofFiles defs settled = .ok pool := by
  rw [Pool.ofDecls] at h
  split at h
  · cases h
  · next files hfiles =>
    rw [Pool.ofEditions] at h
    obtain ⟨defs, hdefs, h⟩ := bind_eq_ok_iff.mp h
    obtain ⟨first, hfirst, h⟩ := bind_eq_ok_iff.mp h
    obtain ⟨settled, hsettled, h⟩ := bind_eq_ok_iff.mp h
    obtain ⟨_, -, h⟩ := bind_eq_ok_iff.mp h
    rw [mapError_eq_ok_iff] at hdefs hfirst hsettled h
    exact ⟨files, defs, first, settled, hfiles, hdefs, hfirst, hsettled, h⟩

/-- A pool is built from the definitions of all files and from the files with settled options. -/
theorem ofDecls_eq_ok {decls : List FileDecl} {pool : Pool} (h : Pool.ofDecls decls = .ok pool) :
    ∃ files defs settled,
      List.Forall₂ (fun decl (f : FileDecl × Edition) => f.1 = decl ∧ decl.edition? = some f.2)
        decls files ∧ definitionsOf files = .ok defs ∧
      List.Forall₂ (fun (f g : FileDecl × Edition) => g.2 = f.2 ∧ ∃ s : Settler, s.file f.1 = .ok g.1)
        files settled ∧
      List.Forall₂ (fun (f : FileDecl × Edition) type => ∃ catalog all before, catalog.defs = defs ∧
        fileType catalog all before f.1 f.2 = .ok type) settled pool.files := by
  obtain ⟨files, defs, first, settled, hfiles, hdefs, -, hsettled, hpool⟩ := exists_steps h
  exact ⟨files, defs, settled, editions_eq_some_iff.mp hfiles, hdefs, settleFiles_eq_ok hsettled,
    ofFiles_eq_ok hpool⟩

end ProtoRest.Descriptor
