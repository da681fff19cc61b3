import ProtoRest.Proofs.Descriptor.BuildSteps
import ProtoRest.Proofs.Descriptor.PlainPool

/-! # Building a plain pool
The options of enums are carried through the steps from declarations to a pool, and no step looks at
them but to settle them and to compare the numbers of values. So schemas with the same plain
declarations have the same plain pool, if they have one at all (`plain_eq_of_ofDecls`). -/

namespace ProtoRest.Descriptor

open ProtoRest.Wire Result

/-- Files with their editions, all enums plain. -/
def plainFiles (files : List (FileDecl × Edition)) : List (FileDecl × Edition) :=
  files.map fun f => (f.1.plain, f.2)

/-! ## Definitions -/

/-- A plain enum takes the same names and leaves the same faults. -/
@[simp] theorem EnumDecl.findings_plain (s : Source) (scope : String) (e : EnumDecl) :
    e.plain.findings s scope = e.findings s scope := by
  obtain ⟨name, values, options, reserved⟩ := e
  rw [EnumDecl.findings, EnumDecl.findings, EnumDecl.plain]
  cases values with
  | nil => rfl
  | cons v vs =>
    simp only [List.map_cons, List.map_map]
    rfl

mutual

/-- A plain message takes the same names and leaves the same faults. -/
theorem findings_plain (s : Source) : ∀ (scope : String) (m : MessageDecl),
    m.plain.findings s scope = m.findings s scope
  | scope, .mk head nested => by
    have henums (inner : String) : head.plain.enums.flatMap (·.findings s inner) =
        head.enums.flatMap (·.findings s inner) := by
      rw [MessageHead.plain, List.flatMap_map]
      simp only [EnumDecl.findings_plain]
    rw [MessageDecl.plain, MessageDecl.findings, MessageDecl.findings, nestedFindings_plain, henums]
    rfl

/-- Plain messages take the same names and leave the same faults. -/
theorem nestedFindings_plain (s : Source) : ∀ (scope : String) (ms : List MessageDecl),
    nestedFindings s scope (plainDecls ms) = nestedFindings s scope ms
  | scope, [] => rfl
  | scope, m :: ms => by
    rw [plainDecls, nestedFindings, nestedFindings, findings_plain, nestedFindings_plain]

end

/-- A plain file takes the same names and leaves the same faults. -/
@[simp] theorem FileDecl.findings_plain (f : FileDecl) (edition : Edition) :
    f.plain.findings edition = f.findings edition := by
  have henums (s : Source) : (f.enums.map EnumDecl.plain).flatMap (·.findings s f.package) =
      f.enums.flatMap (·.findings s f.package) := by
    rw [List.flatMap_map]
    simp only [EnumDecl.findings_plain]
  simp only [FileDecl.findings, FileDecl.plain, nestedFindings_plain, henums]
  rfl

/-- Plain files define the same names. -/
theorem definitionsOf_plain (files : List (FileDecl × Edition)) :
    definitionsOf (plainFiles files) = definitionsOf files := by
  have hfrom (names : List String) (defs : List Definition) :
      definitionsFrom names defs (plainFiles files) = definitionsFrom names defs files := by
    induction files generalizing names defs with
    | nil => rfl
    | cons f fs ih =>
      obtain ⟨f, edition⟩ := f
      rw [plainFiles, List.map_cons, definitionsFrom, definitionsFrom, FileDecl.findings_plain]
      simp only [← plainFiles.eq_1, ih]
      rfl
  exact hfrom [] []

/-! ## The catalog -/

mutual

/-- The messages in a plain message are the plain messages in it, under the same names. -/
theorem headsIn_plain : ∀ (scope : String) (m : MessageDecl),
    m.plain.headsIn scope = (m.headsIn scope).map fun h => (h.1, h.2.plain)
  | scope, .mk head nested => by
    rw [MessageDecl.plain, MessageDecl.headsIn, MessageDecl.headsIn, List.map_cons]
    exact congrArg _ (headsInAll_plain (inScope scope head.name) nested)

/-- The messages in plain messages are the plain messages in them, under the same names. -/
theorem headsInAll_plain : ∀ (scope : String) (ms : List MessageDecl),
    headsInAll scope (plainDecls ms) = (headsInAll scope ms).map fun h => (h.1, h.2.plain)
  | scope, [] => rfl
  | scope, m :: ms => by
    rw [plainDecls, headsInAll, headsInAll, List.map_append, headsIn_plain, headsInAll_plain]

end

/-- The enums of a plain file are the plain enums of the file, under the same names. -/
theorem namedEnums_plain (f : FileDecl) :
    f.plain.namedEnums = f.namedEnums.map fun e => (e.1, e.2.plain) := by
  have hscope (scope : String) (enums : List EnumDecl) :
      enumsInScope scope (enums.map EnumDecl.plain) =
        (enumsInScope scope enums).map fun e => (e.1, e.2.plain) := by
    simp only [enumsInScope, List.map_map]
    rfl
  simp only [FileDecl.namedEnums, FileDecl.plain, headsInAll_plain, List.flatMap_map,
    MessageHead.plain, hscope, List.map_append, List.map_flatMap]

/-- What is known about files whose enums are plain. -/
def Catalog.plain (c : Catalog) : Catalog where
  defs := c.defs
  heads := c.heads.map fun h => (h.1, h.2.plain)
  enums := c.enums.map fun e => (e.1, e.2.plain)

/-- The catalog of plain files is that of the files, made plain. -/
theorem Catalog.ofFiles_plain (defs : List Definition) (files : List FileDecl) :
    Catalog.ofFiles defs (files.map FileDecl.plain) = (Catalog.ofFiles defs files).plain := by
  simp only [Catalog.ofFiles, Catalog.plain, List.flatMap_map, List.map_flatMap,
    namedEnums_plain, ← headsInAll_plain]
  rfl

/-- A look-up among values that were changed. -/
theorem lookup_map_snd {α β γ : Type} [BEq α] (as : List (α × β)) (f : β → γ) (key : α) :
    (as.map fun a => (a.1, f a.2)).lookup key = (as.lookup key).map f := by
  induction as with
  | nil => rfl
  | cons a as ih =>
    rw [List.map_cons, List.lookup_cons, List.lookup_cons, ih]
    cases key == a.1 <;> rfl

/-- A plain catalog knows the same value of an enum. -/
theorem Catalog.enumValue?_plain (c : Catalog) : c.plain.enumValue? = c.enumValue? := by
  funext enum value
  rw [Catalog.enumValue?, Catalog.enumValue?, Catalog.plain, lookup_map_snd]
  cases c.enums.lookup enum with
  | none => rfl
  | some e =>
    have hvalue : (e.values.map EnumValueDecl.plain).find? (·.name == value) =
        (e.values.find? (·.name == value)).map EnumValueDecl.plain := by
      rw [List.find?_map]
      rfl
    show ((e.values.map EnumValueDecl.plain).find? (·.name == value) >>= fun v => some v.number) =
      (e.values.find? (·.name == value) >>= fun v => some v.number)
    rw [hvalue]
    cases e.values.find? (·.name == value) <;> rfl

/-! ## Types -/

/-- A place among plain declarations. -/
def Place.plain (p : Place) : Place := { p with catalog := p.catalog.plain }

section Types

variable (p : Place)

/-- A default that is written stands for the same value. -/
theorem defaultOf_plain : defaultOf p.plain = defaultOf p := by
  funext type f
  rw [defaultOf, defaultOf, Place.plain, Catalog.enumValue?_plain]

/-- A field has the same type. -/
theorem fieldType_plain (fullName : String) (path : List Int) (message : String)
    (head : MessageHead) : fieldType p.plain fullName path message head.plain =
      fieldType p fullName path message head := by
  funext f
  rw [fieldType, fieldType, defaultOf_plain]
  rfl

/-- The fields of a message have the same types. -/
theorem fieldTypes_plain (scope : String) (path : List Int) (head : MessageHead)
    (before fs : List FieldDecl) : fieldTypes p.plain scope path head.plain before fs =
      fieldTypes p scope path head before fs := by
  induction fs generalizing before with
  | nil => rfl
  | cons f fs ih => rw [fieldTypes, fieldTypes, fieldType_plain, ih]

/-- An extension has the same type. -/
theorem extensionType_plain (scope : String) (path : List Int) :
    extensionType p.plain scope path = extensionType p scope path := by
  funext f
  have hheads (name : String) : p.plain.catalog.heads.lookup name =
      (p.catalog.heads.lookup name).map MessageHead.plain := lookup_map_snd _ _ _
  rw [extensionType, extensionType]
  refine bind_congr fun d => ?_
  rw [hheads]
  cases p.catalog.heads.lookup d.name with
  | none => rfl
  | some head => simp only [Option.map_some, fieldType_plain]

/-- The extensions of a scope have the same types. -/
theorem extensionTypes_plain (scope : String) (path : List Int) (index : Nat)
    (fs : List FieldDecl) :
    extensionTypes p.plain scope path index fs = extensionTypes p scope path index fs := by
  induction fs generalizing index with
  | nil => rfl
  | cons f fs ih => rw [extensionTypes, extensionTypes, extensionType_plain, ih]

/-- A value goes to the same place among the others: places depend on numbers. -/
theorem insertValue_plain (v : EnumValueType) (vs : List EnumValueType) :
    insertValue v.plain (vs.map EnumValueType.plain) = (insertValue v vs).map EnumValueType.plain := by
  induction vs with
  | nil => rfl
  | cons w ws ih =>
    have hmore : (ws.map EnumValueType.plain).any (·.number == v.number) =
        ws.any (·.number == v.number) := by
      rw [List.any_map]
      rfl
    have hnumber (u : EnumValueType) : u.plain.number = u.number := rfl
    rw [List.map_cons, insertValue, insertValue, hnumber, hnumber, hmore, ih]
    split_ifs <;> rfl

/-- Plain values are sorted as the values are. -/
theorem sortedValues_plain (vs sorted : List EnumValueType) :
    (vs.map EnumValueType.plain).foldl (fun sorted v => insertValue v sorted)
        (sorted.map EnumValueType.plain) =
      (vs.foldl (fun sorted v => insertValue v sorted) sorted).map EnumValueType.plain := by
  induction vs generalizing sorted with
  | nil => rfl
  | cons v vs ih => rw [List.map_cons, List.foldl_cons, List.foldl_cons, insertValue_plain, ih]

/-- A plain enum is built as the plain type of the enum, with the same faults. -/
theorem enumType_plain (scope : String) (e : EnumDecl) :
    enumType p.plain scope e.plain = (enumType p scope e).map EnumType.plain := by
  -- the checks look at the numbers, which the plain form keeps
  have hchecks (vs : List EnumValueDecl) :
      (vs.map EnumValueDecl.plain).forM (fun v => checkEnumNumber e.plain v.number) =
        vs.forM fun v => checkEnumNumber e v.number := by
    induction vs with
    | nil => rfl
    | cons v vs ih => exact bind_congr fun _ => ih
  have hvalues : e.plain.values = e.values.map EnumValueDecl.plain := rfl
  have hinitial : (e.values.map EnumValueDecl.plain).head?.map (·.number) =
      e.values.head?.map (·.number) := by
    rw [List.head?_map, Option.map_map]
    rfl
  have hsorted := sortedValues_plain (e.values.map fun v : EnumValueDecl =>
    EnumValueType.mk v.name (inScope scope v.name) v.number v.options) []
  rw [enumType, enumType, hvalues, hchecks, hinitial]
  cases e.values.forM fun v => checkEnumNumber e v.number with
  | error fault => rfl
  | ok _ =>
    refine congrArg Except.ok ?_
    rw [List.map_map] at hsorted ⊢
    simp only [EnumType.plain, ← hsorted]
    rfl

mutual

/-- A plain message is built as the plain tree of the message, with the same faults. -/
theorem messageTree_plain : ∀ (scope : String) (path : List Int) (m : MessageDecl),
    messageTree p.plain scope path m.plain =
      (messageTree p scope path m).map fun t => (t.1.plain, t.2)
  | scope, path, .mk head nested => by
    have henums (inner : String) : head.plain.enums.mapM (enumType p.plain inner) =
        (head.enums.mapM (enumType p inner)).map (List.map EnumType.plain) :=
      mapM_map_eq fun e _ => enumType_plain p inner e
    rw [MessageDecl.plain, messageTree, messageTree]
    refine bind_eq_map_of_eq (fieldTypes_plain p _ _ head [] head.fields) fun fields => ?_
    refine bind_eq_map_of_map (messageTrees_plain _ _ 0 nested) fun trees => ?_
    refine bind_eq_map_of_map (henums _) fun enums => ?_
    exact bind_eq_map_of_eq (extensionTypes_plain p _ _ 0 head.extensions) fun extensions => rfl

/-- Plain messages are built as the plain trees of the messages, with the same faults. -/
theorem messageTrees_plain : ∀ (scope : String) (path : List Int) (index : Nat)
    (ms : List MessageDecl), messageTrees p.plain scope path index (plainDecls ms) =
      (messageTrees p scope path index ms).map fun t => (plainTrees t.1, t.2)
  | scope, path, index, [] => rfl
  | scope, path, index, m :: ms => by
    rw [plainDecls, messageTrees, messageTrees]
    refine bind_eq_map_of_map (messageTree_plain _ _ m) fun tree => ?_
    exact bind_eq_map_of_map (messageTrees_plain _ _ (index + 1) ms) fun trees => rfl

end

end Types

/-! ## Files -/

/-- A plain file sees the same names. -/
theorem viewOf_plain (before : List FileDecl) (defs : List Definition) (f : FileDecl) :
    viewOf (before.map FileDecl.plain) defs f.plain = viewOf before defs f := by
  refine viewOf_congr ?_ defs rfl
  rw [List.map_map]
  rfl

/-- The imports of a plain file are checked alike. -/
theorem checkImports_plain (files : List FileDecl) (f : FileDecl) :
    checkImports (files.map FileDecl.plain) f.plain = checkImports files f := by
  have hany (name : String) : (files.map FileDecl.plain).any (·.name == name) =
      files.any (·.name == name) := by
    rw [List.any_map]
    rfl
  simp only [checkImports, hany]
  rfl

/-- A plain file is built as the plain type of the file, with the same faults. -/
theorem fileType_plain (catalog : Catalog) (files before : List FileDecl) (f : FileDecl)
    (edition : Edition) :
    fileType catalog.plain (files.map FileDecl.plain) (before.map FileDecl.plain) f.plain edition =
      (fileType catalog files before f edition).map FileType.plain := by
  have hview := viewOf_plain before catalog.defs f
  rw [fileType, fileType]
  rw [show catalog.plain.defs = catalog.defs from rfl, hview]
  refine bind_eq_map_of_eq (checkImports_plain files f) fun _ => ?_
  let p : Place :=
    { catalog, view := viewOf before catalog.defs f, package := f.package, edition }
  refine bind_eq_map_of_map (messageTrees_plain p f.package [4] 0 f.messages) fun trees => ?_
  refine bind_eq_map_of_map (mapM_map_eq fun e _ => enumType_plain p f.package e) fun enums => ?_
  have hservices : f.services.mapM (serviceType p.plain) = f.services.mapM (serviceType p) := rfl
  refine bind_eq_map_of_eq hservices fun services => ?_
  exact bind_eq_map_of_eq (extensionTypes_plain p f.package [7] 0 f.extensions) fun _ => rfl

/-- Plain files are built as the plain types of the files, with the same faults. -/
theorem fileTypes_plain (catalog : Catalog) (files before : List FileDecl)
    (fs : List (FileDecl × Edition)) :
    fileTypes catalog.plain (files.map FileDecl.plain) (before.map FileDecl.plain) (plainFiles fs) =
      (fileTypes catalog files before fs).map (List.map FileType.plain) := by
  induction fs generalizing before with
  | nil => rfl
  | cons f fs ih =>
    obtain ⟨f, edition⟩ := f
    have hbefore : before.map FileDecl.plain ++ [f.plain] = (before ++ [f]).map FileDecl.plain := by
      rw [List.map_append]
      rfl
    rw [plainFiles, List.map_cons, fileTypes, fileTypes, hbefore]
    refine bind_eq_map_of_map (fileType_plain catalog files before f edition) fun type => ?_
    exact bind_eq_map_of_map (ih (before ++ [f])) fun types => rfl

/-- Plain files have a plain pool. -/
theorem ofFiles_plain (defs : List Definition) (files : List (FileDecl × Edition)) :
    Pool.ofFiles defs (plainFiles files) = (Pool.ofFiles defs files).map Pool.plain := by
  have hdecls : (plainFiles files).map (·.1) = (files.map (·.1)).map FileDecl.plain := by
    simp only [plainFiles, List.map_map]
    rfl
  have htypes := fileTypes_plain (.ofFiles defs (files.map (·.1))) (files.map (·.1)) [] files
  rw [Pool.ofFiles, Pool.ofFiles, hdecls, Catalog.ofFiles_plain]
  exact bind_eq_map_of_map htypes fun types => rfl

/-! ## Settling -/

section Settling

variable (s : Settler)

/-- The options of a field are settled alike. -/
theorem settledField_plain : s.plain.field = s.field := by
  funext scope f
  rw [Settler.field, Settler.field, Settler.options_plain]

/-- The options of a choice are settled alike. -/
theorem settledOneof_plain : s.plain.oneof = s.oneof := by
  funext scope o
  rw [Settler.oneof, Settler.oneof, Settler.options_plain]

/-- The options of a range are settled alike. -/
theorem settledExtensionRange_plain : s.plain.extensionRange = s.extensionRange := by
  funext message r
  rw [Settler.extensionRange, Settler.extensionRange, Settler.options_plain]

/-- The options of a service and its methods are settled alike. -/
theorem settledService_plain : s.plain.service = s.service := by
  have hmethod : s.plain.method = s.method := by
    funext scope m
    rw [Settler.method, Settler.method, Settler.options_plain]
  funext scope d
  rw [Settler.service, Settler.service, Settler.options_plain, hmethod]

/-- An enum whose options can be settled is settled in its plain form too. -/
theorem settledEnum_plain {scope : String} {e settled : EnumDecl} (h : s.enum scope e = .ok settled) :
    s.plain.enum scope e.plain = .ok settled.plain := by
  obtain ⟨_, -, values, hvalues, rfl⟩ := settledEnum_eq_ok_iff.mp h
  have hplain : (e.values.map EnumValueDecl.plain).mapM (s.plain.enumValue scope) =
      .ok (values.map EnumValueDecl.plain) := by
    rw [mapM_eq_ok_iff] at hvalues ⊢
    rw [List.forall₂_map_left_iff, List.forall₂_map_right_iff]
    refine hvalues.imp fun v w hw => ?_
    obtain ⟨_, -, rfl⟩ := settledEnumValue_eq_ok_iff.mp hw
    rfl
  exact settledEnum_eq_ok_iff.mpr ⟨[], rfl, _, hplain, rfl⟩

/-- Where the options of enums can be settled, the plain enums come out of it plain. -/
theorem settledEnums_plain {scope : String} {es settled : List EnumDecl}
    (h : es.mapM (s.enum scope) = .ok settled) :
    (es.map EnumDecl.plain).mapM (s.plain.enum scope) = .ok (settled.map EnumDecl.plain) := by
  rw [mapM_eq_ok_iff] at h ⊢
  rw [List.forall₂_map_left_iff, List.forall₂_map_right_iff]
  exact h.imp fun e settled => settledEnum_plain s

mutual

/-- Where the options in a message can be settled, the plain message comes out of it plain. -/
theorem settledMessage_plain : ∀ {scope : String} {m settled : MessageDecl},
    s.message scope m = .ok settled → s.plain.message scope m.plain = .ok settled.plain
  | scope, .mk head nested, settled, h => by
    obtain ⟨options, hoptions, extensible, hextensible, oneofs, honeofs, fields, hfields, messages,
      hmessages, enums, henums, extensions, hextensions, rfl⟩ := settledMessage_eq_ok_iff.mp h
    rw [MessageDecl.plain, settledMessage_eq_ok_iff, Settler.options_plain,
      settledExtensionRange_plain, settledOneof_plain, settledField_plain]
    -- the steps but those on enums and inner messages are the same
    exact ⟨options, hoptions, extensible, hextensible, oneofs, honeofs, fields, hfields,
      _, settledMessages_plain hmessages, _, settledEnums_plain s henums, extensions, hextensions, rfl⟩

/-- Where the options in messages can be settled, the plain messages come out of it plain. -/
theorem settledMessages_plain : ∀ {scope : String} {ms settled : List MessageDecl},
    s.messages scope ms = .ok settled →
      s.plain.messages scope (plainDecls ms) = .ok (plainDecls settled)
  | scope, [], settled, h => by
    obtain rfl := settledMessages_nil_eq_ok_iff.mp h
    rfl
  | scope, m :: ms, settled, h => by
    obtain ⟨first, hfirst, more, hmore, rfl⟩ := settledMessages_cons_eq_ok_iff.mp h
    exact settledMessages_cons_eq_ok_iff.mpr
      ⟨_, settledMessage_plain hfirst, _, settledMessages_plain hmore, rfl⟩

end

/-- A file whose options can be settled is settled in its plain form too. -/
theorem settledFile_plain {f settled : FileDecl} (h : s.file f = .ok settled) :
    s.plain.file f.plain = .ok settled.plain := by
  obtain ⟨options, hoptions, messages, hmessages, enums, henums, services, hservices, extensions,
    hextensions, rfl⟩ := settledFile_eq_ok_iff.mp h
  rw [settledFile_eq_ok_iff, Settler.options_plain, settledService_plain, settledField_plain]
  exact ⟨options, hoptions, _, settledMessages_plain s hmessages, _, settledEnums_plain s henums,
    services, hservices, extensions, hextensions, rfl⟩

end Settling

/-- Where the options of files can be settled, the plain files come out of it plain. -/
theorem settleFiles_plain {pool : Pool} {defs : List Definition} {before : List FileDecl}
    {files settled : List (FileDecl × Edition)}
    (h : settleFiles pool defs before files = .ok settled) :
    settleFiles pool.plain defs (before.map FileDecl.plain) (plainFiles files) =
      .ok (plainFiles settled) := by
  induction files generalizing before settled with
  | nil =>
    obtain rfl := Except.ok.inj h
    rfl
  | cons f fs ih =>
    obtain ⟨first, more, hfirst, hmore, rfl⟩ := settleFiles_cons_eq_ok h
    have hrest := ih hmore
    rw [List.map_append] at hrest
    rw [plainFiles, List.map_cons, settleFiles, viewOf_plain]
    exact bind_eq_ok_iff.mpr ⟨_, settledFile_plain ⟨pool, viewOf before defs f.1⟩ hfirst,
      bind_eq_ok_iff.mpr ⟨_, hrest, rfl⟩⟩

/-! ## Pools -/

/-- Plain files are of the same editions. -/
theorem editions_plain {decls : List FileDecl} {files : List (FileDecl × Edition)}
    (h : decls.mapM (fun f => f.edition?.map (f, ·)) = some files) :
    (decls.map FileDecl.plain).mapM (fun f => f.edition?.map (f, ·)) = some (plainFiles files) := by
  rw [editions_eq_some_iff] at h ⊢
  rw [plainFiles, List.forall₂_map_left_iff, List.forall₂_map_right_iff]
  exact h.imp fun decl f hf => ⟨congrArg FileDecl.plain hf.1, hf.2⟩

/-- The plain pool of declarations is made from their plain forms. -/
theorem exists_plain_steps {decls : List FileDecl} {pool : Pool} (h : Pool.ofDecls decls = .ok pool) :
    ∃ files defs first settled,
      (decls.map FileDecl.plain).mapM (fun f => f.edition?.map (f, ·)) = some files ∧
      definitionsOf files = .ok defs ∧ Pool.ofFiles defs files = .ok first ∧
      settleFiles first defs [] files = .ok settled ∧
      Pool.ofFiles defs settled = .ok pool.plain := by
  obtain ⟨files, defs, first, settled, hfiles, hdefs, hfirst, hsettled, hpool⟩ := exists_steps h
  refine ⟨plainFiles files, defs, first.plain, plainFiles settled, editions_plain hfiles, ?_, ?_,
    settleFiles_plain hsettled, ?_⟩
  · rw [definitionsOf_plain, hdefs]
  · rw [ofFiles_plain, hfirst]
    rfl
  · rw [ofFiles_plain, hpool]
    rfl

/-- Schemas with the same plain declarations have the same plain pool. -/
theorem plain_eq_of_ofDecls {decls decls' : List FileDecl} {pool pool' : Pool}
    (h : Pool.ofDecls decls = .ok pool) (h' : Pool.ofDecls decls' = .ok pool')
    (hdecls : decls.map FileDecl.plain = decls'.map FileDecl.plain) : pool.plain = pool'.plain := by
  obtain ⟨files, defs, first, settled, hfiles, hdefs, hfirst, hsettled, hpool⟩ :=
    exists_plain_steps h
  obtain ⟨files', defs', first', settled', hfiles', hdefs', hfirst', hsettled', hpool'⟩ :=
    exists_plain_steps h'
  -- every step has one result, so the two schemas have the same one after each
  rw [hdecls, hfiles'] at hfiles
  obtain rfl := Option.some.inj hfiles
  obtain rfl := Except.ok.inj (hdefs.symm.trans hdefs')
  obtain rfl := Except.ok.inj (hfirst.symm.trans hfirst')
  obtain rfl := Except.ok.inj (hsettled.symm.trans hsettled')
  exact Except.ok.inj (hpool.symm.trans hpool')

end ProtoRest.Descriptor
