import ProtoRest.Descriptor.Form
import ProtoRest.Proofs.Descriptor.MessageHeads

/-! # Forms of settled declarations
Options do not decide how messages are written and read. So the pool by which options are settled has
messages and extensions of the same forms as the pool that is made of the settled files
(`exists_first_pool`), and what is known about the forms in one is known of the other
(`SameForms.formOf?_eq`). -/

namespace ProtoRest.Descriptor

open ProtoRest.Wire Result

/-! ## Outlines -/

/-- The full name of a message and the forms of its fields. -/
def MessageType.outline (m : MessageType) : String × List FieldForm :=
  (m.fullName, m.fields.map FieldType.form)

/-- The full name of an extension, the message that it extends, and its form. -/
def ExtensionType.outline (x : ExtensionType) : String × String × FieldForm :=
  (x.fullName, x.extendee, x.field.form)

/-- Two pools have messages and extensions of the same forms. -/
structure Pool.SameForms (p p' : Pool) : Prop where
  /-- The messages are alike. -/
  messages : p'.messages.map MessageType.outline = p.messages.map MessageType.outline
  /-- The extensions are alike. -/
  extensions : p'.extensions.map ExtensionType.outline = p.extensions.map ExtensionType.outline

namespace Pool

/-- The outline found under a name is that of the message found under it. -/
theorem outline_message? (p : Pool) (name : String) : (p.message? name).map MessageType.outline =
    (p.messages.map MessageType.outline).find? (·.1 == name) := by
  rw [List.find?_map]
  rfl

/-- The form that a message has under a number is decided by outlines. -/
theorem form_fieldOf? (p : Pool) (type : MessageType) (number : Nat) :
    (p.fieldOf? type number).map FieldType.form =
      (type.outline.2.find? (·.number == number)).or
        (((p.extensions.map ExtensionType.outline).find? fun x =>
          x.2.1 == type.outline.1 && x.2.2.number == number).map (·.2.2)) := by
  have hown : (type.field? number).map FieldType.form =
      type.outline.2.find? (·.number == number) := by
    rw [MessageType.outline, List.find?_map]
    rfl
  rw [← hown, List.find?_map, fieldOf?]
  cases type.field? number with
  | some f => rfl
  | none =>
    rw [Option.map_none, Option.none_or, Option.map_map, Option.map_map]
    rfl

variable {p p' : Pool}

/-- Pools with the same forms give a message's field the same form. -/
theorem SameForms.formOf?_eq (h : p.SameForms p') (message : String) (number : Nat) :
    p'.formOf? message number = p.formOf? message number := by
  have hform (p : Pool) : p.formOf? message number =
      ((p.messages.map MessageType.outline).find? (·.1 == message)).bind fun outline =>
        (outline.2.find? (·.number == number)).or
          (((p.extensions.map ExtensionType.outline).find? fun x =>
            x.2.1 == outline.1 && x.2.2.number == number).map (·.2.2)) := by
    rw [formOf?, ← outline_message?, Option.map_bind, Option.bind_map]
    exact congrArg _ (funext fun type => form_fieldOf? p type number)
  rw [hform, hform, h.messages, h.extensions]

/-- Pools with the same forms give an extension the same number. -/
theorem SameForms.extensionNumber?_eq (h : p.SameForms p') (name : String) :
    p'.extensionNumber? name = p.extensionNumber? name := by
  have hnumber (p : Pool) : p.extensionNumber? name =
      ((p.extensions.map ExtensionType.outline).find? (·.1 == name)).map (·.2.2.number) := by
    rw [List.find?_map, Option.map_map]
    rfl
  rw [hnumber, hnumber, h.extensions]

/-- Pools with the same forms agree on whether a message has given forms. -/
theorem SameForms.hasForms_iff (h : p.SameForms p') (message : String) (forms : List FieldForm) :
    p'.HasForms message forms ↔ p.HasForms message forms := by
  simp only [HasForms, h.formOf?_eq]

/-- Pools with the same forms agree on whether an option holds a message. -/
theorem SameForms.holdsMessage_iff (h : p.SameForms p') (owner : OptionOwner)
    (extension message : String) (number : Nat) :
    p'.HoldsMessage owner extension message number ↔ p.HoldsMessage owner extension message number := by
  simp only [HoldsMessage, h.formOf?_eq, h.extensionNumber?_eq]

end Pool

/-! ## Fields -/

section Fields

/-- The oneof of a field depends on the names of the oneofs alone. -/
theorem oneofOf_congr {oneofs oneofs' : List OneofDecl}
    (h : oneofs'.map (·.name) = oneofs.map (·.name)) (f : FieldDecl) :
    oneofOf oneofs' f = oneofOf oneofs f := by
  have hget (i : Nat) : oneofs'[i]?.map (·.name) = oneofs[i]?.map (·.name) := by
    rw [← List.getElem?_map, ← List.getElem?_map, h]
  rw [oneofOf, oneofOf]
  cases f.oneof with
  | none => rfl
  | some i =>
    dsimp only
    split_ifs
    · rfl
    · have hi := hget i.toNat
      generalize oneofs'[i.toNat]? = o' at hi
      generalize oneofs[i.toNat]? = o at hi
      cases o <;> cases o' <;> simp_all

/-- A declared field with other options. -/
def IsSettledField (f settled : FieldDecl) : Prop := ∃ options, settled = { f with options }

/-- Settling a field changes its options only. -/
theorem isSettledField {s : Settler} {scope : String} {f settled : FieldDecl}
    (h : s.field scope f = .ok settled) : IsSettledField f settled := by
  obtain ⟨options, -, h⟩ := settledField_eq_ok_iff.mp h
  exact ⟨options, h.symm⟩

variable {p p' : Place} (hview : p'.view = p.view) (hedition : p'.edition = p.edition)

include hview hedition

/-- Options do not decide about the form of a field. -/
theorem form_of_fieldType {fullName message message' : String} {path : List Int}
    {head head' : MessageHead} {f settled : FieldDecl} {type type' : FieldType}
    (hsettled : IsSettledField f settled) (honeof : oneofOf head'.oneofs f = oneofOf head.oneofs f)
    (h : fieldType p fullName path message head f = .ok type)
    (h' : fieldType p' fullName path message' head' settled = .ok type') : type'.form = type.form := by
  obtain ⟨options, rfl⟩ := hsettled
  -- settling changed the options only, and the type of the value does not depend on these
  have hvalue : valueType p' fullName path { f with options } = valueType p fullName path f := by
    simp only [valueType, hview]
  rw [fieldType] at h h'
  obtain ⟨_, -, h⟩ := bind_eq_ok_iff.mp h
  obtain ⟨value, hvalueType, h⟩ := bind_eq_ok_iff.mp h
  obtain ⟨default, -, h⟩ := bind_eq_ok_iff.mp h
  obtain ⟨oneof, honeofOf, h⟩ := bind_eq_ok_iff.mp h
  obtain rfl := pure_eq_ok_iff.mp h
  obtain ⟨_, -, h'⟩ := bind_eq_ok_iff.mp h'
  obtain ⟨value', hvalueType', h'⟩ := bind_eq_ok_iff.mp h'
  obtain ⟨default', -, h'⟩ := bind_eq_ok_iff.mp h'
  obtain ⟨oneof', honeofOf', h'⟩ := bind_eq_ok_iff.mp h'
  obtain rfl := pure_eq_ok_iff.mp h'
  rw [hvalue] at hvalueType'
  obtain rfl := Except.ok.inj (hvalueType.symm.trans hvalueType')
  have hsame : Except.ok oneof = (Except.ok oneof' : Except PoolFault (Option String)) :=
    honeofOf.symm.trans (honeof.symm.trans honeofOf')
  obtain rfl := Except.ok.inj hsame
  simp only [FieldType.form, FieldType.isRepeated, hedition]

/-- Settled fields are built to types of the same forms. -/
theorem forms_of_fieldTypes {scope : String} {path : List Int} {head head' : MessageHead}
    (honeof : ∀ f, oneofOf head'.oneofs f = oneofOf head.oneofs f) {fs settled : List FieldDecl}
    (hsettled : List.Forall₂ IsSettledField fs settled) {before before' : List FieldDecl}
    (hlength : before'.length = before.length) {types types' : List FieldType}
    (h : fieldTypes p scope path head before fs = .ok types)
    (h' : fieldTypes p' scope path head' before' settled = .ok types') :
    types'.map FieldType.form = types.map FieldType.form := by
  induction hsettled generalizing before before' types types' with
  | nil =>
    obtain rfl := Except.ok.inj h
    obtain rfl := Except.ok.inj h'
    rfl
  | @cons f settled fs more hfirst _ ih =>
    have hname : settled.name = f.name := by
      obtain ⟨_, rfl⟩ := hfirst
      rfl
    obtain ⟨type, types, htype, htypes, rfl⟩ := fieldTypes_cons_eq_ok h
    obtain ⟨type', types', htype', htypes', rfl⟩ := fieldTypes_cons_eq_ok h'
    -- a field's place is its number among those before it, of which there are as many
    rw [hname, hlength] at htype'
    rw [List.map_cons, List.map_cons, form_of_fieldType hview hedition hfirst (honeof f) htype htype',
      ih (congrArg (· + 1) hlength) htypes htypes']

/-- A settled extension is built to a type of the same outline. -/
theorem outline_of_extensionType {scope : String} {path : List Int} {f settled : FieldDecl}
    (hsettled : IsSettledField f settled) {type type' : ExtensionType}
    (h : extensionType p scope path f = .ok type)
    (h' : extensionType p' scope path settled = .ok type') : type'.outline = type.outline := by
  obtain ⟨options, rfl⟩ := hsettled
  rw [extensionType] at h h'
  obtain ⟨extendee, hextendee, h⟩ := bind_eq_ok_iff.mp h
  obtain ⟨extendee', hextendee', h'⟩ := bind_eq_ok_iff.mp h'
  rw [hview] at hextendee'
  obtain rfl := Except.ok.inj (hextendee.symm.trans hextendee')
  split at h
  · cases h
  split at h'
  · cases h'
  obtain ⟨field, hfield, h⟩ := bind_eq_ok_iff.mp h
  obtain rfl := pure_eq_ok_iff.mp h
  obtain ⟨field', hfield', h'⟩ := bind_eq_ok_iff.mp h'
  obtain rfl := pure_eq_ok_iff.mp h'
  -- an extension is in no choice, whatever the message declares
  have hfree : IsSettledField { f with oneof := none } { { f with options } with oneof := none } :=
    ⟨options, rfl⟩
  have hform := form_of_fieldType hview hedition hfree (by rfl) hfield hfield'
  simp only [FieldType.form, FieldForm.mk.injEq] at hform
  obtain ⟨hnumber, hvalue, hrepeated, -, honeof, hpacked⟩ := hform
  simp only [ExtensionType.outline, FieldType.form, FieldType.isRepeated] at hrepeated ⊢
  rw [hnumber, hvalue, hrepeated, honeof, hpacked]

/-- Settled extensions are built to types of the same outlines, in order. -/
theorem outlines_of_extensionTypes {scope : String} {path : List Int} {index : Nat}
    {fs settled : List FieldDecl} (hsettled : List.Forall₂ IsSettledField fs settled)
    {types types' : List ExtensionType} (h : extensionTypes p scope path index fs = .ok types)
    (h' : extensionTypes p' scope path index settled = .ok types') :
    types'.map ExtensionType.outline = types.map ExtensionType.outline := by
  induction hsettled generalizing index types types' with
  | nil =>
    obtain rfl := Except.ok.inj h
    obtain rfl := Except.ok.inj h'
    rfl
  | @cons f settled fs more hfirst _ ih =>
    rw [extensionTypes] at h h'
    obtain ⟨type, htype, h⟩ := bind_eq_ok_iff.mp h
    obtain ⟨types, htypes, h⟩ := bind_eq_ok_iff.mp h
    obtain rfl := pure_eq_ok_iff.mp h
    obtain ⟨type', htype', h'⟩ := bind_eq_ok_iff.mp h'
    obtain ⟨types', htypes', h'⟩ := bind_eq_ok_iff.mp h'
    obtain rfl := pure_eq_ok_iff.mp h'
    rw [List.map_cons, List.map_cons, ih htypes htypes',
      outline_of_extensionType hview hedition hfirst htype htype']

end Fields

/-! ## Messages -/

/-- Inserting fields of one form into rows of the same forms keeps the forms equal. -/
theorem forms_insertField {f f' : FieldType} (hf : f'.form = f.form) {fs fs' : List FieldType}
    (h : fs'.map FieldType.form = fs.map FieldType.form) :
    (insertField f' fs').map FieldType.form = (insertField f fs).map FieldType.form := by
  -- the place of a field depends on its number, which is part of its form
  have hnumber {g g' : FieldType} (hg : g'.form = g.form) : g'.number = g.number :=
    congrArg FieldForm.number hg
  induction fs generalizing fs' with
  | nil =>
    obtain rfl := List.map_eq_nil_iff.mp h
    rw [insertField, insertField, List.map_cons, List.map_cons, hf]
  | cons g gs ih =>
    cases fs' with
    | nil => cases h
    | cons g' gs' =>
      obtain ⟨hg, hgs⟩ := List.cons.inj h
      rw [insertField, insertField, hnumber hf, hnumber hg]
      split_ifs
      · rw [List.map_cons, h, hf]
        rfl
      · rw [List.map_cons, List.map_cons, hg, ih hgs]

/-- Fields of the same forms are put in order alike. -/
theorem forms_byNumber {fs fs' : List FieldType}
    (h : fs'.map FieldType.form = fs.map FieldType.form) :
    (byNumber fs').map FieldType.form = (byNumber fs).map FieldType.form := by
  induction fs generalizing fs' with
  | nil =>
    obtain rfl := List.map_eq_nil_iff.mp h
    rfl
  | cons f fs ih =>
    cases fs' with
    | nil => cases h
    | cons f' fs' =>
      obtain ⟨hf, hfs⟩ := List.cons.inj h
      exact forms_insertField hf (ih hfs)

section Messages

variable {s : Settler} {p p' : Place}

mutual

/-- A message has the same outline before and after its options are settled, and so have the messages
and the extensions in it. -/
theorem outlines_of_messageTree (hview : p'.view = p.view) (hedition : p'.edition = p.edition) :
    ∀ {m settled : MessageDecl} {scope : String} {path : List Int} {tree tree' : MessageTree}
      {xs xs' : List ExtensionType}, s.message scope m = .ok settled →
      messageTree p scope path m = .ok (tree, xs) →
      messageTree p' scope path settled = .ok (tree', xs') →
      tree'.flatten.map MessageType.outline = tree.flatten.map MessageType.outline ∧
        xs'.map ExtensionType.outline = xs.map ExtensionType.outline
  | .mk head nested, settled, scope, path, tree, tree', xs, xs', hsettled, h, h' => by
    obtain ⟨_, -, _, -, oneofs, honeofs, fields, hfields, messages, hmessages, _, -, extensions,
      hextensions, rfl⟩ := settledMessage_eq_ok_iff.mp hsettled
    obtain ⟨types, trees, inTrees, _, own, htypes, htrees, -, hown, rfl, rfl⟩ := messageTree_eq_ok h
    obtain ⟨types', trees', inTrees', _, own', htypes', htrees', -, hown', rfl, rfl⟩ :=
      messageTree_eq_ok h'
    -- choices keep their names, so a field is in the same one before and after
    have hchoices : oneofs.map (·.name) = head.oneofs.map (·.name) := by
      refine map_eq_of_forall₂ (mapM_eq_ok_iff.mp honeofs) fun o settled ho => ?_
      obtain ⟨_, -, rfl⟩ := settledOneof_eq_ok_iff.mp ho
      rfl
    have hforms := forms_of_fieldTypes hview hedition (oneofOf_congr hchoices)
      ((mapM_eq_ok_iff.mp hfields).imp fun _ _ => isSettledField) rfl htypes htypes'
    obtain ⟨hnested, hinNested⟩ := outlines_of_messageTrees hview hedition hmessages htrees htrees'
    have hextensionTypes := outlines_of_extensionTypes hview hedition
      ((mapM_eq_ok_iff.mp hextensions).imp fun _ _ => isSettledField) hown hown'
    constructor
    · simp only [MessageTree.flatten, List.map_cons, hnested, MessageType.outline,
        forms_byNumber hforms]
    · rw [List.map_append, List.map_append, hinNested, hextensionTypes]

/-- Settled messages, with all that is nested in them, are built to types of the same outlines. -/
theorem outlines_of_messageTrees (hview : p'.view = p.view) (hedition : p'.edition = p.edition) :
    ∀ {ms settled : List MessageDecl} {scope : String} {path : List Int} {index : Nat}
      {trees trees' : List MessageTree} {xs xs' : List ExtensionType},
      s.messages scope ms = .ok settled →
      messageTrees p scope path index ms = .ok (trees, xs) →
      messageTrees p' scope path index settled = .ok (trees', xs') →
      (flattenTrees trees').map MessageType.outline = (flattenTrees trees).map MessageType.outline ∧
        xs'.map ExtensionType.outline = xs.map ExtensionType.outline
  | [], settled, scope, path, index, trees, trees', xs, xs', hsettled, h, h' => by
    obtain rfl := settledMessages_nil_eq_ok_iff.mp hsettled
    rw [messageTrees] at h h'
    obtain ⟨rfl, rfl⟩ := Prod.ext_iff.mp (Except.ok.inj h)
    obtain ⟨rfl, rfl⟩ := Prod.ext_iff.mp (Except.ok.inj h')
    exact ⟨rfl, rfl⟩
  | m :: ms, settled, scope, path, index, trees, trees', xs, xs', hsettled, h, h' => by
    obtain ⟨first, hfirst, more, hmore, rfl⟩ := settledMessages_cons_eq_ok_iff.mp hsettled
    obtain ⟨tree, trees, inTree, inTrees, htree, htrees, rfl, rfl⟩ := messageTrees_cons_eq_ok h
    obtain ⟨tree', trees', inTree', inTrees', htree', htrees', rfl, rfl⟩ := messageTrees_cons_eq_ok h'
    obtain ⟨hown, hinTree⟩ := outlines_of_messageTree hview hedition hfirst htree htree'
    obtain ⟨hrest, hinRest⟩ := outlines_of_messageTrees hview hedition hmore htrees htrees'
    simp only [flattenTrees, List.map_append, hown, hrest, hinTree, hinRest, and_self]

end

end Messages

/-! ## Files -/

section Files

variable {files files' : List FileDecl}

/-- Settling leaves the links of a file as they are. -/
theorem links_of_settledFile {s : Settler} {f settled : FileDecl} (h : s.file f = .ok settled) :
    settled.links = f.links := by
  obtain ⟨_, -, _, -, _, -, _, -, _, -, rfl⟩ := settledFile_eq_ok_iff.mp h
  rfl

/-- A file has messages and extensions of the same forms before and after its options are settled. -/
theorem outlines_of_fileType {s : Settler} {catalog catalog' : Catalog}
    {before before' : List FileDecl} {f settled : FileDecl} {edition : Edition} {type type' : FileType}
    (hdefs : catalog'.defs = catalog.defs)
    (hbefore : before'.map FileDecl.links = before.map FileDecl.links)
    (hsettled : s.file f = .ok settled)
    (h : fileType catalog files before f edition = .ok type)
    (h' : fileType catalog' files' before' settled edition = .ok type') :
    (flattenTrees type'.messages).map MessageType.outline =
        (flattenTrees type.messages).map MessageType.outline ∧
      type'.extensions.map ExtensionType.outline = type.extensions.map ExtensionType.outline := by
  obtain ⟨p, inTrees, own, -, rfl, hp, htrees, -, -, hown, -, hall⟩ := fileType_eq_ok h
  obtain ⟨p', inTrees', own', -, hedition, hp', htrees', -, -, hown', -, hall'⟩ := fileType_eq_ok h'
  -- both files see the same names, though the files before them have other options
  have hview : p'.view = p.view := by
    rw [hp, hp', hdefs]
    exact viewOf_congr hbefore catalog.defs (links_of_settledFile hsettled)
  obtain ⟨_, -, messages, hmessages, _, -, _, -, extensions, hextensions, rfl⟩ :=
    settledFile_eq_ok_iff.mp hsettled
  obtain ⟨htreesSame, hinTrees⟩ := outlines_of_messageTrees hview hedition hmessages htrees htrees'
  have hownSame := outlines_of_extensionTypes hview hedition
    ((mapM_eq_ok_iff.mp hextensions).imp fun _ _ => isSettledField) hown hown'
  exact ⟨htreesSame, by rw [hall, hall', List.map_append, List.map_append, hinTrees, hownSame]⟩

end Files

/-! ## Pools -/

/-- A type is made of a file. -/
def IsTypeOf (f : FileDecl) (type : FileType) : Prop :=
  ∃ catalog all before edition, fileType catalog all before f edition = .ok type

/-- A type is made of a file whose options are settled by a pool. -/
def IsSettledBy (first : Pool) (f : FileDecl) (type : FileType) : Prop :=
  ∃ (s : Settler) (settled : FileDecl), s.pool = first ∧ s.file f = .ok settled ∧ IsTypeOf settled type

section Pools

variable {first : Pool} {defs : List Definition}

/-- Settled files have types with the forms of those that were declared. The induction goes along the
files, with those before. -/
theorem outlines_of_fileTypes {catalog catalog' : Catalog} (hdefs : catalog'.defs = catalog.defs)
    {all all' before before' seen : List FileDecl}
    (hbefore : before'.map FileDecl.links = before.map FileDecl.links)
    {files settled : List (FileDecl × Edition)} {types types' : List FileType}
    (hsettled : settleFiles first defs seen files = .ok settled)
    (h : fileTypes catalog all before files = .ok types)
    (h' : fileTypes catalog' all' before' settled = .ok types') :
    Pool.SameForms ⟨types⟩ ⟨types'⟩ ∧
      List.Forall₂ (fun f type => IsTypeOf f.1 type) files types ∧
      List.Forall₂ (fun f type => IsSettledBy first f.1 type) files types' := by
  induction files generalizing before before' seen settled types types' with
  | nil =>
    obtain rfl := Except.ok.inj hsettled
    obtain rfl := Except.ok.inj h
    obtain rfl := Except.ok.inj h'
    exact ⟨⟨rfl, rfl⟩, .nil, .nil⟩
  | cons f fs ih =>
    obtain ⟨g, more, hg, hmore, rfl⟩ := settleFiles_cons_eq_ok hsettled
    obtain ⟨type, types, htype, htypes, rfl⟩ := fileTypes_cons_eq_ok h
    obtain ⟨type', types', htype', htypes', rfl⟩ := fileTypes_cons_eq_ok h'
    obtain ⟨hmessages, hextensions⟩ := outlines_of_fileType hdefs hbefore hg htype htype'
    -- a file is resolved by the links of those before it, which settling leaves as they are
    have hnext : (before' ++ [g]).map FileDecl.links = (before ++ [f.1]).map FileDecl.links := by
      rw [List.map_append, List.map_append, hbefore, List.map_singleton, List.map_singleton,
        links_of_settledFile hg]
    obtain ⟨⟨hrest, hrestExtensions⟩, hmade, hsettledBy⟩ := ih hnext hmore htypes htypes'
    refine ⟨⟨?_, ?_⟩, .cons ⟨_, _, _, _, htype⟩ hmade,
      .cons ⟨_, g, rfl, hg, _, _, _, _, htype'⟩ hsettledBy⟩
    · simp only [Pool.messages, List.flatMap_cons, List.map_append, hmessages] at hrest ⊢
      rw [hrest]
    · simp only [Pool.extensions, List.flatMap_cons, List.map_append, hextensions] at hrestExtensions ⊢
      rw [hrestExtensions]

/-- The options of a pool were settled by a pool of the declared files, which has messages and
extensions of the same forms. -/
theorem exists_first_pool {decls : List FileDecl} {pool : Pool} (h : Pool.ofDecls decls = .ok pool) :
    ∃ first : Pool, first.SameForms pool ∧ List.Forall₂ IsTypeOf decls first.files ∧
      List.Forall₂ (IsSettledBy first) decls pool.files := by
  obtain ⟨files, defs, first, settled, hfiles, -, hfirst, hsettled, hpool⟩ := exists_steps h
  rw [Pool.ofFiles] at hfirst hpool
  obtain ⟨types, htypes, hfirst⟩ := bind_eq_ok_iff.mp hfirst
  obtain rfl := pure_eq_ok_iff.mp hfirst
  obtain ⟨types', htypes', hpool⟩ := bind_eq_ok_iff.mp hpool
  obtain rfl := pure_eq_ok_iff.mp hpool
  obtain ⟨hsame, hmade, hsettledBy⟩ := outlines_of_fileTypes (by rfl) (by rfl) hsettled htypes htypes'
  have hdecls := editions_eq_some_iff.mp hfiles
  refine ⟨⟨types⟩, hsame, ?_, ?_⟩
  · refine forall₂_trans hdecls hmade ?_
    rintro decl f type ⟨rfl, -⟩ htype
    exact htype
  · refine forall₂_trans hdecls hsettledBy ?_
    rintro decl f type ⟨rfl, -⟩ htype
    exact htype

end Pools

end ProtoRest.Descriptor
