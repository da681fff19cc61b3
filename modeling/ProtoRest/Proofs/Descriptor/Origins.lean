import ProtoRest.Proofs.Descriptor.DistinctNames
import ProtoRest.Proofs.Descriptor.MessageHeads

/-! # Origins of messages
Settling options and making types keep the messages of files and the names of their fields. So the
message that a pool has under a name is the one that the first file with that name declares: the
edition of the file decides about the presence of its fields, and their names differ
(`exists_origin`). -/

namespace ProtoRest.Descriptor

open Result

/-- The full name of a message and the names of its fields. -/
def headFields (m : String × MessageHead) : String × List String := (m.1, m.2.fields.map (·.name))

/-- A message as a file of an edition makes it from what it declares. -/
structure IsDeclaredAs (edition : Edition) (declared : String × List String) (m : MessageType) :
    Prop where
  /-- It has the declared name. -/
  name : m.fullName = declared.1
  /-- It has the declared fields in some order. -/
  fields : (m.fields.map (·.name)).Perm declared.2
  /-- The edition decides about the presence of the fields. -/
  presence : ∀ f ∈ m.fields, f.presence = f.hasPresence edition

/-! ## Files -/

/-- Settling keeps the fields of a file's messages as the types see them. -/
theorem headFields_of_settled {s : Settler} {f settled : FileDecl} (h : s.file f = .ok settled) :
    (headsInAll settled.package settled.messages).map headFields =
      (headsInAll f.package f.messages).map headFields := by
  obtain ⟨_, -, messages, hmessages, _, -, _, -, _, -, rfl⟩ := settledFile_eq_ok_iff.mp h
  refine map_eq_of_forall₂ (heads_of_settled_messages hmessages) fun m settled hm => ?_
  have hfields : settled.2.fields.map (·.name) = m.2.fields.map (·.name) := by
    refine map_eq_of_forall₂ (mapM_eq_ok_iff.mp hm.fields) fun f settled hf => ?_
    obtain ⟨_, -, rfl⟩ := settledField_eq_ok_iff.mp hf
    rfl
  rw [headFields, headFields, hm.name, hfields]

/-- A type made of a message is declared by the message's fields. -/
theorem IsMadeOf.isDeclaredAs {p : Place} {m : String × MessageHead} {type : MessageType}
    (h : IsMadeOf p m type) : IsDeclaredAs p.edition (headFields m) type := by
  obtain ⟨path, fields, hfields, hbyNumber⟩ := h.fields
  have hmade := fieldTypes_eq_ok hfields
  have hnames : fields.map (·.name) = m.2.fields.map (·.name) := by
    refine map_eq_of_forall₂ hmade ?_
    rintro f type ⟨_, _, hf⟩
    exact (fieldType_eq_ok hf).1
  refine ⟨h.name, ?_, fun f hf => ?_⟩
  · rw [hbyNumber, headFields, ← hnames]
    exact (perm_byNumber fields).map _
  · rw [hbyNumber, mem_byNumber] at hf
    obtain ⟨_, -, _, _, hf⟩ := exists_left_of_forall₂ hmade f hf
    exact (fieldType_eq_ok hf).2.2

/-- The messages of a file are made from those that it declares, one by one. -/
theorem isDeclaredAs_of_file {s : Settler} {catalog : Catalog} {all before : List FileDecl}
    {f settled : FileDecl} {edition : Edition} {type : FileType} (hsettled : s.file f = .ok settled)
    (htype : fileType catalog all before settled edition = .ok type) :
    List.Forall₂ (fun m => IsDeclaredAs edition (headFields m)) (headsInAll f.package f.messages)
      (flattenTrees type.messages) := by
  obtain ⟨p, _, _, -, rfl, -, hmessages, -⟩ := fileType_eq_ok htype
  have hmade : List.Forall₂ (IsDeclaredAs p.edition)
      ((headsInAll settled.package settled.messages).map headFields)
      (flattenTrees type.messages) := by
    rw [List.forall₂_map_left_iff]
    exact (heads_of_messageTrees hmessages).imp fun _ _ => IsMadeOf.isDeclaredAs
  rwa [headFields_of_settled hsettled, List.forall₂_map_left_iff] at hmade

/-! ## Pools -/

/-- The first message with a name comes from the first file that declares the name. -/
theorem exists_file_of_find? {files : List (FileDecl × Edition)} {types : List FileType}
    (h : List.Forall₂ (fun (f : FileDecl × Edition) type =>
      List.Forall₂ (fun m => IsDeclaredAs f.2 (headFields m))
        (headsInAll f.1.package f.1.messages) (flattenTrees type.messages)) files types)
    {name : String} {m : MessageType}
    (hm : (types.flatMap fun f => flattenTrees f.messages).find? (·.fullName == name) = some m) :
    ∃ f ∈ files, files.find? (·.1.declares name) = some f ∧
      ∃ head ∈ headsInAll f.1.package f.1.messages, IsDeclaredAs f.2 (headFields head) m := by
  induction h with
  | nil => cases hm
  | @cons f type files types hfile _ ih =>
    rw [List.flatMap_cons, List.find?_append] at hm
    cases hfirst : (flattenTrees type.messages).find? (·.fullName == name) with
    -- the message stands in the first file, which declares it
    | some found =>
      rw [hfirst, Option.some_or] at hm
      obtain rfl := Option.some.inj hm
      obtain ⟨head, hhead, hdeclared⟩ :=
        exists_left_of_forall₂ hfile found (List.mem_of_find?_eq_some hfirst)
      have hname : found.fullName = name := by simpa using List.find?_some hfirst
      rw [hdeclared.name] at hname
      have hdeclares : f.1.declares name = true :=
        List.any_eq_true.mpr ⟨head, hhead, beq_iff_eq.mpr hname⟩
      exact ⟨f, List.mem_cons_self, List.find?_cons_of_pos hdeclares, head, hhead, hdeclared⟩
    -- the first file does not declare the message: every head of a file has a type in it
    | none =>
      rw [hfirst, Option.none_or] at hm
      have hdeclares : ¬f.1.declares name = true := by
        intro hdeclares
        obtain ⟨head, hhead, hname⟩ := List.any_eq_true.mp hdeclares
        obtain ⟨found, hfound, hdeclared⟩ := exists_right_of_forall₂ hfile head hhead
        refine List.find?_eq_none.mp hfirst found hfound ?_
        rw [hdeclared.name]
        exact hname
      obtain ⟨g, hg, hfind, hhead⟩ := ih hm
      refine ⟨g, List.mem_cons_of_mem f hg, ?_, hhead⟩
      rw [List.find?_cons, Bool.eq_false_iff.mpr hdeclares]
      exact hfind

/-- A message of a pool that was built comes from a file of some edition. The edition decides about
the presence of its fields, and these have different names. -/
theorem exists_origin {decls : List FileDecl} {pool : Pool} (h : Pool.ofDecls decls = .ok pool)
    {name : String} {m : MessageType} (hm : pool.message? name = some m) :
    ∃ edition, editionOf? decls name = some edition ∧
      (∀ f ∈ m.fields, f.presence = f.hasPresence edition) ∧ (m.fields.map (·.name)).Nodup := by
  obtain ⟨files, defs, settled, hfiles, hdefs, hsettled, htypes⟩ := ofDecls_eq_ok h
  -- from the declared files over the settled ones to the types, one by one
  have hmessages := forall₂_trans hsettled htypes (T := fun (f : FileDecl × Edition) type =>
    List.Forall₂ (fun m => IsDeclaredAs f.2 (headFields m))
      (headsInAll f.1.package f.1.messages) (flattenTrees type.messages)) ?_
  · obtain ⟨f, hf, hfind, head, hhead, hdeclared⟩ := exists_file_of_find? hmessages hm
    have hdecls : files.map (·.1) = decls.map id := map_eq_of_forall₂ hfiles fun _ _ hdecl => hdecl.1
    obtain ⟨_, -, rfl, hedition⟩ := exists_left_of_forall₂ hfiles f hf
    refine ⟨f.2, ?_, hdeclared.presence, ?_⟩
    · rw [editionOf?, ← List.map_id decls, ← hdecls, List.find?_map]
      simp only [Function.comp_def, hfind, Option.map_some, Option.bind_some, hedition]
    · exact hdeclared.fields.nodup_iff.mpr (nodup_fieldNames hdefs hf hhead)
  · rintro f g type ⟨hedition, s, hsettle⟩ ⟨catalog, all, before, -, hfile⟩
    rw [hedition] at hfile
    exact isDeclaredAs_of_file hsettle hfile

end ProtoRest.Descriptor
