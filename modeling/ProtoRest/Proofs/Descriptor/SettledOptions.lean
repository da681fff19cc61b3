import ProtoRest.Descriptor.Form
import ProtoRest.Descriptor.Settle
import ProtoRest.Proofs.Descriptor.TidyMessages
import ProtoRest.Proofs.Wire.WrittenValues

/-! # Messages in options
Options are written and read again when they are settled, now with their extensions. A tidy message
that an extension holds comes out rearranged (`values_of_settled`), and holding it is never what makes
the options fail (`settled_of_insert`). -/

namespace ProtoRest.Descriptor

open ProtoRest.Wire Result

section Options

variable {s : Settler} {owner : OptionOwner} {scope extension message : String} {number : Nat}
  {own : Fields}

/-- The type of the options of an owner, with the field that holds an extension. -/
theorem Pool.HoldsMessage.exists_field {p : Pool}
    (h : p.HoldsMessage owner extension message number) :
    ∃ type f, p.message? owner.fullName = some type ∧ p.fieldOf? type number = some f ∧
      f.type = .message message false ∧ f.isRepeated = false ∧ f.presence = true ∧ f.oneof = none ∧
      f.packed = false := by
  obtain ⟨type, f, htype, hf, hform⟩ := formOf?_eq_some_iff.mp h.2
  simp only [FieldType.form, FieldForm.mk.injEq] at hform
  obtain ⟨-, hmessage, hrepeated, hpresence, honeof, hpacked⟩ := hform
  exact ⟨type, f, htype, hf, hmessage, hrepeated, hpresence, honeof, hpacked⟩

/-- A pool that knows the option of an owner reads the owner's options itself. -/
theorem Pool.HoldsMessage.forOptions {p : Pool}
    (h : p.HoldsMessage owner extension message number) : p.forOptions owner = p := by
  obtain ⟨type, -, htype, -⟩ := h.exists_field
  rw [Pool.forOptions, if_pos (by rw [htype]; rfl)]

/-- Options without open ones are settled when they can be read and their maps are whole. -/
theorem options_eq_ok_iff {options settled : Fields} (hopen : openOptionsOf options = []) :
    s.options owner scope options = .ok settled ↔
      if options.isEmpty then settled = []
      else readMessage (s.pool.forOptions owner) owner.fullName (writeFields options) = .ok settled ∧
        hasWholeMaps (s.pool.forOptions owner) owner.fullName settled = true := by
  rw [Settler.options]
  split_ifs with hempty
  · rw [Except.ok.injEq, eq_comm]
  · dsimp only
    cases readMessage (s.pool.forOptions owner) owner.fullName (writeFields options) with
    | error fault => simp
    | ok fields =>
      rw [hopen]
      dsimp only
      split_ifs with hwhole
      · rw [List.foldlM_nil]
        simp only [pure, Except.pure, mapError_ok, Except.ok.injEq]
        exact ⟨fun h => ⟨h, h ▸ hwhole⟩, And.left⟩
      · simp only [Except.ok.injEq, false_iff]
        rintro ⟨rfl, h⟩
        exact hwhole h

/-- A message is read from what was written for some fields when each of them is. -/
theorem readMessage_writeFields_eq_ok_iff {p : Pool} {options settled : Fields} :
    readMessage p message (writeFields options) = .ok settled ↔
      ∃ fields, List.Forall₂ (fun a b => b.1 = a.1 ∧
          ReadsAs (poolGrammar p) maxDepth (some message) a b.2) options fields ∧
        canonical p message fields = settled := by
  rw [readMessage, map_eq_ok_iff]
  simp only [Grammar.read, readAt_writeFields_iff]

/-- What the values of a number are read as. -/
theorem forall₂_values {R : Nat × Raw → Raw → Prop} {fs gs : Fields}
    (h : List.Forall₂ (fun a b => b.1 = a.1 ∧ R a b.2) fs gs) (k : Nat) :
    List.Forall₂ (fun value value' => R (k, value) value') (Fields.values fs k)
      (Fields.values gs k) := by
  induction h with
  | nil => exact .nil
  | @cons a b fs gs hab _ ih =>
    obtain ⟨n, value⟩ := a
    obtain ⟨m, value'⟩ := b
    obtain ⟨hnumber, hR⟩ := hab
    obtain rfl : m = n := hnumber
    by_cases hk : m = k
    · subst hk
      rw [Fields.values_cons_self, Fields.values_cons_self]
      exact .cons hR ih
    · rwa [Fields.values_cons_of_ne hk, Fields.values_cons_of_ne hk]

/-- The canonical form of fields is that of one level, with the forms of what is inside. -/
theorem canonical_eq_level (p : Pool) (message : String) (fields : Fields) :
    canonical p message fields = canonicalLevel p
      (fun name fields => canonicalAt p (maxDepth - 1) name fields) message fields := rfl

/-- Fields have whole maps when one level has, given those inside. -/
theorem hasWholeMaps_eq_level (p : Pool) (message : String) (fields : Fields) :
    hasWholeMaps p message fields = hasWholeMapsLevel p
      (fun name fields => hasWholeMapsAt p (maxDepth - 1) name fields) message fields := rfl

section Holds

variable (hholds : s.pool.HoldsMessage owner extension message number)
  (hown : TidyAt s.pool (maxDepth - 1) message own)

include hholds hown

/-- The bytes of a tidy message are read as the message where options hold it. -/
theorem readsAs_of_holds (hnumber : IsFieldNumber number)
    (hsize : (writeFields own).length < 2 ^ 64) :
    ReadsAs (poolGrammar s.pool) maxDepth (some owner.fullName) (number, .bytes (writeFields own))
      (.message own) := by
  obtain ⟨type, f, htype, hf, hmessage, -⟩ := hholds.exists_field
  have hspec : poolGrammar s.pool owner.fullName number =
      some ⟨owner.fullName, f.name, shapeOfField f⟩ := by
    rw [poolGrammar, htype, Option.bind_some, hf]
    rfl
  have hshape : shapeOfField f = .message message := by
    simp only [shapeOfField, hmessage]
    rfl
  exact readsAs_of_conforms hnumber hspec hshape hown.conforms hsize

omit hown in
/-- Options that hold a message once have it in canonical form. -/
theorem values_canonical_of_holds {fields : Fields}
    (hvalues : Fields.values fields number = [.message own]) :
    Fields.values (canonical s.pool owner.fullName fields) number =
      [.message (canonicalAt s.pool (maxDepth - 1) message own)] := by
  obtain ⟨type, f, htype, hf, hmessage, hrepeated, hpresence, honeof, hpacked⟩ := hholds.exists_field
  -- the field is in no oneof, so no other one clears it
  have hclears : ∀ a ∈ fields, a.1 ≠ number → ∀ g, s.pool.fieldOf? type a.1 = some g →
      ¬Clears type g number := by
    intro a _ _ g _ hclears
    obtain ⟨hsome, hchoice⟩ := hclears.oneof_eq hf
    rw [← hchoice, honeof] at hsome
    cases hsome
  have hslot := slot_foldl_eq_values hf hclears (by simp [hvalues]) (by simp [hvalues])
  rw [hvalues] at hslot
  have hentry : s.pool.mapEntry? f = none := by
    rw [Pool.mapEntry?, hmessage]
    simp [hrepeated]
  rw [canonical_eq_level, values_canonicalLevel_of_fieldOf? htype hf, hslot, hmessage,
    canonicalValues, hentry]
  simp [hpacked, hrepeated, hpresence, innerOf]

/-- A message that options hold once comes out rearranged when they are settled. -/
theorem values_of_settled {options settled : Fields} (hopen : openOptionsOf options = [])
    (hvalues : Fields.values options number = [.bytes (writeFields own)])
    (h : s.options owner scope options = .ok settled) :
    Fields.values settled number = [.message (canonicalAt s.pool (maxDepth - 1) message own)] ∧
      (writeFields own).length < 2 ^ 64 := by
  have hsome : ¬options.isEmpty = true := by
    intro hempty
    rw [List.isEmpty_iff.mp hempty] at hvalues
    cases hvalues
  rw [options_eq_ok_iff hopen, if_neg hsome, hholds.forOptions] at h
  obtain ⟨fields, hfields, rfl⟩ := readMessage_writeFields_eq_ok_iff.mp h.1
  have hread := forall₂_values hfields number
  rw [hvalues] at hread
  generalize hvalue : Fields.values fields number = values at hread
  obtain _ | ⟨hread, hnil⟩ := hread
  cases hnil
  have hsize := hread.length_lt
  -- the bytes are read as the one message they were written from
  obtain rfl := hread.unique (readsAs_of_holds hholds hown hread.number hsize)
  exact ⟨values_canonical_of_holds hholds hvalue, hsize⟩

omit hown in
/-- The other values in canonical form do not depend on the message that options hold. -/
theorem values_canonical_insert {before after : Fields} {value : Raw} {k : Nat} (hk : number ≠ k) :
    Fields.values (canonical s.pool owner.fullName (before ++ (number, value) :: after)) k =
      Fields.values (canonical s.pool owner.fullName (before ++ after)) k := by
  obtain ⟨type, f, htype, hf, -, -, -, honeof, -⟩ := hholds.exists_field
  have hchoice : ∀ g, s.pool.fieldOf? type number = some g → g.oneof = none := by
    intro g hg
    rw [hf] at hg
    rwa [← Option.some.inj hg]
  rw [canonical_eq_level, canonical_eq_level, values_canonicalLevel htype, values_canonicalLevel htype,
    slot_foldl_insert hk hchoice]

/-- Holding a message does not make a map that is not whole. -/
theorem hasWholeMaps_insert {before after : Fields}
    (honce : Fields.values (before ++ after) number = [])
    (hwhole : hasWholeMaps s.pool owner.fullName
      (canonical s.pool owner.fullName (before ++ after)) = true) :
    hasWholeMaps s.pool owner.fullName
      (canonical s.pool owner.fullName (before ++ (number, .message own) :: after)) = true := by
  obtain ⟨type, f, htype, hf, hmessage, hrepeated, -⟩ := hholds.exists_field
  have hvalues : Fields.values (before ++ (number, .message own) :: after) number =
      [.message own] := by
    rw [Fields.values_append, List.append_eq_nil_iff] at honce
    rw [Fields.values_append, Fields.values_cons_self, honce.1, honce.2]
    rfl
  simp only [hasWholeMaps_eq_level, hasWholeMapsLevel, htype, List.all_eq_true] at hwhole ⊢
  rintro ⟨k, value⟩ hmem
  rw [← Fields.mem_values] at hmem
  by_cases hk : number = k
  · -- the inserted message is no entry of a map, and has whole maps itself
    subst hk
    rw [values_canonical_of_holds hholds hvalues, List.mem_singleton] at hmem
    have hentry : s.pool.mapEntry? f = none := by
      rw [Pool.mapEntry?, hmessage]
      simp [hrepeated]
    simp only [hf, hentry, Option.all_none, Bool.true_and, hmessage, hmem]
    exact hown.hasWholeMaps hown.rearranged
  · -- all other numbers have the values they had
    rw [values_canonical_insert hholds hk, Fields.mem_values] at hmem
    exact hwhole _ hmem

omit hown in
/-- Options that can be settled are read one by one, and their maps are whole. -/
theorem exists_read_of_settled {options settled : Fields} (hopen : openOptionsOf options = [])
    (h : s.options owner scope options = .ok settled) :
    ∃ fields, List.Forall₂ (fun a b => b.1 = a.1 ∧
        ReadsAs (poolGrammar s.pool) maxDepth (some owner.fullName) a b.2) options fields ∧
      hasWholeMaps s.pool owner.fullName (canonical s.pool owner.fullName fields) = true := by
  rw [options_eq_ok_iff hopen, hholds.forOptions] at h
  split_ifs at h with hempty
  · obtain ⟨type, -, htype, -⟩ := hholds.exists_field
    refine ⟨[], by rw [List.isEmpty_iff.mp hempty]; exact .nil, ?_⟩
    simp only [hasWholeMaps_eq_level, hasWholeMapsLevel, htype, List.all_eq_true]
    rintro ⟨k, value⟩ hmem
    rw [← Fields.mem_values, canonical_eq_level, values_canonicalLevel_eq_nil (by simp)] at hmem
    cases hmem
  · obtain ⟨fields, hfields, rfl⟩ := readMessage_writeFields_eq_ok_iff.mp h.1
    exact ⟨fields, hfields, h.2⟩

/-- Holding a message is never what makes options fail: where the others can be settled, they can with
the message among them. -/
theorem settled_of_insert {before after others : Fields} (hnumber : IsFieldNumber number)
    (hsize : (writeFields own).length < 2 ^ 64)
    (honce : Fields.values (before ++ after) number = [])
    (hopen : openOptionsOf (before ++ after) = [])
    (hothers : s.options owner scope (before ++ after) = .ok others) :
    ∃ settled, s.options owner scope
      (before ++ (number, .bytes (writeFields own)) :: after) = .ok settled := by
  have hbytes : openOptionsOf (before ++ (number, .bytes (writeFields own)) :: after) = [] := by
    rw [← hopen, openOptionsOf, openOptionsOf, Fields.messages, Fields.messages,
      Fields.values_append, Fields.values_append]
    by_cases hk : number = openOptions
    · rw [hk, Fields.values_cons_self, List.filterMap_append, List.filterMap_append]
      rfl
    · rw [Fields.values_cons_of_ne hk]
  obtain ⟨fields, hfields, hwhole⟩ := exists_read_of_settled hholds hopen hothers
  obtain ⟨front, back, rfl, hfront, hback⟩ := exists_append_of_forall₂ hfields
  -- the number is not written elsewhere, so nothing else is read for it
  have honly : Fields.values (front ++ back) number = [] := by
    have hread := forall₂_values hfields number
    rw [honce] at hread
    exact List.forall₂_nil_left_iff.mp hread
  have hread : List.Forall₂ (fun a b => b.1 = a.1 ∧
      ReadsAs (poolGrammar s.pool) maxDepth (some owner.fullName) a b.2)
      (before ++ (number, .bytes (writeFields own)) :: after)
      (front ++ (number, .message own) :: back) :=
    List.rel_append hfront (.cons ⟨rfl, readsAs_of_holds hholds hown hnumber hsize⟩ hback)
  refine ⟨canonical s.pool owner.fullName (front ++ (number, .message own) :: back),
    (options_eq_ok_iff hbytes).mpr ?_⟩
  rw [if_neg (by simp), hholds.forOptions]
  exact ⟨readMessage_writeFields_eq_ok_iff.mpr ⟨_, hread, rfl⟩,
    hasWholeMaps_insert hholds hown honly hwhole⟩

end Holds

end Options

end ProtoRest.Descriptor
