import ProtoRest.Descriptor.Form
import ProtoRest.Proofs.Descriptor.Slots

/-! # Tidy messages
A message is **tidy** when its canonical form drops, merges and replaces nothing: the values of every
number are kept, and only the fields change places (`TidyAt.rearranged`). A tidy message is read as it
was written (`TidyAt.conforms`). -/

namespace ProtoRest.Descriptor

open ProtoRest.Wire

/-- What a value becomes that is not part of a map. -/
def canonicalValue (f : FieldType) (inner : Fields → Fields) : Raw → Raw
  | .varint n => .varint (canonicalNumber f.type n)
  | .message fields => .message (inner fields)
  | .group fields => .group (inner fields)
  | value => value

/-- A value that a field keeps as it is written, given the messages that are tidy inside. -/
inductive TidyValue (p : Pool) (inner : String → Fields → Prop) (f : FieldType) : Raw → Prop
  /-- A text. -/
  | text {s : String} : f.type = .scalar .string → TidyValue p inner f (.text s)
  /-- A number of 32 bits with a sign. -/
  | int32 {n : Nat} : f.type = .scalar .int32 → f.isRepeated = false → n < 2 ^ 64 →
      natOfInt (int32OfNat n) = n → TidyValue p inner f (.varint n)
  /-- A message that is not an entry of a map. -/
  | message {name : String} {own : Fields} : f.type = .message name false → p.mapEntry? f = none →
      inner name own → TidyValue p inner f (.message own)

/-- Whether a value is written out, though it may be the one that stands for nothing. -/
def IsSeen (f : FieldType) (value : Raw) : Prop :=
  f.isRepeated = true ∨ f.presence = true ∨ isDefault f.type value = false

/-- A value of a number that is kept by the field of a type. -/
def IsKept (p : Pool) (inner : String → Fields → Prop) (type : MessageType) (a : Nat × Raw) : Prop :=
  IsFieldNumber a.1 ∧ ∃ f, p.fieldOf? type a.1 = some f ∧ f.packed = false ∧
    TidyValue p inner f a.2 ∧ IsSeen f a.2

/-- Fields of a type that its canonical form only rearranges. -/
structure TidyFields (p : Pool) (inner : String → Fields → Prop) (type : MessageType) (fs : Fields) :
    Prop where
  /-- Every value is kept by its field. -/
  kept : ∀ a ∈ fs, IsKept p inner type a
  /-- A field that may occur once does. -/
  once : ∀ k f, p.fieldOf? type k = some f → f.isRepeated = false →
    (Fields.values fs k).length ≤ 1
  /-- No two fields are members of one choice. -/
  apart : ∀ a ∈ fs, ∀ b ∈ fs, a.1 ≠ b.1 → ∀ f g, p.fieldOf? type a.1 = some f →
    p.fieldOf? type b.1 = some g → f.oneof.isSome → g.oneof ≠ f.oneof

/-- Fields of a message that its canonical form only rearranges, given those inside. -/
def TidyBy (p : Pool) (inner : String → Fields → Prop) (message : String) (fs : Fields) : Prop :=
  ∃ type, p.message? message = some type ∧ TidyFields p inner type fs

/-- Fields of a message that its canonical form only rearranges, as deep as a number says. -/
def TidyAt (p : Pool) : Nat → String → Fields → Prop
  | 0 => TidyBy p fun _ _ => False
  | depth + 1 => TidyBy p (TidyAt p depth)

section Tidy

variable {p : Pool} {message : String} {fs gs : Fields}

/-! ## Forms -/

section Forms

variable {type : MessageType} {inner : String → Fields → Prop}

variable {number : Nat} {form : FieldForm}

/-- A field of a given form is found in its message. -/
theorem exists_field_of_form (htype : p.message? message = some type)
    (h : p.formOf? message number = some form) :
    ∃ f, p.fieldOf? type number = some f ∧ f.form = form := by
  obtain ⟨found, f, hfound, hf, hform⟩ := Pool.formOf?_eq_some_iff.mp h
  obtain rfl := Option.some.inj (htype.symm.trans hfound)
  exact ⟨f, hf, hform⟩

variable (htype : p.message? message = some type) (hform : p.formOf? message number = some form)
  (hnumber : IsFieldNumber number) (hpacked : form.packed = false)

include htype hform hnumber hpacked

/-- A text is kept when its field tells an empty one from none, or when it is not empty. -/
theorem isKept_text {s : String} (hstring : form.type = .scalar .string)
    (hseen : form.presence = true ∨ s ≠ "") : IsKept p inner type (number, .text s) := by
  obtain ⟨f, hf, rfl⟩ := exists_field_of_form htype hform
  refine ⟨hnumber, f, hf, hpacked, .text hstring, .inr ?_⟩
  refine hseen.imp id fun hs => ?_
  rw [show f.type = .scalar .string from hstring]
  simpa [isDefault, isZero] using hs

/-- An integer in its normal encoding is kept by a field with presence. -/
theorem isKept_int32 {n : Nat} (hint : form.type = .scalar .int32) (hsingle : form.isRepeated = false)
    (hseen : form.presence = true) (hn : n < 2 ^ 64) (hsame : natOfInt (int32OfNat n) = n) :
    IsKept p inner type (number, .varint n) := by
  obtain ⟨f, hf, rfl⟩ := exists_field_of_form htype hform
  exact ⟨hnumber, f, hf, hpacked, .int32 hint hsingle hn hsame, .inr (.inl hseen)⟩

/-- A message is kept by a field of its type that is no map. -/
theorem isKept_message {name : String} {own : Fields} (hname : form.type = .message name false)
    (hentry : form.isRepeated = true → ∀ type ∈ p.message? name, type.mapEntry = false)
    (hown : inner name own) : IsKept p inner type (number, .message own) := by
  obtain ⟨f, hf, rfl⟩ := exists_field_of_form htype hform
  have hnone : p.mapEntry? f = none := by
    rw [Pool.mapEntry?, show f.type = .message name false from hname]
    by_cases hrepeated : f.isRepeated = true
    · simpa [hrepeated] using hentry hrepeated
    · simp [hrepeated]
  refine ⟨hnumber, f, hf, hpacked, .message hname hnone hown, .inr (.inr ?_)⟩
  rw [show f.type = .message name false from hname]
  rfl

omit htype hform hnumber hpacked

/-- A message is tidy when its values are kept by fields of the given forms, none of which occurs more
often than it may or beside a rival. -/
theorem tidyBy_of_forms {forms : List FieldForm} (hforms : p.HasForms message forms)
    (htype : p.message? message = some type) (hkept : ∀ a ∈ fs, IsKept p inner type a)
    (hnumbers : ∀ a ∈ fs, ∃ form ∈ forms, form.number = a.1)
    (honce : ∀ form ∈ forms, form.isRepeated = false → (Fields.values fs form.number).length ≤ 1)
    (hapart : ∀ a ∈ fs, ∀ b ∈ fs, a.1 ≠ b.1 → ∀ form ∈ forms, ∀ rival ∈ forms, form.number = a.1 →
      rival.number = b.1 → form.oneof.isSome → rival.oneof ≠ form.oneof) :
    TidyBy p inner message fs := by
  -- the field of a number has the form that the list gives for the number
  have hfield {a : Nat × Raw} (ha : a ∈ fs) {f : FieldType} (hf : p.fieldOf? type a.1 = some f) :
      ∃ form ∈ forms, form.number = a.1 ∧ f.form = form := by
    obtain ⟨form, hform, hnumber⟩ := hnumbers a ha
    obtain ⟨found, hfound, hsame⟩ := exists_field_of_form htype (hforms form hform)
    rw [hnumber] at hfound
    obtain rfl := Option.some.inj (hf.symm.trans hfound)
    exact ⟨form, hform, hnumber, hsame⟩
  refine ⟨type, htype, hkept, fun k f hf hsingle => ?_, ?_⟩
  · by_cases hk : ∃ a ∈ fs, a.1 = k
    · obtain ⟨a, ha, rfl⟩ := hk
      obtain ⟨form, hform, hnumber, rfl⟩ := hfield ha hf
      rw [← hnumber]
      exact honce _ hform hsingle
    · -- a number without fields holds no value
      rw [Fields.values_eq_nil fun a ha hnumber => hk ⟨a, ha, hnumber⟩]
      exact Nat.zero_le 1
  · intro a ha b hb hne f g hf hg hsome
    obtain ⟨form, hform, hnumber, rfl⟩ := hfield ha hf
    obtain ⟨rival, hrival, hrivalNumber, rfl⟩ := hfield hb hg
    exact hapart a ha b hb hne _ hform _ hrival hnumber hrivalNumber hsome

end Forms

/-- Tidy fields stay tidy when more messages count as tidy inside. -/
theorem TidyBy.imp {inner inner' : String → Fields → Prop} (h : TidyBy p inner message fs)
    (hinner : ∀ name own, inner name own → inner' name own) : TidyBy p inner' message fs := by
  obtain ⟨type, htype, hkept, honce, hapart⟩ := h
  refine ⟨type, htype, ?_, honce, hapart⟩
  rintro ⟨number, value⟩ ha
  obtain ⟨hnumber, f, hf, hpacked, hvalue, hseen⟩ := hkept _ ha
  refine ⟨hnumber, f, hf, hpacked, ?_, hseen⟩
  dsimp only at hvalue ⊢
  cases hvalue with
  | text hstring => exact .text hstring
  | int32 hint hsingle hn hsame => exact .int32 hint hsingle hn hsame
  | message hname hentry hown => exact .message hname hentry (hinner _ _ hown)

/-- A message is tidy when those inside are, each a level less deep. -/
theorem TidyAt.of_inner {depth : Nat}
    (h : TidyBy p (fun name own => ∃ d, depth = d + 1 ∧ TidyAt p d name own) message fs) :
    TidyAt p depth message fs := by
  cases depth with
  | zero =>
    refine h.imp fun name own hown => ?_
    obtain ⟨d, hd, -⟩ := hown
    cases hd
  | succ depth =>
    refine h.imp fun name own hown => ?_
    obtain ⟨d, hd, hown⟩ := hown
    obtain rfl := Nat.succ.inj hd
    exact hown

section Level

variable {type : MessageType} {inner : String → Fields → Prop} {f : FieldType}

/-- A tidy value is not packed. -/
theorem TidyValue.ne_packed {value : Raw} (h : TidyValue p inner f value) (values : List Raw) :
    value ≠ .packed values := by
  cases h <;> nofun

/-- A field with a tidy value is no map. -/
theorem TidyValue.mapEntry?_eq {value : Raw} (h : TidyValue p inner f value) :
    p.mapEntry? f = none := by
  cases h with
  | text htype => rw [Pool.mapEntry?, htype]
  | int32 htype => rw [Pool.mapEntry?, htype]
  | message _ hentry _ => exact hentry

/-- A value that is kept is not changed but inside of a message. -/
theorem TidyValue.same {canon : String → Fields → Fields} {value : Raw}
    (h : TidyValue p inner f value) :
    SameValue (fun own own' => ∃ name, inner name own ∧ own' = canon name own) value
        (canonicalValue f (innerOf canon f.type) value) ∧
      (IsSeen f value → IsSeen f (canonicalValue f (innerOf canon f.type) value)) := by
  cases h with
  | text _ => exact ⟨.refl _, id⟩
  | int32 htype _ _ hn =>
    rw [canonicalValue, htype, canonicalNumber, hn]
    exact ⟨.refl _, id⟩
  | @message name own htype _ hown =>
    rw [canonicalValue, htype, innerOf]
    refine ⟨.message ⟨name, hown, rfl⟩, fun _ => .inr (.inr ?_)⟩
    rw [htype]
    rfl

/-- The canonical values of a field whose values are kept are these, one by one. -/
theorem canonicalValues_eq_map {canon : String → Fields → Fields} {values : List Raw}
    (hpacked : f.packed = false) (hvalues : ∀ value ∈ values, TidyValue p inner f value ∧
      IsSeen f value) : canonicalValues p f (innerOf canon f.type) values =
        values.map (canonicalValue f (innerOf canon f.type)) := by
  cases values with
  | nil => rw [canonicalValues_nil, List.map_nil]
  | cons first more =>
    have hentry := (hvalues first List.mem_cons_self).1.mapEntry?_eq
    -- bringing a value into its form keeps it seen
    have hseen : ∀ value ∈ (first :: more).map (canonicalValue f (innerOf canon f.type)),
        IsSeen f value := by
      intro value hvalue
      obtain ⟨old, hold, rfl⟩ := List.mem_map.mp hvalue
      exact (hvalues old hold).1.same.2 (hvalues old hold).2
    rw [canonicalValues, hentry]
    show (if f.packed = true then _ else if f.isRepeated = true then
      (first :: more).map (canonicalValue f (innerOf canon f.type)) else
      ((first :: more).map (canonicalValue f (innerOf canon f.type))).filter
        fun value => f.presence || !isDefault f.type value) = _
    rw [hpacked, if_neg Bool.false_ne_true]
    split_ifs with hrepeated
    · rfl
    · -- the filter that drops default values drops none
      refine List.filter_eq_self.mpr fun value hvalue => ?_
      obtain hyes | hpresence | hdefault := hseen value hvalue
      · exact absurd hyes hrepeated
      · rw [hpresence, Bool.true_or]
      · rw [hdefault, Bool.not_false, Bool.or_true]

/-- The canonical form of a tidy message has its values, rearranged. -/
theorem TidyBy.rearranged {canon : String → Fields → Fields} (h : TidyBy p inner message fs) :
    RearrangedBy (fun own own' => ∃ name, inner name own ∧ own' = canon name own) fs
      (canonicalLevel p canon message fs) := by
  obtain ⟨type, htype, htidy⟩ := h
  intro k
  by_cases hk : ∀ a ∈ fs, a.1 ≠ k
  · rw [Fields.values_eq_nil hk, values_canonicalLevel_eq_nil hk]
    exact .nil
  · obtain ⟨a, ha, rfl⟩ : ∃ a ∈ fs, a.1 = k := by simpa using hk
    obtain ⟨-, f, hf, hpacked, -, -⟩ := htidy.kept a ha
    have hvalues : ∀ value ∈ Fields.values fs a.1, TidyValue p inner f value ∧ IsSeen f value := by
      intro value hvalue
      obtain ⟨-, g, hg, -, hkept⟩ := htidy.kept _ (Fields.mem_values.mp hvalue)
      obtain rfl := Option.some.inj (hf.symm.trans hg)
      exact hkept
    -- no other field clears the slot, since none of them is in one choice with this one
    have hclears : ∀ b ∈ fs, b.1 ≠ a.1 → ∀ g, p.fieldOf? type b.1 = some g →
        ¬Clears type g a.1 := by
      intro b hb hne g hg hclears
      obtain ⟨hsome, hchoice⟩ := hclears.oneof_eq hf
      exact htidy.apart b hb a ha hne g f hg hf hsome hchoice
    have hslot := slot_foldl_eq_values hf hclears
      (fun values hmem => (hvalues _ hmem).1.ne_packed values rfl) (htidy.once a.1 f hf)
    rw [values_canonicalLevel_of_fieldOf? htype hf, hslot, canonicalValues_eq_map hpacked hvalues,
      List.forall₂_map_right_iff, List.forall₂_same]
    exact fun value hvalue => (hvalues value hvalue).1.same.1

end Level

/-- The canonical form of a tidy message is the message rearranged. -/
theorem TidyAt.rearranged {depth : Nat} (h : TidyAt p depth message fs) :
    RearrangedAt depth fs (canonicalAt p depth message fs) := by
  induction depth generalizing message fs with
  | zero =>
    refine fun k => (TidyBy.rearranged h k).imp fun value value' hsame => ?_
    cases hsame with
    | refl => exact .refl _
    | message hown =>
      obtain ⟨name, hown, -⟩ := hown
      -- nothing is tidy below the last level
      exact hown.elim
  | succ depth ih =>
    refine fun k => (TidyBy.rearranged h k).imp fun value value' hsame => ?_
    cases hsame with
    | refl => exact .refl _
    | message hown =>
      obtain ⟨name, hown, rfl⟩ := hown
      exact .message (ih hown)

/-- A field of a tidy message conforms to the grammar of the pool, given those inside. -/
theorem TidyBy.conforms {inner : String → Fields → Prop} {depth : Nat}
    (hinner : ∀ {name own}, inner name own → ∃ d, depth = d + 1 ∧
      Conforms (poolGrammar p) d name own) (h : TidyBy p inner message fs) :
    Conforms (poolGrammar p) depth message fs := by
  obtain ⟨type, htype, htidy⟩ := h
  rw [conforms_iff]
  rintro ⟨number, value⟩ hmem
  obtain ⟨hnumber, f, hf, -, hvalue, -⟩ := htidy.kept _ hmem
  -- the grammar of the pool has the field that keeps the value
  have hspec : poolGrammar p message number = some ⟨message, f.name, shapeOfField f⟩ := by
    rw [poolGrammar, htype, Option.bind_some, hf]
    rfl
  cases hvalue with
  | text htext =>
    refine .text hnumber hspec ?_ .nil
    simp only [shapeOfField, htext]
  | int32 hint hsingle hn _ =>
    refine .varint hnumber hspec ?_ hn .nil
    simp only [shapeOfField, hint, hsingle]
    rfl
  | message hmessage _ hown =>
    obtain ⟨d, rfl, hown⟩ := hinner hown
    refine .message hnumber hspec ?_ hown .nil
    simp only [shapeOfField, hmessage]
    rfl

/-- A tidy message conforms to the grammar of the pool. -/
theorem TidyAt.conforms {depth : Nat} (h : TidyAt p depth message fs) :
    Conforms (poolGrammar p) depth message fs := by
  induction depth generalizing message fs with
  | zero => exact TidyBy.conforms (fun h => h.elim) h
  | succ depth ih => exact TidyBy.conforms (fun h => ⟨depth, rfl, ih h⟩) h

/-- Rearranged tidy fields have whole maps, given that those inside have. -/
theorem TidyBy.hasWholeMaps {inner : String → Fields → Prop} {rearranged : Fields → Fields → Prop}
    {whole : String → Fields → Bool}
    (hinner : ∀ {name own own'}, inner name own → own' = own ∨ rearranged own own' →
      whole name own' = true) (h : TidyBy p inner message fs) (hgs : RearrangedBy rearranged fs gs) :
    hasWholeMapsLevel p whole message gs = true := by
  obtain ⟨type, htype, htidy⟩ := h
  simp only [hasWholeMapsLevel, htype, List.all_eq_true]
  rintro ⟨number, value⟩ hmem
  -- every value was tidy before it was moved, so its field is no map
  obtain ⟨old, hold, hsame⟩ := hgs.exists_left hmem
  obtain ⟨-, f, hf, -, hkept, -⟩ := htidy.kept _ hold
  dsimp only at hf hkept
  simp only [hf, hkept.mapEntry?_eq, Option.all_none, Bool.true_and]
  cases hkept with
  | text htext => simp only [htext]
  | int32 hint => simp only [hint]
  | message hmessage _ hown =>
    simp only [hmessage]
    cases hsame with
    | refl => exact hinner hown (.inl rfl)
    | message hown' => exact hinner hown (.inr hown')

/-- A tidy message has no maps, and neither has what it is rearranged to. -/
theorem TidyAt.hasWholeMaps {depth : Nat} (h : TidyAt p depth message fs)
    (hgs : RearrangedAt depth fs gs) : hasWholeMapsAt p depth message gs = true := by
  induction depth generalizing message fs gs with
  | zero => exact TidyBy.hasWholeMaps (fun h => h.elim) h hgs
  | succ depth ih =>
    refine TidyBy.hasWholeMaps (fun hown hown' => ?_) h hgs
    obtain rfl | hown' := hown'
    · exact ih hown (.refl _ _)
    · exact ih hown hown'

end Tidy

end ProtoRest.Descriptor
