import ProtoRest.Proofs.Related
import ProtoRest.Proofs.Wire.RoundTrip
import ProtoRest.Wire.Fields

/-! # Rearranged fields
Fields are **rearranged** when every number keeps its values in their order, while fields of different
numbers may change places, and so on in the messages inside. What is rearranged takes as many bytes
(`length_of_rearranged`) and belongs to the same grammars (`Conforms.of_rearranged`). -/

namespace ProtoRest.Wire

/-! ## Values of a field -/

namespace Fields

variable {fs gs : Fields} {number : Nat}

/-- The values of a number in two runs of fields are those in the first and those in the second. -/
theorem values_append (fs gs : Fields) (number : Nat) :
    values (fs ++ gs) number = values fs number ++ values gs number :=
  List.filterMap_append

/-- A field in front is the first value of its number. -/
@[simp] theorem values_cons_self (number : Nat) (value : Raw) (fs : Fields) :
    values ((number, value) :: fs) number = value :: values fs number := by
  simp [values]

/-- A field in front leaves the values of other numbers alone. -/
theorem values_cons_of_ne {n : Nat} (h : n ≠ number) (value : Raw) (fs : Fields) :
    values ((n, value) :: fs) number = values fs number := by
  simp [values, h]

/-- The values of a number are those of its fields. -/
theorem mem_values {value : Raw} : value ∈ values fs number ↔ (number, value) ∈ fs := by
  simp only [values, List.mem_filterMap, Option.ite_none_right_eq_some, Option.some.injEq]
  constructor
  · rintro ⟨⟨_, _⟩, hmem, rfl, rfl⟩
    exact hmem
  · exact fun hmem => ⟨_, hmem, rfl, rfl⟩

/-- A number that no field has holds no value. -/
theorem values_eq_nil (h : ∀ f ∈ fs, f.1 ≠ number) : values fs number = [] :=
  List.eq_nil_iff_forall_not_mem.mpr fun _ hmem => h _ (mem_values.mp hmem) rfl

/-- Where no number is repeated, each has one value at most. -/
theorem length_values_of_nodup (h : (fs.map (·.1)).Nodup) (number : Nat) :
    (values fs number).length ≤ 1 := by
  induction fs with
  | nil => exact Nat.zero_le 1
  | cons f fs ih =>
    rw [List.map_cons, List.nodup_cons] at h
    obtain ⟨n, value⟩ := f
    by_cases hn : n = number
    · subst hn
      have hnone : values fs n = [] :=
        values_eq_nil fun f hf hnumber => h.1 (List.mem_map.mpr ⟨f, hf, hnumber⟩)
      rw [values_cons_self, hnone]
      exact Nat.le_refl 1
    · rw [values_cons_of_ne hn]
      exact ih h.2

/-- The first value of a number stands behind fields of other numbers. -/
theorem exists_split_of_values {value : Raw} {more : List Raw}
    (h : values fs number = value :: more) :
    ∃ before after, fs = before ++ (number, value) :: after ∧ values before number = [] ∧
      values after number = more := by
  induction fs with
  | nil => cases h
  | cons f fs ih =>
    obtain ⟨n, first⟩ := f
    by_cases hn : n = number
    · subst hn
      rw [values_cons_self] at h
      obtain ⟨rfl, hmore⟩ := List.cons.inj h
      exact ⟨[], fs, rfl, rfl, hmore⟩
    · rw [values_cons_of_ne hn] at h
      obtain ⟨before, after, rfl, hbefore, hafter⟩ := ih h
      exact ⟨(n, first) :: before, after, rfl, by rwa [values_cons_of_ne hn], hafter⟩

end Fields

/-! ## Rearranging -/

/-- A value and what it may become: itself, or a message with other fields. -/
inductive SameValue (inner : Fields → Fields → Prop) : Raw → Raw → Prop
  /-- It stays. -/
  | refl (value : Raw) : SameValue inner value value
  /-- The fields of a message are rearranged. -/
  | message {own own' : Fields} : inner own own' → SameValue inner (.message own) (.message own')

/-- Every number keeps its values, given what the messages among them may become. -/
def RearrangedBy (inner : Fields → Fields → Prop) (fs gs : Fields) : Prop :=
  ∀ number, List.Forall₂ (SameValue inner) (Fields.values fs number) (Fields.values gs number)

/-- Fields are rearranged, as deep as a number says. -/
def RearrangedAt : Nat → Fields → Fields → Prop
  | 0 => RearrangedBy fun _ _ => False
  | depth + 1 => RearrangedBy (RearrangedAt depth)

section Level

variable {inner : Fields → Fields → Prop} {fs gs : Fields}

/-- Every value among rearranged fields was there before, up to its own fields. -/
theorem RearrangedBy.exists_left (h : RearrangedBy inner fs gs) {number : Nat} {value : Raw}
    (hmem : (number, value) ∈ gs) : ∃ old, (number, old) ∈ fs ∧ SameValue inner old value := by
  obtain ⟨old, hold, hsame⟩ := exists_left_of_forall₂ (h number) value (Fields.mem_values.mpr hmem)
  exact ⟨old, Fields.mem_values.mp hold, hsame⟩

/-- What is seen of values but not in messages is seen alike of rearranged fields. -/
theorem RearrangedBy.filterMap_eq (h : RearrangedBy inner fs gs) {α : Type} {f : Raw → Option α}
    (hf : ∀ own own', f (.message own) = f (.message own')) (number : Nat) :
    (Fields.values gs number).filterMap f = (Fields.values fs number).filterMap f := by
  refine filterMap_eq_of_forall₂ ((h number).imp ?_)
  rintro _ _ (_ | _)
  · rfl
  · exact hf _ _

/-- Rearranging fields keeps the text read under a number. -/
theorem RearrangedBy.text?_eq (h : RearrangedBy inner fs gs) (number : Nat) :
    Fields.text? gs number = Fields.text? fs number := by
  rw [Fields.text?, Fields.text?, Fields.texts, Fields.texts, h.filterMap_eq fun _ _ => rfl]

/-- Rearranging fields keeps the integer read under a number. -/
theorem RearrangedBy.int32?_eq (h : RearrangedBy inner fs gs) (number : Nat) :
    Fields.int32? gs number = Fields.int32? fs number := by
  have hnats : Fields.nats gs number = Fields.nats fs number := by
    rw [Fields.nats, Fields.nats]
    refine flatMap_eq_of_forall₂ ((h number).imp ?_)
    rintro _ _ (_ | _) <;> rfl
  rw [Fields.int32?, Fields.int32?, hnats]

/-- Values that are the same up to their own fields have one wire type. -/
theorem wireType_of_sameValue {value value' : Raw} (h : SameValue inner value value') :
    value'.wireType = value.wireType := by
  cases h <;> rfl

/-- Rearranged fields take as many bytes if those inside do. The induction is on the fields before,
each of which is found among those after, behind fields of other numbers. -/
theorem RearrangedBy.length_eq
    (hinner : ∀ own own', inner own own' → (writeFields own').length = (writeFields own).length)
    (h : RearrangedBy inner fs gs) : (writeFields gs).length = (writeFields fs).length := by
  induction fs generalizing gs with
  | nil =>
    cases gs with
    | nil => rfl
    | cons g gs =>
      have hnone := h g.1
      rw [Fields.values_cons_self] at hnone
      cases hnone
  | cons f fs ih =>
    obtain ⟨number, value⟩ := f
    have hvalues := h number
    rw [Fields.values_cons_self] at hvalues
    generalize hgs : Fields.values gs number = values at hvalues
    obtain _ | ⟨hsame, hmore⟩ := hvalues
    rename_i value' more
    obtain ⟨before, after, rfl, hbefore, rfl⟩ := Fields.exists_split_of_values hgs
    -- without the field on both sides, the others are still rearranged
    have hrest : RearrangedBy inner fs (before ++ after) := by
      intro n
      by_cases hn : number = n
      · subst hn
        rwa [Fields.values_append, hbefore]
      · have hother := h n
        rwa [Fields.values_append, Fields.values_cons_of_ne hn, Fields.values_cons_of_ne hn,
          ← Fields.values_append] at hother
    have hwrite : (value'.write number).length = (value.write number).length := by
      cases hsame with
      | refl => rfl
      | message hown =>
        have hlength := hinner _ _ hown
        simp only [Raw.write, delimited, List.length_append, hlength]
    have hkey := wireType_of_sameValue hsame
    have hlength := ih hrest
    simp only [writeFields_append, writeFields, List.length_append, hkey, hwrite] at hlength ⊢
    omega

end Level

/-- Fields are a rearrangement of themselves at every depth. -/
theorem RearrangedAt.refl (depth : Nat) (fs : Fields) : RearrangedAt depth fs fs := by
  have hsame (inner : Fields → Fields → Prop) : RearrangedBy inner fs fs := fun number =>
    List.forall₂_same.mpr fun value _ => .refl value
  cases depth with
  | zero => exact hsame _
  | succ depth => exact hsame _

/-- What is rearranged keeps the values of every number, and the messages among them are rearranged. -/
theorem RearrangedAt.exists_inner {depth : Nat} {fs gs : Fields} (h : RearrangedAt depth fs gs) :
    RearrangedBy (fun own own' => ∃ depth, RearrangedAt depth own own') fs gs := by
  intro number
  cases depth with
  | zero =>
    refine (h number).imp fun value value' hsame => ?_
    cases hsame with
    | refl => exact .refl _
    | message hown => exact hown.elim
  | succ depth =>
    refine (h number).imp fun value value' hsame => ?_
    cases hsame with
    | refl => exact .refl _
    | message hown => exact .message ⟨depth, hown⟩

/-- Rearranged fields take as many bytes. -/
theorem length_of_rearranged {depth : Nat} {fs gs : Fields} (h : RearrangedAt depth fs gs) :
    (writeFields gs).length = (writeFields fs).length := by
  induction depth generalizing fs gs with
  | zero => exact RearrangedBy.length_eq (fun _ _ h => h.elim) h
  | succ depth ih => exact RearrangedBy.length_eq (fun _ _ h => ih h) h

/-! ## Grammars -/

section Grammars

variable {σ : Type} {g : Grammar σ}

/-- Fields conform to a message when the first does and the others do. -/
theorem Conforms.cons {depth : Nat} {type : σ} {f : Nat × Raw} {fs : Fields}
    (h : Conforms g depth type [f]) (hfs : Conforms g depth type fs) :
    Conforms g depth type (f :: fs) := by
  cases h with
  | varint hnumber hspec hshape hn _ => exact .varint hnumber hspec hshape hn hfs
  | unknown hnumber hspec hn _ => exact .unknown hnumber hspec hn hfs
  | text hnumber hspec hshape _ => exact .text hnumber hspec hshape hfs
  | message hnumber hspec hshape hown _ => exact .message hnumber hspec hshape hown hfs

/-- Fields conform to a grammar one by one. -/
theorem conforms_iff {depth : Nat} {type : σ} {fs : Fields} :
    Conforms g depth type fs ↔ ∀ f ∈ fs, Conforms g depth type [f] := by
  constructor
  · intro h
    -- each field conforms by the rule that let it in front of the others
    induction h with
    | nil => simp
    | varint hnumber hspec hshape hn _ ih =>
      exact List.forall_mem_cons.mpr ⟨.varint hnumber hspec hshape hn .nil, ih⟩
    | unknown hnumber hspec hn _ ih =>
      exact List.forall_mem_cons.mpr ⟨.unknown hnumber hspec hn .nil, ih⟩
    | text hnumber hspec hshape _ ih =>
      exact List.forall_mem_cons.mpr ⟨.text hnumber hspec hshape .nil, ih⟩
    | message hnumber hspec hshape hown _ _ ih =>
      exact List.forall_mem_cons.mpr ⟨.message hnumber hspec hshape hown .nil, ih⟩
  · intro h
    induction fs with
    | nil => exact .nil
    | cons f fs ih =>
      rw [List.forall_mem_cons] at h
      exact h.1.cons (ih h.2)

/-- Rearranged fields conform to every message that the fields conform to. -/
theorem Conforms.of_rearrangedBy {inner : Fields → Fields → Prop}
    (hinner : ∀ {own own' depth type}, inner own own' → Conforms g depth type own →
      Conforms g depth type own') {depth : Nat} {type : σ} {fs gs : Fields}
    (h : Conforms g depth type fs) (hgs : RearrangedBy inner fs gs) : Conforms g depth type gs := by
  rw [conforms_iff] at h ⊢
  rintro ⟨number, value⟩ hmem
  obtain ⟨old, hold, hsame⟩ := hgs.exists_left hmem
  have hone := h _ hold
  cases hsame with
  | refl => exact hone
  | message hown =>
    cases hone with
    | message hnumber hspec hshape hinside _ =>
      exact .message hnumber hspec hshape (hinner hown hinside) .nil

/-- Rearranged fields conform to the same grammars. -/
theorem Conforms.of_rearranged {levels depth : Nat} {type : σ} {fs gs : Fields}
    (h : Conforms g depth type fs) (hgs : RearrangedAt levels fs gs) : Conforms g depth type gs := by
  induction levels generalizing depth type fs gs with
  | zero => exact h.of_rearrangedBy (fun h => h.elim) hgs
  | succ levels ih => exact h.of_rearrangedBy (fun hown hinside => ih hinside hown) hgs

end Grammars

end ProtoRest.Wire
