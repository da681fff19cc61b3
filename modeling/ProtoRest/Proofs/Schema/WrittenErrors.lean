import ProtoRest.Proofs.Descriptor.TidyMessages
import ProtoRest.Proofs.Wire.WrittenValues
import ProtoRest.Schema.OptionForm

/-! # Written annotations of errors
The parts that the annotation of an error has are a tidy message of any pool that has its fields
(`tidyAt_fields`), and the annotation is read back from them with what is absent, also when they were
rearranged (`read_of_rearranged`). -/

namespace ProtoRest.Schema.ErrorOptions

open ProtoRest.Descriptor ProtoRest.Wire

variable {e : ErrorOptions}

/-! ## Numbers -/

/-- A number of 32 bits with a sign is read from the varint that stands for it. -/
theorem int32OfNat_natOfInt {n : Int} (h : -2147483648 ≤ n ∧ n < 2147483648) :
    int32OfNat (natOfInt n) = n := by
  have hnat : (natOfInt n : Int) = n % 0x10000000000000000 := by
    unfold natOfInt
    omega
  unfold int32OfNat
  rw [hnat]
  unfold Int.bmod
  dsimp only
  split <;> omega

/-- An integer is written in 64 bits. -/
theorem natOfInt_lt (n : Int) : natOfInt n < 2 ^ 64 := by
  unfold natOfInt
  omega

/-! ## Fields -/

/-- A field of the annotation is one of its numbers or one of its texts. -/
theorem mem_fields {a : Nat × Raw} (h : a ∈ e.fields) :
    (∃ number n, (number, some n) ∈ [(1, e.status), (2, e.code)] ∧ a = (number, .varint (natOfInt n))) ∨
      ∃ number s, (number, some s) ∈ [(3, e.reason), (4, e.message)] ∧ a = (number, .text s) := by
  simp only [fields, List.mem_append, List.mem_map, Option.mem_toList] at h
  obtain ((⟨n, hn, rfl⟩ | ⟨n, hn, rfl⟩) | ⟨s, hs, rfl⟩) | ⟨s, hs, rfl⟩ := h
  · exact .inl ⟨1, n, by simp_all, rfl⟩
  · exact .inl ⟨2, n, by simp_all, rfl⟩
  · exact .inr ⟨3, s, by simp_all, rfl⟩
  · exact .inr ⟨4, s, by simp_all, rfl⟩

/-- An optional value is the value of its number, if there is one, and no other number holds one. -/
theorem values_toList_map {α : Type} (o : Option α) (raw : α → Raw) (number k : Nat) :
    Fields.values (o.toList.map fun a => (number, raw a)) k =
      if k = number then o.toList.map raw else [] := by
  cases o with
  | none => simp
  | some a =>
    by_cases hk : number = k
    · simp [Fields.values, hk]
    · simp [Fields.values, hk, Ne.symm hk]

/-- The values of every number in the annotation. -/
theorem values_fields (e : ErrorOptions) (k : Nat) : Fields.values e.fields k =
    (if k = 1 then e.status.toList.map (Raw.varint <| natOfInt ·) else []) ++
      (if k = 2 then e.code.toList.map (Raw.varint <| natOfInt ·) else []) ++
      (if k = 3 then e.reason.toList.map Raw.text else []) ++
      (if k = 4 then e.message.toList.map Raw.text else []) := by
  simp only [fields, Fields.values_append, values_toList_map]

/-- Every part is written at most once. -/
theorem nodup_numbers (e : ErrorOptions) : (e.fields.map (·.1)).Nodup := by
  obtain ⟨status, code, reason, message⟩ := e
  cases status <;> cases code <;> cases reason <;> cases message <;> simp [fields]

/-- The status and the code of an error are integers of 32 bits, where they are set. -/
theorem fits_of_mem (hfits : e.FitsInt32) {number : Nat} {n : Int}
    (h : (number, some n) ∈ [(1, e.status), (2, e.code)]) : -2147483648 ≤ n ∧ n < 2147483648 := by
  refine hfits n ?_
  simp only [List.mem_cons, Prod.mk.injEq, List.not_mem_nil, or_false] at h
  rw [List.mem_append, Option.mem_toList, Option.mem_toList]
  obtain ⟨-, hn⟩ | ⟨-, hn⟩ := h
  · exact .inl hn.symm
  · exact .inr hn.symm

/-- The annotation of an error is a tidy message. -/
theorem tidyAt_fields {p : Pool} (hp : HasErrorForms p) (hfits : e.FitsInt32) (depth : Nat) :
    TidyAt p depth errorMessage e.fields := by
  obtain ⟨marked, hforms⟩ := hp
  obtain ⟨type, -, htype, -⟩ :=
    Pool.formOf?_eq_some_iff.mp (hforms (errorForm marked 1 "status" .int32) (by simp [errorForms]))
  have hint {number : Nat} (hmem : number ∈ [1, 2]) : IsFieldNumber number ∧
      ∃ name, errorForm marked number name .int32 ∈ errorForms marked := by
    simp only [List.mem_cons, List.not_mem_nil, or_false] at hmem
    obtain rfl | rfl := hmem
    · exact ⟨by decide, "status", by simp [errorForms]⟩
    · exact ⟨by decide, "code", by simp [errorForms]⟩
  have htext {number : Nat} (hmem : number ∈ [3, 4]) : IsFieldNumber number ∧
      ∃ name, errorForm marked number name .string ∈ errorForms marked := by
    simp only [List.mem_cons, List.not_mem_nil, or_false] at hmem
    obtain rfl | rfl := hmem
    · exact ⟨by decide, "reason", by simp [errorForms]⟩
    · exact ⟨by decide, "message", by simp [errorForms]⟩
  refine .of_inner (tidyBy_of_forms hforms htype ?_ ?_ ?_ ?_)
  · intro a ha
    obtain ⟨number, n, hn, rfl⟩ | ⟨number, s, hs, rfl⟩ := mem_fields ha
    · obtain ⟨hnumber, name, hform⟩ := hint (List.mem_map_of_mem (f := (·.1)) hn)
      refine isKept_int32 htype (hforms _ hform) hnumber rfl rfl rfl rfl (natOfInt_lt n) ?_
      rw [int32OfNat_natOfInt (fits_of_mem hfits hn)]
    · obtain ⟨hnumber, name, hform⟩ := htext (List.mem_map_of_mem (f := (·.1)) hs)
      exact isKept_text htype (hforms _ hform) hnumber rfl rfl (.inl rfl)
  · intro a ha
    obtain ⟨number, n, hn, rfl⟩ | ⟨number, s, hs, rfl⟩ := mem_fields ha
    · obtain ⟨-, name, hform⟩ := hint (List.mem_map_of_mem (f := (·.1)) hn)
      exact ⟨_, hform, rfl⟩
    · obtain ⟨-, name, hform⟩ := htext (List.mem_map_of_mem (f := (·.1)) hs)
      exact ⟨_, hform, rfl⟩
  · exact fun form _ _ => Fields.length_values_of_nodup (nodup_numbers e) form.number
  · intro a ha b hb hne form hform rival hrival hnumber hrivalNumber hsome hsame
    -- the choices that mark parts have different names
    have hchoices : ∀ marked, ∀ form ∈ errorForms marked, ∀ rival ∈ errorForms marked,
        form.oneof.isSome → rival.oneof = form.oneof → form.number = rival.number := by decide
    exact hne (by rw [← hnumber, ← hrivalNumber, hchoices marked form hform rival hrival hsome hsame])

/-! ## Reading -/

/-- A written error conforms to the grammar. -/
theorem conforms_fields (depth : Nat) : Conforms grammar depth () e.fields := by
  rw [conforms_iff]
  intro a ha
  obtain ⟨number, n, hn, rfl⟩ | ⟨number, s, hs, rfl⟩ := mem_fields ha
  · simp only [List.mem_cons, Prod.mk.injEq, List.not_mem_nil, or_false] at hn
    obtain ⟨rfl, -⟩ | ⟨rfl, -⟩ := hn <;> exact .varint (by decide) rfl rfl (natOfInt_lt n) .nil
  · simp only [List.mem_cons, Prod.mk.injEq, List.not_mem_nil, or_false] at hs
    obtain ⟨rfl, -⟩ | ⟨rfl, -⟩ := hs <;> exact .text (by decide) rfl rfl .nil

/-- The annotation has its parts and what is absent of it, if its numbers have 32 bits. -/
theorem ofFields_fields (hfits : e.FitsInt32) : ofFields e.fields = e := by
  -- a negative number is written in 64 bits and read back in 32
  have hint {number : Nat} {n : Option Int} (hmem : (number, n) ∈ [(1, e.status), (2, e.code)])
      (hvalues : Fields.values e.fields number = n.toList.map (Raw.varint <| natOfInt ·)) :
      Fields.int32? e.fields number = n := by
    rw [Fields.int32?, Fields.nats, hvalues]
    cases n with
    | none => rfl
    | some i => exact congrArg some (int32OfNat_natOfInt (fits_of_mem hfits hmem))
  have htext {number : Nat} {s : Option String}
      (hvalues : Fields.values e.fields number = s.toList.map Raw.text) :
      Fields.text? e.fields number = s := by
    rw [Fields.text?, Fields.texts, hvalues]
    cases s <;> rfl
  have hstatus : Fields.int32? e.fields 1 = e.status := hint (by simp) (by simp [values_fields])
  have hcode : Fields.int32? e.fields 2 = e.code := hint (by simp) (by simp [values_fields])
  have hreason : Fields.text? e.fields 3 = e.reason := htext (by simp [values_fields])
  have hmessage : Fields.text? e.fields 4 = e.message := htext (by simp [values_fields])
  rw [ofFields, hstatus, hcode, hreason, hmessage]

/-- Rearranged fields of an annotation are those of the annotation. -/
theorem ofFields_of_rearranged (hfits : e.FitsInt32) {depth : Nat} {fs : Fields}
    (h : RearrangedAt depth e.fields fs) : ofFields fs = e := by
  have hlevel := h.exists_inner
  have hsame : ofFields fs = ofFields e.fields := by
    simp only [ofFields, hlevel.text?_eq, hlevel.int32?_eq]
  rw [hsame, ofFields_fields hfits]

/-- The annotation of an error is read from what is written for its fields when they were
rearranged. -/
theorem read_of_rearranged (hfits : e.FitsInt32) {depth : Nat} {fs : Fields}
    (h : RearrangedAt depth e.fields fs) (hsize : (writeFields e.fields).length < 2 ^ 64) :
    read (writeFields fs) = .ok e := by
  have hread := readAt_writeFields ((conforms_fields maxDepth).of_rearranged h)
    (by rwa [length_of_rearranged h])
  rw [read, Grammar.read, hread]
  exact congrArg Except.ok (ofFields_of_rearranged hfits h)

end ProtoRest.Schema.ErrorOptions
