import Mathlib.Data.List.Nodup
import ProtoRest.Descriptor.Canonical
import ProtoRest.Proofs.Wire.Rearranged

/-! # Slots of a message
The canonical form of a message collects the values of each number in a slot and writes the slots out
in order, so that what a number has there is decided by its slot (`values_canonicalLevel`). A slot has
all values of its number when none of them has to be merged and no member of the same choice comes
after them (`slot_foldl`); and it does not depend on any other slot (`slot_foldl_congr`). -/

namespace ProtoRest.Descriptor

open ProtoRest.Wire

/-! ## Slots -/

section Slots

variable {slots : Slots} {k : Nat}

/-- A slot of another number is looked up behind the first. -/
theorem lookup_cons_of_ne {k n : Nat} (h : k ≠ n) (values : List Raw) (slots : Slots) :
    ((n, values) :: slots).lookup k = slots.lookup k := by
  rw [List.lookup_cons, beq_eq_false_iff_ne.mpr h]

/-- Setting a slot sets the values of its number and keeps all others. -/
theorem lookup_setSlot (number : Nat) (values : List Raw) (slots : Slots) (k : Nat) :
    (setSlot number values slots).lookup k = if k = number then some values else slots.lookup k := by
  induction slots with
  | nil =>
    rw [setSlot]
    split_ifs with hk
    · rw [hk, List.lookup_cons_self]
    · rw [lookup_cons_of_ne hk]
  | cons s slots ih =>
    obtain ⟨n, old⟩ := s
    by_cases hk : k = number
    · subst hk
      rw [setSlot, if_pos rfl]
      -- a slot is put in front, replaced, or set further back
      split_ifs with hlt heq
      · rw [List.lookup_cons_self]
      · rw [heq, List.lookup_cons_self]
      · rw [lookup_cons_of_ne heq, ih, if_pos rfl]
    · rw [setSlot, if_neg hk]
      split_ifs with hlt heq
      · rw [lookup_cons_of_ne hk]
      · rw [← heq, lookup_cons_of_ne hk, lookup_cons_of_ne hk]
      · rw [List.lookup_cons, List.lookup_cons, ih, if_neg hk]

/-- Setting a slot sets its values and keeps those of all others. -/
theorem slot_setSlot (number : Nat) (values : List Raw) (slots : Slots) (k : Nat) :
    slot (setSlot number values slots) k = if k = number then values else slot slots k := by
  rw [slot, slot, lookup_setSlot]
  split_ifs <;> rfl

/-- A slot that is kept is found as before, and no other is. -/
theorem lookup_filter (keep : Nat → Bool) (slots : Slots) (k : Nat) :
    (slots.filter fun s => keep s.1).lookup k = if keep k then slots.lookup k else none := by
  induction slots with
  | nil => simp
  | cons s slots ih =>
    obtain ⟨n, values⟩ := s
    rw [List.filter_cons]
    dsimp only
    by_cases hk : k = n
    · subst hk
      by_cases hkeep : keep k = true
      · rw [if_pos hkeep, if_pos hkeep, List.lookup_cons_self, List.lookup_cons_self]
      · rw [if_neg hkeep, if_neg hkeep, ih, if_neg hkeep]
    · rw [lookup_cons_of_ne hk, ← ih]
      by_cases hkeep : keep n = true
      · rw [if_pos hkeep, lookup_cons_of_ne hk]
      · rw [if_neg hkeep]

/-- A slot that is kept has its values, and any other has none. -/
theorem slot_filter (keep : Nat → Bool) (slots : Slots) (k : Nat) :
    slot (slots.filter fun s => keep s.1) k = if keep k then slot slots k else [] := by
  rw [slot, slot, lookup_filter]
  split_ifs <;> rfl

/-- The slots are in the order of their numbers, one for each. -/
def InOrder (slots : Slots) : Prop := slots.Pairwise fun a b => a.1 < b.1

/-- Setting a slot adds no number but its own. -/
theorem fst_of_mem_setSlot {number : Nat} {values : List Raw} {s : Nat × List Raw}
    (h : s ∈ setSlot number values slots) : s.1 = number ∨ ∃ t ∈ slots, t.1 = s.1 := by
  induction slots with
  | nil =>
    rw [setSlot, List.mem_singleton] at h
    exact .inl (by rw [h])
  | cons t slots ih =>
    rw [setSlot] at h
    split_ifs at h with hlt heq
    · obtain rfl | h := List.mem_cons.mp h
      · exact .inl rfl
      · exact .inr ⟨s, h, rfl⟩
    · obtain rfl | h := List.mem_cons.mp h
      · exact .inl heq.symm
      · exact .inr ⟨s, List.mem_cons_of_mem t h, rfl⟩
    · obtain rfl | h := List.mem_cons.mp h
      · exact .inr ⟨_, List.mem_cons_self, rfl⟩
      · obtain hs | ⟨u, hu, hs⟩ := ih h
        · exact .inl hs
        · exact .inr ⟨u, List.mem_cons_of_mem t hu, hs⟩

/-- Setting a slot keeps the slots in order. -/
theorem InOrder.setSlot (h : InOrder slots) (number : Nat) (values : List Raw) :
    InOrder (setSlot number values slots) := by
  induction slots with
  | nil => exact List.pairwise_singleton _ _
  | cons t slots ih =>
    obtain ⟨n, old⟩ := t
    obtain ⟨hhead, htail⟩ := List.pairwise_cons.mp h
    rw [Descriptor.setSlot]
    -- the new slot goes in front of all larger numbers
    split_ifs with hlt heq
    · refine List.pairwise_cons.mpr ⟨fun s hs => ?_, h⟩
      obtain rfl | hs := List.mem_cons.mp hs
      · exact hlt
      · exact Nat.lt_trans hlt (hhead s hs)
    · exact List.pairwise_cons.mpr ⟨hhead, htail⟩
    · refine List.pairwise_cons.mpr ⟨fun s hs => ?_, ih htail⟩
      obtain hs | ⟨t, ht, hs⟩ := fst_of_mem_setSlot hs
      · dsimp only
        omega
      · rw [← hs]
        exact hhead t ht

/-- The order of slots does not change what is found. -/
theorem lookup_ownFirst (type : MessageType) (slots : Slots) (k : Nat) :
    (ownFirst type slots).lookup k = slots.lookup k := by
  have hown := lookup_filter (fun n => (type.field? n).isSome) slots k
  have hother := lookup_filter (fun n => !(type.field? n).isSome) slots k
  rw [ownFirst, List.lookup_append, hown, hother]
  cases (type.field? k).isSome <;> simp

/-- Slots in order have distinct numbers, also with those of the type before all others. -/
theorem nodup_ownFirst (h : InOrder slots) (type : MessageType) :
    ((ownFirst type slots).map (·.1)).Nodup := by
  have hperm := (List.filter_append_perm (fun s : Nat × List Raw => (type.field? s.1).isSome) slots).map
    (·.1)
  rw [ownFirst, hperm.nodup_iff, List.nodup_iff_pairwise_ne, List.pairwise_map]
  exact h.imp fun hlt => Nat.ne_of_lt hlt

/-- When slots are written out, each number has the values of its slot. -/
theorem values_flatMap (h : (slots.map (·.1)).Nodup) (write : Nat × List Raw → List Raw)
    (k : Nat) : Fields.values (slots.flatMap fun s => (write s).map fun value => (s.1, value)) k =
      ((slots.lookup k).map fun values => write (k, values)).getD [] := by
  induction slots with
  | nil => rfl
  | cons s slots ih =>
    obtain ⟨n, values⟩ := s
    rw [List.map_cons, List.nodup_cons] at h
    rw [List.flatMap_cons, Fields.values_append, ih h.2, List.lookup_cons]
    by_cases hk : n = k
    · subst hk
      -- all numbers differ, so no later slot adds to this one
      have hrest : slots.lookup n = none := by
        rw [List.lookup_eq_none_iff]
        intro s hs
        have hne : n ≠ s.1 := fun heq => h.1 (List.mem_map.mpr ⟨s, hs, heq.symm⟩)
        simpa using hne
      have hvalues : Fields.values ((write (n, values)).map fun value => (n, value)) n =
          write (n, values) := by
        rw [Fields.values, List.filterMap_map]
        simp
      simp [hrest, hvalues]
    · have hvalues : Fields.values ((write (n, values)).map fun value => (n, value)) k = [] := by
        refine Fields.values_eq_nil fun f hf => ?_
        obtain ⟨value, -, rfl⟩ := List.mem_map.mp hf
        exact hk
      have hne : (k == n) = false := beq_eq_false_iff_ne.mpr (Ne.symm hk)
      rw [hvalues, hne]
      rfl

end Slots

/-! ## Collecting values -/

section Collecting

variable {p : Pool} {type : MessageType} {slots : Slots} {k : Nat}

/-- Setting a field clears another one when both are members of a choice. -/
def Clears (type : MessageType) (f : FieldType) (k : Nat) : Prop :=
  f.oneof.isSome ∧ (type.field? k).bind (·.oneof) = f.oneof

/-- The field under a number has this number. -/
theorem fieldOf?_number {f : FieldType} (h : p.fieldOf? type k = some f) : f.number = k := by
  rw [Pool.fieldOf?] at h
  split at h
  · next g hg =>
    obtain rfl := Option.some.inj h
    simpa using List.find?_some hg
  · obtain ⟨x, hx, rfl⟩ := Option.map_eq_some_iff.mp h
    have hfound := List.find?_some hx
    simp only [Bool.and_eq_true, beq_iff_eq] at hfound
    exact hfound.2

/-- A field that is cleared is a member of the same choice. -/
theorem Clears.oneof_eq {f g : FieldType} (h : Clears type g k) (hf : p.fieldOf? type k = some f) :
    g.oneof.isSome ∧ f.oneof = g.oneof := by
  obtain ⟨hsome, hchoice⟩ := h
  refine ⟨hsome, ?_⟩
  cases hown : type.field? k with
  | none =>
    rw [hown, Option.bind_none] at hchoice
    rw [← hchoice] at hsome
    cases hsome
  | some f' =>
    rw [Pool.fieldOf?, hown] at hf
    obtain rfl := Option.some.inj hf
    rwa [hown, Option.bind_some] at hchoice

/-! ### One value -/

/-- Whether a value of a number spares the values of another one: it clears those of its rivals. -/
def spares (p : Pool) (type : MessageType) (number k : Nat) : Bool :=
  match p.fieldOf? type number with
  | none => true
  | some f =>
    match f.oneof with
    | none => true
    | some choice => k == f.number || (type.field? k).bind (·.oneof) != some choice

/-- The values that a value of a repeated field stands for. -/
def unpacked : Raw → List Raw
  | .packed values => values
  | value => [value]

/-- The values of a number with one more. -/
def extended (p : Pool) (type : MessageType) (number : Nat) (values : List Raw) (value : Raw) :
    List Raw :=
  match p.fieldOf? type number with
  | none => values ++ [value]
  | some f => if f.isRepeated then values ++ unpacked value else [mergeRaw values value]

/-- A field spares itself. -/
theorem spares_self (p : Pool) (type : MessageType) (n : Nat) : spares p type n n = true := by
  rw [spares]
  split
  · rfl
  · next f hf =>
    rw [fieldOf?_number hf]
    split
    · rfl
    · simp

/-- A field spares all that it does not clear. -/
theorem spares_of_not_clears {n : Nat} (h : ∀ f, p.fieldOf? type n = some f → ¬Clears type f k) :
    spares p type n k = true := by
  rw [spares]
  split
  · rfl
  · next f hf =>
    split
    · rfl
    · next choice hchoice =>
      have hother : (type.field? k).bind (·.oneof) ≠ some choice := by
        rw [← hchoice]
        exact fun hsame => h f hf ⟨by simp [hchoice], hsame⟩
      simp [hother]

/-- To clear the rivals of a field is to keep the slots that it spares. -/
theorem filter_spares (p : Pool) (type : MessageType) (n : Nat) (slots : Slots) :
    (slots.filter fun s => spares p type n s.1) =
      (p.fieldOf? type n).elim slots fun f => clearRivals type f slots := by
  simp only [spares]
  cases hf : p.fieldOf? type n with
  | none => exact List.filter_true slots
  | some f =>
    rw [Option.elim_some, clearRivals]
    cases hchoice : f.oneof with
    | none => simp only [hchoice, List.filter_true]
    | some choice => simp only [hchoice]

/-- A value is put in its slot among those that it spares. -/
theorem addValue_eq (p : Pool) (type : MessageType) (slots : Slots) (field : Nat × Raw) :
    addValue p type slots field =
      setSlot field.1 (extended p type field.1 (slot slots field.1) field.2)
        (slots.filter fun s => spares p type field.1 s.1) := by
  have hself := slot_filter (spares p type field.1) slots field.1
  rw [spares_self, if_pos rfl] at hself
  rw [← hself]
  obtain ⟨n, value⟩ := field
  dsimp only
  rw [filter_spares, addValue, extended]
  dsimp only
  cases p.fieldOf? type n with
  | none => rfl
  | some f =>
    dsimp only [Option.elim_some]
    split_ifs
    · cases value <;> rfl
    · rfl

/-- What a slot is after a value was added: the value extends its own slot, and may clear others. -/
theorem slot_addValue (field : Nat × Raw) (slots : Slots) (k : Nat) :
    slot (addValue p type slots field) k =
      if k = field.1 then extended p type field.1 (slot slots field.1) field.2
      else if spares p type field.1 k then slot slots k else [] := by
  have hleft := slot_filter (spares p type field.1) slots k
  rw [addValue_eq, slot_setSlot, hleft]

/-- Adding a value keeps the slots in order. -/
theorem InOrder.addValue (h : InOrder slots) (p : Pool) (type : MessageType) (field : Nat × Raw) :
    InOrder (addValue p type slots field) := by
  have hleft : InOrder (slots.filter fun s => spares p type field.1 s.1) := List.Pairwise.filter _ h
  rw [addValue_eq]
  exact hleft.setSlot _ _

/-- A value of another number leaves a slot as it is, unless it clears it. -/
theorem slot_addValue_of_ne {field : Nat × Raw} (hne : field.1 ≠ k)
    (hclears : ∀ f, p.fieldOf? type field.1 = some f → ¬Clears type f k) :
    slot (addValue p type slots field) k = slot slots k := by
  rw [slot_addValue, if_neg (Ne.symm hne), if_pos (spares_of_not_clears hclears)]

/-- A value goes behind those in its slot, as long as it need not be merged with one. -/
theorem slot_addValue_self {value : Raw} {f : FieldType} (hf : p.fieldOf? type k = some f)
    (hpacked : ∀ values, value ≠ .packed values) (hempty : f.isRepeated = false → slot slots k = []) :
    slot (addValue p type slots (k, value)) k = slot slots k ++ [value] := by
  rw [slot_addValue, if_pos rfl, extended]
  simp only [hf]
  split_ifs with hrepeated
  · cases value with
    | packed values => exact absurd rfl (hpacked values)
    | _ => rfl
  · rw [hempty (Bool.eq_false_iff.mpr hrepeated)]
    cases value <;> rfl

/-- What a slot becomes does not depend on the others. -/
theorem slot_addValue_congr {slots' : Slots} (h : slot slots k = slot slots' k) (field : Nat × Raw) :
    slot (addValue p type slots field) k = slot (addValue p type slots' field) k := by
  rw [slot_addValue, slot_addValue]
  split_ifs with hk
  · rw [← hk, h]
  · exact h
  · rfl

/-! ### All values -/

/-- Adding values one after the other keeps the slots in order. -/
theorem InOrder.foldl (h : InOrder slots) (p : Pool) (type : MessageType) (fs : Fields) :
    InOrder (fs.foldl (Descriptor.addValue p type) slots) := by
  induction fs generalizing slots with
  | nil => exact h
  | cons field fs ih => exact ih (h.addValue p type field)

/-- What a slot collects depends on what was in this slot only. -/
theorem slot_foldl_congr {slots' : Slots} (h : slot slots k = slot slots' k) (fs : Fields) :
    slot (fs.foldl (addValue p type) slots) k = slot (fs.foldl (addValue p type) slots') k := by
  induction fs generalizing slots slots' with
  | nil => exact h
  | cons field fs ih => exact ih (slot_addValue_congr h field)

/-- A slot that is empty stays so as long as values of other numbers come. -/
theorem slot_foldl_eq_nil {fs : Fields} (hne : ∀ field ∈ fs, field.1 ≠ k) (h : slot slots k = []) :
    slot (fs.foldl (addValue p type) slots) k = [] := by
  induction fs generalizing slots with
  | nil => exact h
  | cons field fs ih =>
    rw [List.forall_mem_cons] at hne
    refine ih hne.2 ?_
    rw [slot_addValue, if_neg (Ne.symm hne.1), h, ite_self]

/-- A slot collects the values of its number when none of them is cleared or merged. -/
theorem slot_foldl {f : FieldType} (hf : p.fieldOf? type k = some f) {fs : Fields}
    (hclears : ∀ field ∈ fs, field.1 ≠ k → ∀ g, p.fieldOf? type field.1 = some g →
      ¬Clears type g k)
    (hpacked : ∀ values, .packed values ∉ Fields.values fs k)
    (hsingle : f.isRepeated = false → (slot slots k ++ Fields.values fs k).length ≤ 1) :
    slot (fs.foldl (addValue p type) slots) k = slot slots k ++ Fields.values fs k := by
  induction fs generalizing slots with
  | nil => simp
  | cons field fs ih =>
    obtain ⟨n, value⟩ := field
    rw [List.forall_mem_cons] at hclears
    rw [List.foldl_cons]
    by_cases hn : n = k
    · subst hn
      rw [Fields.values_cons_self] at hpacked hsingle ⊢
      -- a field that is not repeated has one value at most, so its slot was empty before
      have hself : slot (addValue p type slots (n, value)) n = slot slots n ++ [value] := by
        refine slot_addValue_self hf (fun values h => hpacked values (by simp [h])) fun hrepeated => ?_
        have hlength := hsingle hrepeated
        rw [List.length_append, List.length_cons] at hlength
        exact List.length_eq_zero_iff.mp (by omega)
      rw [ih hclears.2 (fun values h => hpacked values (List.mem_cons_of_mem _ h)) (by
        rw [hself, List.append_assoc]
        exact hsingle), hself, List.append_assoc]
      rfl
    · rw [Fields.values_cons_of_ne hn] at hpacked hsingle ⊢
      have hother : slot (addValue p type slots (n, value)) k = slot slots k :=
        slot_addValue_of_ne hn (hclears.1 hn)
      rw [ih hclears.2 hpacked (by rwa [hother]), hother]

/-- A slot that was empty has the values of its number when none of them is cleared or merged. -/
theorem slot_foldl_eq_values {f : FieldType} (hf : p.fieldOf? type k = some f) {fs : Fields}
    (hclears : ∀ field ∈ fs, field.1 ≠ k → ∀ g, p.fieldOf? type field.1 = some g →
      ¬Clears type g k)
    (hpacked : ∀ values, .packed values ∉ Fields.values fs k)
    (hsingle : f.isRepeated = false → (Fields.values fs k).length ≤ 1) :
    slot (fs.foldl (addValue p type) []) k = Fields.values fs k :=
  slot_foldl hf hclears hpacked hsingle

/-- A field that is a member of no choice makes no difference to the slots of other numbers. -/
theorem slot_foldl_insert {before after : Fields} {field : Nat × Raw} (hne : field.1 ≠ k)
    (hchoice : ∀ f, p.fieldOf? type field.1 = some f → f.oneof = none) :
    slot ((before ++ field :: after).foldl (addValue p type) slots) k =
      slot ((before ++ after).foldl (addValue p type) slots) k := by
  rw [List.foldl_append, List.foldl_append, List.foldl_cons]
  refine slot_foldl_congr (slot_addValue_of_ne hne fun f hf hclears => ?_) after
  have hsome := hclears.1
  rw [hchoice f hf] at hsome
  cases hsome

end Collecting

/-! ## One level -/

/-- What is done to the fields of a message in a field of a type. -/
def innerOf (inner : String → Fields → Fields) : ValueType → Fields → Fields
  | .message name _ => inner name
  | .scalar _ | .enum _ => id

/-- The values of a number in canonical form, given those in its slot. -/
def levelValues (p : Pool) (inner : String → Fields → Fields) (type : MessageType) (number : Nat)
    (values : List Raw) : List Raw :=
  match p.fieldOf? type number with
  | none => values
  | some f => canonicalValues p f (innerOf inner f.type) values

section Level

variable {p : Pool} {type : MessageType} {message : String} {k : Nat} {f : FieldType}
  {inner : String → Fields → Fields}

/-- Without values there are no canonical ones. -/
theorem canonicalValues_nil (p : Pool) (f : FieldType) (inner : Fields → Fields) :
    canonicalValues p f inner [] = [] := by
  rw [canonicalValues]
  split
  · rfl
  · simp

/-- Without values there are none on a level. -/
theorem levelValues_nil (p : Pool) (inner : String → Fields → Fields) (type : MessageType)
    (number : Nat) : levelValues p inner type number [] = [] := by
  rw [levelValues]
  split
  · rfl
  · exact canonicalValues_nil _ _ _

/-- In canonical form, a number has what its slot decides. -/
theorem values_canonicalLevel (htype : p.message? message = some type) (fs : Fields) (k : Nat) :
    Fields.values (canonicalLevel p inner message fs) k =
      levelValues p inner type k (slot (fs.foldl (addValue p type) []) k) := by
  have horder : InOrder (fs.foldl (addValue p type) []) := InOrder.foldl .nil p type fs
  -- every slot is written by the type of its field, and an unknown one as it is
  have hwrite (s : Nat × List Raw) : (match p.fieldOf? type s.1 with
      | none => s.2
      | some f =>
        match f.type with
        | .message name _ => canonicalValues p f (inner name) s.2
        | .scalar _ | .enum _ => canonicalValues p f id s.2) =
      levelValues p inner type s.1 s.2 := by
    rw [levelValues]
    split
    · rfl
    · next f _ => cases f.type <;> rfl
  simp only [canonicalLevel, htype]
  rw [values_flatMap (nodup_ownFirst horder type), lookup_ownFirst, slot]
  cases List.lookup k (fs.foldl (addValue p type) []) with
  | none => exact (levelValues_nil _ _ _ _).symm
  | some values => exact hwrite (k, values)

/-- The canonical values of a field are made of what its slot collects. -/
theorem values_canonicalLevel_of_fieldOf? (htype : p.message? message = some type)
    (hf : p.fieldOf? type k = some f) (fs : Fields) :
    Fields.values (canonicalLevel p inner message fs) k =
      canonicalValues p f (innerOf inner f.type) (slot (fs.foldl (addValue p type) []) k) := by
  rw [values_canonicalLevel htype, levelValues, hf]

/-- In canonical form, a number that is not written has no values. -/
theorem values_canonicalLevel_eq_nil {fs : Fields} (hne : ∀ field ∈ fs, field.1 ≠ k) :
    Fields.values (canonicalLevel p inner message fs) k = [] := by
  cases htype : p.message? message with
  | none =>
    rw [canonicalLevel, htype]
    exact Fields.values_eq_nil hne
  | some type => rw [values_canonicalLevel htype, slot_foldl_eq_nil hne rfl, levelValues_nil]

end Level

end ProtoRest.Descriptor
