import ProtoRest.Proofs.Wire.Consumption

/-! # Reading written values
Of a value that was written, all bytes are taken and no more, whatever is read there
(`rest_of_readValue_write`). So a message is read from what was written for some fields exactly when
each of them is, and what is read from one does not depend on the others (`readAt_writeFields_iff`). -/

namespace ProtoRest.Wire

open Result

/-! ## Written values -/

section Written

/-- The groups of a written varint are read as it if they are read at all. -/
theorem eq_of_readVarintFrom_writeVarint {position n : Nat} {rest : Bytes} {r : Read Nat}
    (h : readVarintFrom position (writeVarint n ++ rest) = some r) :
    r = ⟨n, (writeVarint n).length, rest⟩ := by
  induction n using writeVarint.induct generalizing position r with
  | case1 n hn =>
    have hbyte : (UInt8.ofNat n).toNat = n := by
      rw [UInt8.toNat_ofNat']
      omega
    rw [writeVarint, if_pos hn, List.singleton_append, readVarintFrom, hbyte, if_pos hn] at h
    rw [writeVarint, if_pos hn]
    split_ifs at h <;> exact (Option.some.inj h).symm
  | case2 n hn ih =>
    have hbyte : (UInt8.ofNat (n % 128 + 128)).toNat = n % 128 + 128 := by
      rw [UInt8.toNat_ofNat']
      omega
    rw [writeVarint, if_neg hn, List.cons_append, readVarintFrom, hbyte] at h
    -- a byte with its highest bit set does not end the number
    split_ifs at h with hlast hend hend
    · omega
    · omega
    · obtain ⟨more, hmore, rfl⟩ := Option.map_eq_some_iff.mp h
      have hvalue : (n % 128 + 128) % 128 + 128 * (n / 128) = n := by omega
      have hlength : (writeVarint n).length = (writeVarint (n / 128)).length + 1 := by
        rw [writeVarint, if_neg hn, List.length_cons]
      rw [ih hmore, hvalue, hlength]

/-- A written varint is read as it if it is read at all. -/
theorem eq_of_readVarint_writeVarint {n : Nat} {rest : Bytes} {r : Read Nat}
    (h : readVarint (writeVarint n ++ rest) = some r) : r = ⟨n, (writeVarint n).length, rest⟩ :=
  eq_of_readVarintFrom_writeVarint h

/-- A key that is read back is the key of a field. -/
theorem eq_of_readKey_writeKey {number : Nat} {wire : WireType} {rest : Bytes} {r : Read Key}
    (h : readKey (writeKey number wire ++ rest) = .ok r) :
    IsFieldNumber number ∧ r = ⟨⟨number, wire⟩, (writeKey number wire).length, rest⟩ := by
  obtain ⟨n, found, hn, hmax, hfound, hzero, rfl⟩ := readKey_eq_ok h
  obtain rfl := eq_of_readVarint_writeVarint hn
  have hcode := code_lt wire
  have hlow : (number * 8 + wire.code) % 8 = wire.code := by omega
  have hhigh : (number * 8 + wire.code) / 8 = number := by omega
  dsimp only at hmax hfound hzero ⊢
  rw [hlow, ofCode?_code] at hfound
  obtain rfl := Option.some.inj hfound
  rw [hhigh] at hzero ⊢
  rw [maxKey] at hmax
  refine ⟨⟨by omega, ?_⟩, rfl⟩
  rw [maxKey]
  omega

/-- The length of delimited bytes is read as it if it is read at all, so it has 64 bits. -/
theorem eq_of_readLength_delimited {bs rest : Bytes} {r : Read Nat}
    (h : readLength (delimited bs ++ rest) = .ok r) :
    r = ⟨bs.length, (writeVarint bs.length).length, bs ++ rest⟩ ∧ bs.length < 2 ^ 64 := by
  obtain ⟨hvarint, -⟩ := readLength_eq_ok h
  have hlt := lt_of_readVarint hvarint
  rw [delimited, List.append_assoc] at hvarint
  obtain rfl := eq_of_readVarint_writeVarint hvarint
  exact ⟨rfl, hlt⟩

/-- A fixed number takes its width in bytes. -/
theorem length_writeFixed (width n : Nat) : (writeFixed width n).length = width := by
  induction width generalizing n with
  | zero => rfl
  | succ width ih => rw [writeFixed, List.length_cons, ih]

/-- What follows a number of bytes is left. -/
theorem rest_of_readExact {front rest : Bytes} {r : Read Bytes}
    (h : readExact front.length (front ++ rest) = .ok r) : r.rest = rest := by
  rw [readExact] at h
  split_ifs at h
  obtain rfl := Except.ok.inj h
  exact List.drop_left

variable {σ : Type} {g : Grammar σ}

/-- What the reading of a value takes, which its key decides whatever the field is. -/
inductive ValueExtent (fields : FieldsReader σ) (key : Key) (bs : Bytes) (r : Read Raw) : Prop
  /-- A number. -/
  | number (h : readNumber key.wire bs = .ok r)
  /-- A length and as many bytes. -/
  | delimited {n : Read Nat} (hwire : key.wire = .delimited) (hlength : readLength bs = .ok n)
    (hused : r.used = n.used + n.value)
  /-- Fields up to the mark of the group. -/
  | group {depth : Nat} {type : Option σ} {inner : Read Fields} (hwire : key.wire = .startGroup)
    (hinner : fields depth type (.mark key.number) bs = .ok inner) (hrest : r.rest = inner.rest)

section Extent

variable {fields : FieldsReader σ} {depth : Nat} {key : Key} {bs : Bytes} {r : Read Raw}

/-- A value of delimited bytes takes these and no more. -/
theorem ValueExtent.of_readDelimited {n : Read Bytes} (hwire : key.wire = .delimited)
    (h : readDelimited bs = .ok n) (hused : r.used = n.used) : ValueExtent fields key bs r := by
  obtain ⟨m, hm, rfl⟩ := readDelimited_eq_ok h
  exact .delimited hwire hm hused

/-- A value of fields up to a mark takes these and no more. -/
theorem ValueExtent.of_nested {type : Option σ} {inner : Read Fields}
    (hwire : key.wire = .startGroup)
    (h : nested fields depth type (.mark key.number) bs = .ok inner) (hrest : r.rest = inner.rest) :
    ValueExtent fields key bs r := by
  cases depth with
  | zero => cases h
  | succ depth => exact .group hwire h hrest

variable (hfields : ∀ {depth type n bs r}, fields depth type (.after n) bs = .ok r → r.used = n)

include hfields

/-- A value of a known field takes what its wire type says. -/
theorem ValueExtent.of_readKnown {shape : Shape σ} (h : readKnown fields depth shape key bs = .ok r) :
    ValueExtent fields key bs r := by
  cases shape with
  | number wire packable =>
    simp only [readKnown] at h
    -- a number stands alone, or packed with others behind a length
    split_ifs at h with hpacked hwire
    · obtain ⟨n, numbers, hn, hnumbers, rfl⟩ := readPacked_eq_ok (mapError_eq_ok_iff.mp h)
      rw [Bool.and_eq_true, beq_iff_eq] at hpacked
      exact .delimited hpacked.2 hn (by rw [(takesFront_readNumbers hnumbers).2])
    · exact .number (by rw [hwire]; exact mapError_eq_ok_iff.mp h)
  | text =>
    obtain ⟨hwire, n, s, hn, -, rfl⟩ := readKnown_text_eq_ok h
    exact .of_readDelimited hwire hn rfl
  | bytes =>
    simp only [readKnown] at h
    split_ifs at h with hwire
    obtain ⟨n, hn, rfl⟩ := map_eq_ok_iff.mp h
    exact .of_readDelimited hwire (mapError_eq_ok_iff.mp hn) rfl
  | message type =>
    simp only [readKnown] at h
    split_ifs at h with hwire
    obtain ⟨depth, n, m, rfl, hn, hm, rfl⟩ := readMessage_eq_ok h
    exact .delimited hwire hn (by rw [hfields hm])
  | group type =>
    simp only [readKnown] at h
    split_ifs at h with hwire
    obtain ⟨m, hm, rfl⟩ := map_eq_ok_iff.mp h
    exact .of_nested hwire hm rfl

omit hfields in
/-- A value of an unknown field takes what its wire type says. -/
theorem ValueExtent.of_readUnknown (h : readUnknown fields depth key bs = .ok r) :
    ValueExtent fields key bs r := by
  obtain ⟨number, wire⟩ := key
  rw [readUnknown] at h
  split_ifs at h
  cases wire with
  | varint | fixed64 | fixed32 => exact .number (mapError_eq_ok_iff.mp h)
  | delimited =>
    obtain ⟨n, hn, rfl⟩ := map_eq_ok_iff.mp h
    exact .of_readDelimited rfl (mapError_eq_ok_iff.mp hn) rfl
  | startGroup =>
    obtain ⟨inner, hinner, rfl⟩ := map_eq_ok_iff.mp h
    exact .of_nested rfl hinner rfl
  | endGroup => cases h

/-- A value takes what its wire type says, known or not. -/
theorem ValueExtent.of_readValue {type : Option σ} (h : readValue g fields depth type key bs = .ok r) :
    ValueExtent fields key bs r := by
  rw [readValue] at h
  split at h
  · exact .of_readUnknown h
  · exact .of_readKnown hfields (mapError_eq_ok_iff.mp h)

end Extent

section Rest

variable {fuel depth : Nat} {type : Option σ} {rest : Bytes} {r : Read Raw}

/-- A value is read alike from its own bytes alone. -/
theorem takesFront_self {key : Key} {bs : Bytes}
    (h : readValue g (readFields g fuel) depth type key bs = .ok r) :
    TakesFront (readValue g (readFields g (r.used + 1)) depth type key) bs r :=
  takesFront_readValue ⟨used_of_readFields, fun h hbound => takesFront_readFields h hbound⟩ h
    (Nat.lt_succ_self _)

/-- What follows a written number is left. -/
theorem rest_of_readNumber_write {value : Raw} {number : Nat}
    (h : readNumber value.wireType (value.write number ++ rest) = .ok r) : r.rest = rest := by
  cases value with
  | varint n =>
    rw [Raw.write, Raw.wireType, readNumber] at h
    split at h
    · cases h
    · next m hm =>
      obtain rfl := Except.ok.inj h
      rw [eq_of_readVarint_writeVarint hm]
  | fixed64 n | fixed32 n =>
    rw [Raw.write, Raw.wireType, readNumber] at h
    obtain ⟨m, hm, rfl⟩ := map_eq_ok_iff.mp h
    exact rest_of_readExact (by rw [length_writeFixed]; exact hm)
  | bytes _ | text _ | message _ | group _ | packed _ => cases h

/-- A value whose bytes have a length is written as delimited bytes. -/
theorem write_eq_delimited {value : Raw} (h : value.wireType = .delimited) (number : Nat) :
    ∃ bs, value.write number = delimited bs := by
  cases value with
  | bytes _ | text _ | message _ | packed _ => exact ⟨_, by rw [Raw.write]⟩
  | varint _ | fixed64 _ | fixed32 _ | group _ => cases h

/-- What follows a written value that is no group is left. -/
theorem rest_of_single_write {value : Raw} {number : Nat} (hgroup : value.wireType ≠ .startGroup)
    (h : readValue g (readFields g fuel) depth type ⟨number, value.wireType⟩
      (value.write number ++ rest) = .ok r) : r.rest = rest := by
  cases ValueExtent.of_readValue used_of_readFields h with
  | number h => exact rest_of_readNumber_write h
  | group hwire => exact absurd hwire hgroup
  | delimited hwire hlength hused =>
    obtain ⟨bs, hbs⟩ := write_eq_delimited hwire number
    rw [hbs] at h hlength
    obtain ⟨rfl, -⟩ := eq_of_readLength_delimited hlength
    have hdelimited : r.used = (delimited bs).length := by rw [hused, delimited, List.length_append]
    rw [(takesFront_self h).rest_eq, hdelimited, List.drop_left]

end Rest

mutual

/-- Of a value that was written, all bytes are taken and no more, whatever is read there. -/
theorem rest_of_readValue_write : ∀ {value : Raw} {number fuel depth : Nat} {type : Option σ}
    {rest : Bytes} {r : Read Raw},
      readValue g (readFields g fuel) depth type ⟨number, value.wireType⟩
        (value.write number ++ rest) = .ok r → r.rest = rest
  | .varint _, _, _, _, _, _, _, h | .fixed64 _, _, _, _, _, _, _, h
  | .fixed32 _, _, _, _, _, _, _, h | .bytes _, _, _, _, _, _, _, h
  | .text _, _, _, _, _, _, _, h | .message _, _, _, _, _, _, _, h
  | .packed _, _, _, _, _, _, _, h => rest_of_single_write WireType.noConfusion h
  | .group fields, number, fuel, depth, type, rest, r, h => by
    rw [Raw.write, List.append_assoc] at h
    cases ValueExtent.of_readValue used_of_readFields h with
    | number h => cases h
    | delimited hwire => cases hwire
    | group _ hinner hrest =>
      rw [hrest]
      exact rest_of_readFields_group hinner

/-- The fields of a group are read up to the mark that was written after them. -/
theorem rest_of_readFields_group : ∀ {fields : List (Nat × Raw)} {number fuel depth : Nat}
    {type : Option σ} {rest : Bytes} {r : Read Fields},
      readFields g fuel depth type (.mark number)
        (writeFields fields ++ (writeKey number .endGroup ++ rest)) = .ok r → r.rest = rest
  | _, _, 0, _, _, _, _, h => by cases h
  | [], number, fuel + 1, depth, type, rest, r, h => by
    rw [writeFields_nil, List.nil_append] at h
    cases readFields_succ_eq_ok_iff.mp h with
    | mark hkey =>
      obtain ⟨-, rfl⟩ := eq_of_readKey_writeKey hkey
      rfl
    | field _ hkey hwire =>
      -- the key of the mark is no key of a field
      obtain ⟨-, rfl⟩ := eq_of_readKey_writeKey hkey
      exact absurd rfl (hwire number rfl)
  | (n, value) :: fields, number, fuel + 1, depth, type, rest, r, h => by
    rw [writeFields, List.append_assoc, List.append_assoc] at h
    cases readFields_succ_eq_ok_iff.mp h with
    | mark hkey hvalue =>
      obtain ⟨-, rfl⟩ := eq_of_readKey_writeKey hkey
      cases value <;> cases hvalue
    | field _ hkey _ hvalue hnext hmore =>
      obtain ⟨-, rfl⟩ := eq_of_readKey_writeKey hkey
      obtain rfl := Option.some.inj hnext
      rw [rest_of_readValue_write hvalue] at hmore
      exact (rest_of_readFields_group hmore :)

end

/-! ## Written messages -/

/-- What a field of a type of message reads as from the bytes that were written for it. -/
structure ReadsAs (g : Grammar σ) (depth : Nat) (type : Option σ) (field : Nat × Raw) (value : Raw) :
    Prop where
  /-- The number is one that a field can have. -/
  number : IsFieldNumber field.1
  /-- The value is read, given enough fuel. -/
  value : ∃ fuel, readValue g (readFields g fuel) depth type ⟨field.1, field.2.wireType⟩
    (field.2.write field.1) = .ok ⟨value, (field.2.write field.1).length, []⟩

section Messages

variable {depth : Nat} {type : Option σ}

/-- A value that is read with something after it is read alike without. -/
theorem readsAs_of_readValue {number fuel : Nat} {raw : Raw} {rest : Bytes} {r : Read Raw}
    (hnumber : IsFieldNumber number)
    (h : readValue g (readFields g fuel) depth type ⟨number, raw.wireType⟩
      (raw.write number ++ rest) = .ok r) :
    ReadsAs g depth type (number, raw) r.value ∧ r.used = (raw.write number).length ∧
      r.rest = rest := by
  have hrest := rest_of_readValue_write h
  obtain ⟨front, hbs, hlength, hread⟩ := takesFront_self h
  rw [hrest] at hbs
  obtain rfl := List.append_cancel_right hbs
  have hvalue := hread []
  rw [List.append_nil, ← hlength] at hvalue
  exact ⟨⟨hnumber, _, hvalue⟩, hlength.symm, hrest⟩

/-- A value is read with any fuel that lasts for its bytes. -/
theorem ReadsAs.readValue_eq {field : Nat × Raw} {value : Raw} (h : ReadsAs g depth type field value)
    {fuel : Nat} (hfuel : (field.2.write field.1).length < fuel) (rest : Bytes) :
    readValue g (readFields g fuel) depth type ⟨field.1, field.2.wireType⟩
      (field.2.write field.1 ++ rest) = .ok ⟨value, (field.2.write field.1).length, rest⟩ := by
  obtain ⟨-, fuel', hvalue⟩ := h
  have hagrees : Agrees fuel (readFields g fuel') (readFields g fuel) :=
    ⟨used_of_readFields, fun h hbound => takesFront_readFields h hbound⟩
  obtain ⟨front, hbs, -, hread⟩ := takesFront_readValue hagrees hvalue hfuel
  rw [List.append_nil] at hbs
  obtain rfl := hbs
  exact hread rest

/-- A written field is read as one value at most. -/
theorem ReadsAs.unique {field : Nat × Raw} {value value' : Raw} (h : ReadsAs g depth type field value)
    (h' : ReadsAs g depth type field value') : value = value' := by
  have hread := h.readValue_eq (Nat.lt_succ_self _) []
  rw [h'.readValue_eq (Nat.lt_succ_self _) []] at hread
  exact (Read.mk.inj (Except.ok.inj hread)).1.symm

/-- Bytes that are read have a length in 64 bits. -/
theorem ReadsAs.length_lt {number : Nat} {bs : Bytes} {value : Raw}
    (h : ReadsAs g depth type (number, .bytes bs) value) : bs.length < 2 ^ 64 := by
  have hvalue := h.readValue_eq (Nat.lt_succ_self _) []
  rw [Raw.write] at hvalue
  cases ValueExtent.of_readValue used_of_readFields hvalue with
  | number h => cases h
  | group hwire => cases hwire
  | delimited _ hlength _ => exact (eq_of_readLength_delimited hlength).2

/-- The bytes of a message are read as the message where the grammar has one. -/
theorem readsAs_of_conforms {type inner : σ} {number : Nat} {spec : FieldSpec σ} {own : Fields}
    (hnumber : IsFieldNumber number) (hspec : g type number = some spec)
    (hshape : spec.shape = .message inner) (hown : Conforms g depth inner own)
    (hsize : (writeFields own).length < 2 ^ 64) :
    ReadsAs g (depth + 1) (some type) (number, .bytes (writeFields own)) (.message own) := by
  have hread := readValue_message hspec hshape hsize
    (readFields_writeFields hown hsize (Nat.le_refl _) [])
  rw [List.append_nil] at hread
  refine ⟨hnumber, (writeFields own).length + 1, ?_⟩
  dsimp only
  rw [Raw.write]
  exact hread

/-- Fields that were written are read one by one. -/
theorem forall₂_of_readFields {fields : Fields} {fuel : Nat} {r : Read Fields}
    (h : readFields g fuel depth type (.after (writeFields fields).length) (writeFields fields) =
      .ok r) : List.Forall₂ (fun a b => b.1 = a.1 ∧ ReadsAs g depth type a b.2) fields r.value := by
  induction fields generalizing fuel r with
  | nil =>
    rw [writeFields_nil] at h
    cases fuel with
    | zero => cases h
    | succ fuel =>
      obtain rfl := Except.ok.inj h
      exact .nil
  | cons field fields ih =>
    obtain ⟨number, raw⟩ := field
    cases fuel with
    | zero => cases h
    | succ fuel =>
      generalize hextent : Extent.after (writeFields ((number, raw) :: fields)).length = extent at h
      rw [writeFields, List.append_assoc] at h
      cases readFields_succ_eq_ok_iff.mp h with
      | done =>
        -- written fields take bytes
        have hpos := length_writeFields_cons number raw fields
        have hzero := Extent.after.inj hextent
        omega
      | mark => cases hextent
      | field _ hkey _ hvalue hnext hmore =>
        obtain ⟨hnumber, rfl⟩ := eq_of_readKey_writeKey hkey
        obtain ⟨hreads, hused, hrest⟩ := readsAs_of_readValue hnumber hvalue
        have hlength : (writeFields ((number, raw) :: fields)).length =
            (writeKey number raw.wireType).length + (raw.write number).length +
              (writeFields fields).length := by
          simp only [writeFields, List.length_append]
        -- what the field used is what was written for it, so the extent left is that of the others
        simp only [← hextent, Extent.shrink, hused, hlength] at hnext
        rw [if_neg (by omega), Nat.add_sub_cancel_left, Option.some.injEq] at hnext
        rw [hrest, ← hnext] at hmore
        exact .cons ⟨rfl, hreads⟩ (ih hmore)

/-- Fields that are read one by one are read together, whatever follows them. -/
theorem readFields_of_forall₂ {fields values : Fields}
    (h : List.Forall₂ (fun a b => b.1 = a.1 ∧ ReadsAs g depth type a b.2) fields values) {fuel : Nat}
    (hfuel : (writeFields fields).length ≤ fuel) (rest : Bytes) :
    readFields g (fuel + 1) depth type (.after (writeFields fields).length)
        (writeFields fields ++ rest) = .ok ⟨values, (writeFields fields).length, rest⟩ := by
  induction h generalizing fuel with
  | nil =>
    rw [writeFields_nil]
    rfl
  | @cons field value fields values hfield _ ih =>
    obtain ⟨n, raw⟩ := field
    obtain ⟨number, value⟩ := value
    obtain ⟨hnumber, hreads⟩ := hfield
    obtain rfl : number = n := hnumber
    have hlength := length_writeFields_cons number raw fields
    -- every field takes at least one byte, so the fuel suffices for the others
    obtain ⟨fuel, rfl⟩ := Nat.exists_eq_add_one_of_ne_zero (show fuel ≠ 0 by omega)
    refine readFields_cons hreads.number ?_ (ih (by omega))
    exact hreads.readValue_eq (show (raw.write number).length < fuel + 1 by omega) _

end Messages

/-- A message is read from what was written for some fields exactly when each of them is read from its
own bytes. -/
theorem readAt_writeFields_iff {depth : Nat} {type : σ} {fields values : Fields} :
    g.readAt depth type (writeFields fields) = .ok values ↔
      List.Forall₂ (fun a b => b.1 = a.1 ∧ ReadsAs g depth (some type) a b.2) fields values := by
  constructor
  · intro h
    obtain ⟨r, hr, rfl⟩ := map_eq_ok_iff.mp h
    exact forall₂_of_readFields hr
  · intro h
    have hread := readFields_of_forall₂ h (Nat.le_refl _) []
    rw [List.append_nil] at hread
    rw [Grammar.readAt, hread]
    rfl

end Written

end ProtoRest.Wire
