import Mathlib.Algebra.Group.Nat.Defs
import ProtoRest.Proofs.Result
import ProtoRest.Wire.Reader

/-! # Reading what was written
Numbers, keys, lengths and at last whole messages are read back from what is written for them, whatever
follows. The fields of a message have to be those of its grammar (`Conforms`), and no length may need
more than 64 bits; then `Grammar.readAt` takes back `writeFields` (`readAt_writeFields`). -/

namespace ProtoRest.Wire

/-! ## Numbers and lengths -/

/-- A written number takes at least one byte. -/
theorem writeVarint_ne_nil (n : Nat) : writeVarint n ≠ [] := by
  rw [writeVarint]
  split <;> simp

/-- Ten groups hold 64 bits: nine of seven bits each, and one bit in the last. -/
theorem readVarintFrom_writeVarint {position n : Nat} (hposition : position ≤ 9)
    (h : n < 2 ^ (64 - 7 * position)) (rest : Bytes) :
    readVarintFrom position (writeVarint n ++ rest) =
      some ⟨n, (writeVarint n).length, rest⟩ := by
  induction n using writeVarint.induct generalizing position with
  | case1 n hn =>
    -- the last group, which in the tenth place is a single bit
    have hbyte : (UInt8.ofNat n).toNat = n := by
      rw [UInt8.toNat_ofNat']
      omega
    rw [writeVarint, if_pos hn, List.singleton_append, readVarintFrom, hbyte]
    by_cases hlast : position = 9
    · subst hlast
      rw [if_pos rfl, if_pos (by omega)]
      rfl
    · rw [if_neg hlast, if_pos hn]
      rfl
  | case2 n hn ih =>
    -- more groups follow, so this is not the tenth place
    have hbyte : (UInt8.ofNat (n % 128 + 128)).toNat = n % 128 + 128 := by
      rw [UInt8.toNat_ofNat']
      omega
    have hlast : position ≠ 9 := by
      rintro rfl
      omega
    have hrest : n / 128 < 2 ^ (64 - 7 * (position + 1)) := by
      have hgroup : 64 - 7 * position = 64 - 7 * (position + 1) + 7 := by omega
      rw [hgroup, Nat.pow_add] at h
      omega
    have hvalue : (n % 128 + 128) % 128 + 128 * (n / 128) = n := by omega
    rw [writeVarint, if_neg hn, List.cons_append, readVarintFrom, hbyte, if_neg hlast,
      if_neg (by omega), ih (by omega) hrest, Option.map_some, hvalue]
    rfl

/-- A written number of 64 bits is read back, with its length. -/
theorem readVarint_writeVarint {n : Nat} (h : n < 2 ^ 64) (rest : Bytes) :
    readVarint (writeVarint n ++ rest) = some ⟨n, (writeVarint n).length, rest⟩ :=
  readVarintFrom_writeVarint (Nat.zero_le 9) h rest

/-- A written length is read back when as many bytes follow. -/
theorem readLength_writeVarint {n : Nat} {rest : Bytes} (h : n < 2 ^ 64) (hrest : n ≤ rest.length) :
    readLength (writeVarint n ++ rest) = .ok ⟨n, (writeVarint n).length, rest⟩ := by
  simp [readLength, readVarint_writeVarint h, holds_iff.mpr hrest]

/-- Delimited bytes are read back. -/
theorem readDelimited_delimited {bs : Bytes} (h : bs.length < 2 ^ 64) (rest : Bytes) :
    readDelimited (delimited bs ++ rest) = .ok ⟨bs, (delimited bs).length, rest⟩ := by
  rw [readDelimited, delimited, List.append_assoc, readLength_writeVarint h (by simp)]
  simp

/-- Delimiting bytes makes them no shorter. -/
theorem length_le_delimited (bs : Bytes) : bs.length ≤ (delimited bs).length := by
  simp [delimited]

/-! ## Keys -/

/-- A wire type is read back from its code. -/
theorem ofCode?_code (wire : WireType) : WireType.ofCode? wire.code = some wire := by
  cases wire <;> rfl

/-- The code of a wire type takes three bits. -/
theorem code_lt (wire : WireType) : wire.code < 8 := by
  cases wire <;> decide

/-- A number that a field can have. -/
def IsFieldNumber (number : Nat) : Prop := 0 < number ∧ number * 8 + 7 ≤ maxKey

instance (number : Nat) : Decidable (IsFieldNumber number) := inferInstanceAs (Decidable (_ ∧ _))

/-- A written key is read back. -/
theorem readKey_writeKey {number : Nat} (h : IsFieldNumber number) (wire : WireType) (rest : Bytes) :
    readKey (writeKey number wire ++ rest) =
      .ok ⟨⟨number, wire⟩, (writeKey number wire).length, rest⟩ := by
  obtain ⟨hpos, hmax⟩ := h
  have hcode := code_lt wire
  rw [maxKey] at hmax
  have hlow : (number * 8 + wire.code) % 8 = wire.code := by omega
  have hhigh : (number * 8 + wire.code) / 8 = number := by omega
  rw [readKey, writeKey, readVarint_writeVarint (by omega)]
  simp only [hlow, hhigh, ofCode?_code]
  rw [if_neg (by rw [maxKey]; omega), if_neg (by omega)]

/-! ## Messages -/

section

variable {σ : Type} {g : Grammar σ}

/-- Fields are those of a type of message, and messages nest in them no deeper than a number says. -/
inductive Conforms (g : Grammar σ) : Nat → σ → Fields → Prop
  /-- A message may have no fields. -/
  | nil {depth : Nat} {type : σ} : Conforms g depth type []
  /-- A varint of at most 64 bits. -/
  | varint {depth : Nat} {type : σ} {number n : Nat} {spec : FieldSpec σ} {fields : Fields} :
      IsFieldNumber number → g type number = some spec → spec.shape = .varint → n < 2 ^ 64 →
        Conforms g depth type fields → Conforms g depth type ((number, .varint n) :: fields)
  /-- A varint of a number that the grammar does not have. -/
  | unknown {depth : Nat} {type : σ} {number n : Nat} {fields : Fields} :
      IsFieldNumber number → g type number = none → n < 2 ^ 64 →
        Conforms g (depth + 1) type fields →
          Conforms g (depth + 1) type ((number, .varint n) :: fields)
  /-- A text. -/
  | text {depth : Nat} {type : σ} {number : Nat} {spec : FieldSpec σ} {s : String}
      {fields : Fields} :
      IsFieldNumber number → g type number = some spec → spec.shape = .text →
        Conforms g depth type fields → Conforms g depth type ((number, .text s) :: fields)
  /-- A message of the type that its field has. -/
  | message {depth : Nat} {type inner : σ} {number : Nat} {spec : FieldSpec σ}
      {own fields : Fields} :
      IsFieldNumber number → g type number = some spec → spec.shape = .message inner →
        Conforms g depth inner own → Conforms g (depth + 1) type fields →
          Conforms g (depth + 1) type ((number, .message own) :: fields)

/-- A field takes a byte and those of its value. -/
theorem length_writeFields_cons (number : Nat) (value : Raw) (fields : Fields) :
    (value.write number).length + (writeFields fields).length <
      (writeFields ((number, value) :: fields)).length := by
  have hkey : 0 < (writeKey number value.wireType).length :=
    List.length_pos_iff.mpr (writeVarint_ne_nil _)
  simp only [writeFields, List.length_append]
  omega

/-- A field is read when its value is, and then the fields after it. -/
theorem readFields_cons {fuel depth number : Nat} {type : Option σ} {value value' : Raw}
    {fields fields' : Fields} {rest : Bytes} (hnumber : IsFieldNumber number)
    (hvalue : readValue g (readFields g fuel) depth type ⟨number, value.wireType⟩
        (value.write number ++ (writeFields fields ++ rest)) =
      .ok ⟨value', (value.write number).length, writeFields fields ++ rest⟩)
    (hfields : readFields g fuel depth type (.after (writeFields fields).length)
        (writeFields fields ++ rest) = .ok ⟨fields', (writeFields fields).length, rest⟩) :
    readFields g (fuel + 1) depth type (.after (writeFields ((number, value) :: fields)).length)
        (writeFields ((number, value) :: fields) ++ rest) =
      .ok ⟨(number, value') :: fields', (writeFields ((number, value) :: fields)).length, rest⟩ := by
  have hkey : 0 < (writeKey number value.wireType).length :=
    List.length_pos_iff.mpr (writeVarint_ne_nil _)
  have hbytes : writeFields ((number, value) :: fields) ++ rest =
      writeKey number value.wireType ++ (value.write number ++ (writeFields fields ++ rest)) := by
    simp [writeFields]
  have hlength : (writeFields ((number, value) :: fields)).length =
      (writeKey number value.wireType).length + (value.write number).length +
        (writeFields fields).length := by
    simp [writeFields]
    omega
  -- the key and the value take their share of the bytes, and the other fields the rest
  have hshrink : (Extent.after (writeFields ((number, value) :: fields)).length).shrink
      ((writeKey number value.wireType).length + (value.write number).length) =
        some (.after (writeFields fields).length) := by
    rw [Extent.shrink, if_neg (by omega), hlength]
    congr 2
    omega
  have hmore : Extent.after (writeFields ((number, value) :: fields)).length ≠ .after 0 := by
    intro h
    have hzero := Extent.after.inj h
    omega
  simp only [readFields, if_neg hmore, hbytes, readKey_writeKey hnumber, hvalue, hshrink, hfields]
  rw [hlength]

/-- A value is read as its shape says. -/
theorem readValue_of_spec {fields : FieldsReader σ} {depth : Nat} {type : σ} {key : Key}
    {spec : FieldSpec σ} {bs : Bytes} {r : Read Raw} (hspec : g type key.number = some spec)
    (h : readKnown fields depth spec.shape key bs = .ok r) :
    readValue g fields depth (some type) key bs = .ok r := by
  rw [readValue, Option.bind_some, hspec]
  simp [h]

/-- A message is read when its fields are. -/
theorem readValue_message {fuel depth number : Nat} {type inner : σ} {spec : FieldSpec σ}
    {own values : Fields} {rest : Bytes} (hspec : g type number = some spec)
    (hshape : spec.shape = .message inner) (hsize : (writeFields own).length < 2 ^ 64)
    (hown : readFields g fuel depth (some inner) (.after (writeFields own).length)
        (writeFields own ++ rest) = .ok ⟨values, (writeFields own).length, rest⟩) :
    readValue g (readFields g fuel) (depth + 1) (some type) ⟨number, .delimited⟩
        (delimited (writeFields own) ++ rest) =
      .ok ⟨.message values, (delimited (writeFields own)).length, rest⟩ := by
  have hlen : readLength (writeVarint (writeFields own).length ++ (writeFields own ++ rest)) =
      .ok ⟨_, _, _⟩ := readLength_writeVarint hsize (by simp)
  refine readValue_of_spec hspec ?_
  rw [hshape]
  simp [readKnown, readMessage, delimited, hlen, hown, Except.map]

/-- Fields of a grammar are read back, whatever follows them. Every field takes a byte at least, so
the fuel lasts. -/
theorem readFields_writeFields {depth fuel : Nat} {type : σ} {fields : Fields}
    (h : Conforms g depth type fields) (hsize : (writeFields fields).length < 2 ^ 64)
    (hfuel : (writeFields fields).length ≤ fuel) (rest : Bytes) :
    readFields g (fuel + 1) depth (some type) (.after (writeFields fields).length)
        (writeFields fields ++ rest) = .ok ⟨fields, (writeFields fields).length, rest⟩ := by
  -- for each form of a value: its bytes are read as its shape says, and the fields after it by induction
  induction h generalizing fuel rest with
  | nil =>
    rw [writeFields_nil]
    rfl
  | @varint _ _ number n spec fields hnumber hspec hshape hn _ ih =>
    have hlength := length_writeFields_cons number (.varint n) fields
    obtain ⟨fuel, rfl⟩ := Nat.exists_eq_add_one_of_ne_zero (show fuel ≠ 0 by omega)
    refine readFields_cons hnumber (readValue_of_spec hspec ?_) (ih (by omega) (by omega) rest)
    rw [hshape, Raw.write]
    simp [readKnown, Shape.varint, readNumber, readVarint_writeVarint hn, Raw.wireType]
  | @unknown depth _ number n fields hnumber hspec hn _ ih =>
    have hlength := length_writeFields_cons number (.varint n) fields
    obtain ⟨fuel, rfl⟩ := Nat.exists_eq_add_one_of_ne_zero (show fuel ≠ 0 by omega)
    refine readFields_cons hnumber ?_ (ih (by omega) (by omega) rest)
    rw [readValue, Option.bind_some, hspec, Raw.write]
    simp [readUnknown, readNumber, readVarint_writeVarint hn, Raw.wireType]
  | @text _ _ number spec s fields hnumber hspec hshape _ ih =>
    have hlength := length_writeFields_cons number (.text s) fields
    have hbytes : (Raw.text s).write number = delimited (bytesOfText s) := by rw [Raw.write]
    have hdelimited := length_le_delimited (bytesOfText s)
    rw [hbytes] at hlength
    obtain ⟨fuel, rfl⟩ := Nat.exists_eq_add_one_of_ne_zero (show fuel ≠ 0 by omega)
    refine readFields_cons hnumber (readValue_of_spec hspec ?_) (ih (by omega) (by omega) rest)
    rw [hshape, hbytes]
    simp [readKnown, readDelimited_delimited (show (bytesOfText s).length < 2 ^ 64 by omega),
      textOfBytes_bytesOfText, Raw.wireType]
  | @message depth _ _ number spec own fields hnumber hspec hshape _ _ ihown ih =>
    have hlength := length_writeFields_cons number (.message own) fields
    have hbytes : (Raw.message own).write number = delimited (writeFields own) := by rw [Raw.write]
    have hdelimited := length_le_delimited (writeFields own)
    rw [hbytes] at hlength
    obtain ⟨fuel, rfl⟩ := Nat.exists_eq_add_one_of_ne_zero (show fuel ≠ 0 by omega)
    refine readFields_cons hnumber ?_ (ih (by omega) (by omega) rest)
    rw [hbytes]
    exact readValue_message hspec hshape (by omega) (ihown (by omega) (show _ ≤ fuel by omega) _)

/-- A message is read back from its bytes. -/
theorem readAt_writeFields {depth : Nat} {type : σ} {fields : Fields} (h : Conforms g depth type fields)
    (hsize : (writeFields fields).length < 2 ^ 64) :
    g.readAt depth type (writeFields fields) = .ok fields := by
  have hread := readFields_writeFields h hsize (Nat.le_refl _) []
  rw [List.append_nil] at hread
  rw [Grammar.readAt, hread]
  rfl

end

end ProtoRest.Wire
