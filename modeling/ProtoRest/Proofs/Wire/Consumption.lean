import ProtoRest.Proofs.Result
import ProtoRest.Proofs.Wire.RoundTrip

/-! # What a reading takes
A reading takes bytes from the front, as many as it says, and reads them alike whatever follows: that
holds of numbers, keys and lengths, and by induction on the fuel of fields (`takesFront_readFields`). -/

namespace ProtoRest.Wire

open Result

/-! ## Bytes at the front -/

/-- A result took bytes from the front, and a reader gets the same from them whatever follows. -/
def TakesFront {ε α : Type} (read : Bytes → Except ε (Read α)) (bs : Bytes) (r : Read α) : Prop :=
  ∃ front, bs = front ++ r.rest ∧ front.length = r.used ∧
    ∀ rest, read (front ++ rest) = .ok ⟨r.value, r.used, rest⟩

section Front

variable {ε ε' α β : Type} {read : Bytes → Except ε (Read α)} {bs : Bytes} {r : Read α}

/-- A reader takes the same bytes when its value is changed. -/
theorem TakesFront.map (h : TakesFront read bs r) (f : α → β) :
    TakesFront (fun bs => (read bs).map fun r => ⟨f r.value, r.used, r.rest⟩) bs
      ⟨f r.value, r.used, r.rest⟩ := by
  obtain ⟨front, hbs, hlength, hread⟩ := h
  refine ⟨front, hbs, hlength, fun rest => ?_⟩
  simp only [hread]
  rfl

/-- A reader takes the same bytes when its fault is changed. -/
theorem TakesFront.mapError (h : TakesFront read bs r) (f : ε → ε') :
    TakesFront (fun bs => (read bs).mapError f) bs r := by
  obtain ⟨front, hbs, hlength, hread⟩ := h
  refine ⟨front, hbs, hlength, fun rest => ?_⟩
  simp only [hread]
  rfl

/-- Readers that do the same take the same bytes. -/
theorem TakesFront.of_eq {read' : Bytes → Except ε (Read α)} (h : TakesFront read bs r)
    (hread : ∀ bs, read' bs = read bs) : TakesFront read' bs r := by
  rwa [funext hread]

/-- What follows the bytes that were taken is what stands behind as many. -/
theorem TakesFront.rest_eq (h : TakesFront read bs r) : r.rest = bs.drop r.used := by
  obtain ⟨front, hbs, hlength, -⟩ := h
  rw [hbs, ← hlength, List.drop_left]

end Front

/-! ## Numbers and lengths -/

/-- The groups of a varint are bytes at the front, and what follows them does not matter. -/
theorem exists_front_readVarintFrom {position : Nat} {bs : Bytes} {r : Read Nat}
    (h : readVarintFrom position bs = some r) :
    ∃ front, bs = front ++ r.rest ∧ front.length = r.used ∧ 0 < r.used ∧
      ∀ rest, readVarintFrom position (front ++ rest) = some ⟨r.value, r.used, rest⟩ := by
  induction bs generalizing position r with
  | nil => cases h
  | cons b bs ih =>
    rw [readVarintFrom] at h
    -- the last byte there can be, a byte that ends the number, and one after which it goes on
    split_ifs at h with hlast hend hend
    · obtain rfl := Option.some.inj h
      refine ⟨[b], rfl, rfl, Nat.one_pos, fun rest => ?_⟩
      rw [List.singleton_append, readVarintFrom, if_pos hlast, if_pos hend]
    · obtain rfl := Option.some.inj h
      refine ⟨[b], rfl, rfl, Nat.one_pos, fun rest => ?_⟩
      rw [List.singleton_append, readVarintFrom, if_neg hlast, if_pos hend]
    · obtain ⟨more, hmore, rfl⟩ := Option.map_eq_some_iff.mp h
      obtain ⟨front, rfl, hlength, -, hread⟩ := ih hmore
      refine ⟨b :: front, rfl, by simp [hlength], Nat.succ_pos _, fun rest => ?_⟩
      rw [List.cons_append, readVarintFrom, if_neg hlast, if_neg hend, hread]
      rfl

/-- A varint is bytes at the front, and what follows them does not matter. -/
theorem exists_front_readVarint {bs : Bytes} {r : Read Nat} (h : readVarint bs = some r) :
    ∃ front, bs = front ++ r.rest ∧ front.length = r.used ∧ 0 < r.used ∧
      ∀ rest, readVarint (front ++ rest) = some ⟨r.value, r.used, rest⟩ :=
  exists_front_readVarintFrom h

/-- What is left of 64 bits bounds the groups that are still to come. -/
theorem lt_of_readVarintFrom {position : Nat} (hposition : position ≤ 9) {bs : Bytes} {r : Read Nat}
    (h : readVarintFrom position bs = some r) : r.value < 2 ^ (64 - 7 * position) := by
  induction bs generalizing position r with
  | nil => cases h
  | cons b bs ih =>
    rw [readVarintFrom] at h
    -- each byte before the tenth adds seven bits; the tenth adds one
    split_ifs at h with hlast hend hend
    · obtain rfl := Option.some.inj h
      rw [hlast]
      exact hend
    · obtain rfl := Option.some.inj h
      have hgroup : 2 ^ 7 ≤ 2 ^ (64 - 7 * position) :=
        Nat.pow_le_pow_right (by decide) (by omega)
      exact Nat.lt_of_lt_of_le hend hgroup
    · obtain ⟨more, hmore, rfl⟩ := Option.map_eq_some_iff.mp h
      have hvalue := ih (by omega) hmore
      have hgroup : 64 - 7 * position = 64 - 7 * (position + 1) + 7 := by omega
      have hbyte : b.toNat % 128 < 128 := Nat.mod_lt _ (by decide)
      rw [hgroup, Nat.pow_add]
      dsimp only
      omega

/-- A varint that is read has 64 bits at most. -/
theorem lt_of_readVarint {bs : Bytes} {r : Read Nat} (h : readVarint bs = some r) :
    r.value < 2 ^ 64 :=
  lt_of_readVarintFrom (Nat.zero_le 9) h

/-- A key is a varint within bounds, of a number and a wire type. -/
theorem readKey_eq_ok {bs : Bytes} {r : Read Key} (h : readKey bs = .ok r) :
    ∃ n wire, readVarint bs = some n ∧ n.value ≤ maxKey ∧
      WireType.ofCode? (n.value % 8) = some wire ∧ n.value / 8 ≠ 0 ∧
      r = ⟨⟨n.value / 8, wire⟩, n.used, n.rest⟩ := by
  rw [readKey] at h
  split at h
  · cases h
  · next n hn =>
    split_ifs at h with hmax hzero
    · split at h <;> cases h
    · split at h
      · cases h
      · next wire hwire =>
        exact ⟨n, wire, hn, Nat.not_lt.mp hmax, hwire, hzero, (Except.ok.inj h).symm⟩

/-- A key takes bytes at the front, and one at least. -/
theorem takesFront_readKey {bs : Bytes} {r : Read Key} (h : readKey bs = .ok r) :
    TakesFront readKey bs r ∧ 0 < r.used := by
  obtain ⟨n, wire, hn, hmax, hwire, hzero, rfl⟩ := readKey_eq_ok h
  obtain ⟨front, hbs, hlength, hpos, hread⟩ := exists_front_readVarint hn
  refine ⟨⟨front, hbs, hlength, fun rest => ?_⟩, hpos⟩
  simp only [readKey, hread, hwire]
  rw [if_neg (Nat.not_lt.mpr hmax), if_neg hzero]

/-- A number of bytes are taken from the front. -/
theorem takesFront_readExact {n : Nat} {bs : Bytes} {r : Read Bytes} (h : readExact n bs = .ok r) :
    TakesFront (readExact n) bs r := by
  rw [readExact] at h
  split_ifs at h with hholds
  obtain rfl := Except.ok.inj h
  have htake : (bs.take n).length = n := List.length_take_of_le (holds_iff.mp hholds)
  refine ⟨bs.take n, (List.take_append_drop n bs).symm, htake, fun rest => ?_⟩
  rw [readExact, if_pos (holds_iff.mpr (by simp [htake]))]
  simp [htake]

/-- A length is a varint that what follows it is long enough for. -/
theorem readLength_eq_ok {bs : Bytes} {r : Read Nat} (h : readLength bs = .ok r) :
    readVarint bs = some r ∧ r.value ≤ r.rest.length := by
  rw [readLength] at h
  split at h
  · cases h
  · next n hn =>
    split_ifs at h with hholds
    obtain rfl := Except.ok.inj h
    exact ⟨hn, holds_iff.mp hholds⟩

/-- A length is read again where as many bytes follow. -/
theorem exists_front_readLength {bs : Bytes} {r : Read Nat} (h : readLength bs = .ok r) :
    ∃ front, bs = front ++ r.rest ∧ front.length = r.used ∧
      ∀ rest, r.value ≤ rest.length → readLength (front ++ rest) = .ok ⟨r.value, r.used, rest⟩ := by
  obtain ⟨front, hbs, hlength, -, hread⟩ := exists_front_readVarint (readLength_eq_ok h).1
  refine ⟨front, hbs, hlength, fun rest hrest => ?_⟩
  simp only [readLength, hread]
  rw [if_pos (holds_iff.mpr hrest)]

/-- Delimited bytes are as many as the length before them says. -/
theorem readDelimited_eq_ok {bs : Bytes} {r : Read Bytes} (h : readDelimited bs = .ok r) :
    ∃ n, readLength bs = .ok n ∧ r = ⟨n.rest.take n.value, n.used + n.value, n.rest.drop n.value⟩ := by
  rw [readDelimited] at h
  split at h
  · cases h
  · next n hn => exact ⟨n, hn, (Except.ok.inj h).symm⟩

/-- Delimited bytes are taken from the front. -/
theorem takesFront_readDelimited {bs : Bytes} {r : Read Bytes} (h : readDelimited bs = .ok r) :
    TakesFront readDelimited bs r := by
  obtain ⟨n, hn, rfl⟩ := readDelimited_eq_ok h
  obtain ⟨front, hbs, hlength, hread⟩ := exists_front_readLength hn
  have htake : (n.rest.take n.value).length = n.value :=
    List.length_take_of_le (readLength_eq_ok hn).2
  refine ⟨front ++ n.rest.take n.value, ?_, by simp only [List.length_append, hlength, htake],
    fun rest => ?_⟩
  · rw [List.append_assoc, List.take_append_drop, ← hbs]
  · have hagain := hread (n.rest.take n.value ++ rest) (by simp only [List.length_append]; omega)
    rw [readDelimited, List.append_assoc, hagain]
    simp [htake]

/-- A number is taken from the front. -/
theorem takesFront_readNumber {wire : WireType} {bs : Bytes} {r : Read Raw}
    (h : readNumber wire bs = .ok r) : TakesFront (readNumber wire) bs r := by
  cases wire with
  | varint =>
    rw [readNumber] at h
    split at h
    · cases h
    · next n hn =>
      obtain rfl := Except.ok.inj h
      obtain ⟨front, hbs, hlength, -, hread⟩ := exists_front_readVarint hn
      refine ⟨front, hbs, hlength, fun rest => ?_⟩
      simp only [readNumber, hread]
  | fixed64 =>
    obtain ⟨n, hn, rfl⟩ := map_eq_ok_iff.mp h
    exact (takesFront_readExact hn).map fun bs => Raw.fixed64 (fixedValue bs)
  | fixed32 =>
    obtain ⟨n, hn, rfl⟩ := map_eq_ok_iff.mp h
    exact (takesFront_readExact hn).map fun bs => Raw.fixed32 (fixedValue bs)
  | delimited | startGroup | endGroup => cases h

/-- Numbers that share a length use all of it. -/
theorem takesFront_readNumbers {wire : WireType} {fuel left : Nat} {bs : Bytes}
    {r : Read (List Raw)} (h : readNumbers wire fuel left bs = .ok r) :
    TakesFront (readNumbers wire fuel left) bs r ∧ r.used = left := by
  induction fuel generalizing left bs r with
  | zero =>
    cases left with
    | zero =>
      obtain rfl := Except.ok.inj h
      exact ⟨⟨[], rfl, rfl, fun rest => rfl⟩, rfl⟩
    | succ left => cases h
  | succ fuel ih =>
    cases left with
    | zero =>
      obtain rfl := Except.ok.inj h
      exact ⟨⟨[], rfl, rfl, fun rest => rfl⟩, rfl⟩
    | succ left =>
      rw [readNumbers] at h
      split at h
      · cases h
      · next first hfirst =>
        -- the first number must not reach beyond the bytes that are left
        split_ifs at h with hover
        split at h
        · cases h
        · next more hmore =>
          obtain rfl := Except.ok.inj h
          obtain ⟨front, hbs, hlength, hread⟩ := takesFront_readNumber hfirst
          obtain ⟨⟨back, hback, hlength', hread'⟩, hused⟩ := ih hmore
          refine ⟨⟨front ++ back, ?_, ?_, fun rest => ?_⟩, by dsimp only; omega⟩
          · rw [List.append_assoc, ← hback, hbs]
          · simp only [List.length_append, hlength, hlength']
          · simp only [readNumbers, List.append_assoc, hread, hread']
            rw [if_neg hover]

/-- Numbers that share a length fill it. -/
theorem readPacked_eq_ok {wire : WireType} {bs : Bytes} {r : Read Raw}
    (h : readPacked wire bs = .ok r) :
    ∃ n numbers, readLength bs = .ok n ∧
      readNumbers wire n.value n.value n.rest = .ok numbers ∧
      r = ⟨.packed numbers.value, n.used + numbers.used, numbers.rest⟩ := by
  rw [readPacked] at h
  split at h
  · cases h
  · next n hn =>
    split at h
    · cases h
    · next numbers hnumbers => exact ⟨n, numbers, hn, hnumbers, (Except.ok.inj h).symm⟩

/-- Numbers that share a length are taken from the front. -/
theorem takesFront_readPacked {wire : WireType} {bs : Bytes} {r : Read Raw}
    (h : readPacked wire bs = .ok r) : TakesFront (readPacked wire) bs r := by
  obtain ⟨n, numbers, hn, hnumbers, rfl⟩ := readPacked_eq_ok h
  obtain ⟨front, hbs, hlength, hread⟩ := exists_front_readLength hn
  obtain ⟨⟨back, hback, hlength', hread'⟩, hused⟩ := takesFront_readNumbers hnumbers
  refine ⟨front ++ back, ?_, ?_, fun rest => ?_⟩
  · rw [List.append_assoc, ← hback, hbs]
  · simp only [List.length_append, hlength, hlength']
  · have hagain := hread (back ++ rest) (by simp only [List.length_append]; omega)
    rw [readPacked, List.append_assoc, hagain]
    simp only [hread']

/-! ## Values -/

section Values

variable {σ : Type}

/-- A reader of fields takes what their end says, and another one reads the same from that when it is
less than a bound. -/
structure Agrees (bound : Nat) (fields fields' : FieldsReader σ) : Prop where
  /-- A number of bytes is used up. -/
  used : ∀ {depth type n bs r}, fields depth type (.after n) bs = .ok r → r.used = n
  /-- The bytes are read alike whatever follows. -/
  takes : ∀ {depth type extent bs r}, fields depth type extent bs = .ok r → r.used < bound →
    TakesFront (fields' depth type extent) bs r

variable {bound : Nat} {fields fields' : FieldsReader σ} {depth : Nat} {bs : Bytes} {r : Read Raw}

/-- A message is read one level deeper, from as many bytes as its length says. -/
theorem readMessage_eq_ok {type : σ} (h : readMessage fields depth type bs = .ok r) :
    ∃ inner n m, depth = inner + 1 ∧ readLength bs = .ok n ∧
      fields inner (some type) (.after n.value) n.rest = .ok m ∧
      r = ⟨.message m.value, n.used + m.used, m.rest⟩ := by
  cases depth with
  | zero => cases h
  | succ depth =>
    rw [readMessage] at h
    split at h
    · cases h
    · next n hn =>
      obtain ⟨m, hm, hr⟩ := map_eq_ok_iff.mp h
      exact ⟨depth, n, m, rfl, hn, hm, hr.symm⟩

/-- A text is delimited bytes that are the encoding of one. -/
theorem readKnown_text_eq_ok {key : Key} (h : readKnown fields depth .text key bs = .ok r) :
    key.wire = .delimited ∧ ∃ n s, readDelimited bs = .ok n ∧ textOfBytes n.value = some s ∧
      r = ⟨.text s, n.used, n.rest⟩ := by
  simp only [readKnown] at h
  split_ifs at h with hwire
  split at h
  · cases h
  · next n hn =>
    split at h
    · cases h
    · next s hs => exact ⟨hwire, n, s, hn, hs, (Except.ok.inj h).symm⟩

variable (hfields : Agrees bound fields fields')

include hfields

/-- A message takes bytes at the front when its fields do. -/
theorem takesFront_readMessage {type : σ} (h : readMessage fields depth type bs = .ok r)
    (hbound : r.used < bound) : TakesFront (readMessage fields' depth type) bs r := by
  obtain ⟨depth, n, m, rfl, hn, hm, rfl⟩ := readMessage_eq_ok h
  have hused := hfields.used hm
  obtain ⟨front, hbs, hlength, hread⟩ := exists_front_readLength hn
  obtain ⟨back, hback, hlength', hread'⟩ := hfields.takes hm (by dsimp only at hbound; omega)
  refine ⟨front ++ back, ?_, ?_, fun rest => ?_⟩
  · rw [List.append_assoc, ← hback, hbs]
  · simp only [List.length_append, hlength, hlength']
  · have hagain := hread (back ++ rest) (by simp only [List.length_append]; omega)
    simp only [readMessage, List.append_assoc, hagain, hread']
    rfl

/-- What is nested takes bytes at the front when its fields do. -/
theorem takesFront_nested {type : Option σ} {number : Nat} {r : Read Fields}
    (h : nested fields depth type (.mark number) bs = .ok r) (hbound : r.used < bound) :
    TakesFront (nested fields' depth type (.mark number)) bs r := by
  cases depth with
  | zero => cases h
  | succ depth => exact hfields.takes h hbound

/-- A value of a known field takes bytes at the front when the fields in it do. -/
theorem takesFront_readKnown {shape : Shape σ} {key : Key}
    (h : readKnown fields depth shape key bs = .ok r) (hbound : r.used < bound) :
    TakesFront (readKnown fields' depth shape key) bs r := by
  cases shape with
  -- numbers may come packed behind a length, whatever their own wire type is
  | number wire packable =>
    simp only [readKnown] at h
    split_ifs at h with hpacked hwire
    · refine .of_eq ((takesFront_readPacked (mapError_eq_ok_iff.mp h)).mapError .bare) fun bs => ?_
      simp only [readKnown, if_pos hpacked]
    · refine .of_eq ((takesFront_readNumber (mapError_eq_ok_iff.mp h)).mapError .bare) fun bs => ?_
      simp only [readKnown, if_neg hpacked, if_pos hwire]
  | text =>
    obtain ⟨hwire, n, s, hn, hs, rfl⟩ := readKnown_text_eq_ok h
    obtain ⟨front, hbs, hlength, hread⟩ := takesFront_readDelimited hn
    refine ⟨front, hbs, hlength, fun rest => ?_⟩
    simp only [readKnown, if_pos hwire, hread, hs]
  | bytes =>
    simp only [readKnown] at h
    split_ifs at h with hwire
    obtain ⟨n, hn, rfl⟩ := map_eq_ok_iff.mp h
    have htakes := ((takesFront_readDelimited (mapError_eq_ok_iff.mp hn)).mapError ReadFault.bare).map
      Raw.bytes
    refine htakes.of_eq fun bs => ?_
    simp only [readKnown, if_pos hwire]
  | message type =>
    simp only [readKnown] at h
    split_ifs at h with hwire
    refine (takesFront_readMessage hfields h hbound).of_eq fun bs => ?_
    simp only [readKnown, if_pos hwire]
  | group type =>
    simp only [readKnown] at h
    split_ifs at h with hwire
    obtain ⟨n, hn, rfl⟩ := map_eq_ok_iff.mp h
    refine ((takesFront_nested hfields hn hbound).map Raw.group).of_eq fun bs => ?_
    simp only [readKnown, if_pos hwire]

/-- A value of an unknown field takes bytes at the front when the fields in it do. -/
theorem takesFront_readUnknown {key : Key} (h : readUnknown fields depth key bs = .ok r)
    (hbound : r.used < bound) : TakesFront (readUnknown fields' depth key) bs r := by
  obtain ⟨number, wire⟩ := key
  rw [readUnknown] at h
  split_ifs at h with hdepth
  -- every wire type is read by a reader that takes the front of the bytes
  cases wire with
  | varint | fixed64 | fixed32 =>
    refine .of_eq ((takesFront_readNumber (mapError_eq_ok_iff.mp h)).mapError .bare) fun bs => ?_
    simp only [readUnknown, if_neg hdepth]
  | delimited =>
    obtain ⟨n, hn, rfl⟩ := map_eq_ok_iff.mp h
    have htakes := ((takesFront_readDelimited (mapError_eq_ok_iff.mp hn)).mapError ReadFault.bare).map
      Raw.bytes
    refine htakes.of_eq fun bs => ?_
    simp only [readUnknown, if_neg hdepth]
  | startGroup =>
    obtain ⟨n, hn, rfl⟩ := map_eq_ok_iff.mp h
    refine ((takesFront_nested hfields hn hbound).map Raw.group).of_eq fun bs => ?_
    simp only [readUnknown, if_neg hdepth]
  | endGroup => cases h

/-- A value is read alike whatever follows. -/
theorem takesFront_readValue {g : Grammar σ} {type : Option σ} {key : Key}
    (h : readValue g fields depth type key bs = .ok r) (hbound : r.used < bound) :
    TakesFront (readValue g fields' depth type key) bs r := by
  rw [readValue] at h
  split at h
  · next hspec =>
    refine (takesFront_readUnknown hfields h hbound).of_eq fun bs => ?_
    simp only [readValue, hspec]
  · next spec hspec =>
    rw [mapError_eq_ok_iff] at h
    have htakes := (takesFront_readKnown hfields h hbound).mapError
      (ReadFault.inside spec.owner spec.name)
    refine htakes.of_eq fun bs => ?_
    simp only [readValue, hspec]

end Values

/-! ## Fields -/

section Fields

variable {σ : Type} {g : Grammar σ}

/-- What reading fields does first. -/
inductive FieldsStep (g : Grammar σ) (fuel depth : Nat) (type : Option σ) :
    Extent → Bytes → Read Fields → Prop
  /-- There is nothing more to read. -/
  | done {bs : Bytes} : FieldsStep g fuel depth type (.after 0) bs ⟨[], 0, bs⟩
  /-- The mark at the end is read. -/
  | mark {number : Nat} {bs : Bytes} {key : Read Key} :
      readKey bs = .ok key → key.value = ⟨number, .endGroup⟩ →
        FieldsStep g fuel depth type (.mark number) bs ⟨[], key.used, key.rest⟩
  /-- A field is read, and then those after it. -/
  | field {extent next : Extent} {bs : Bytes} {key : Read Key} {value : Read Raw}
      {more : Read Fields} :
      extent ≠ .after 0 → readKey bs = .ok key →
        (∀ number, extent = .mark number → key.value.wire ≠ .endGroup) →
        readValue g (readFields g fuel) depth type key.value key.rest = .ok value →
        extent.shrink (key.used + value.used) = some next →
        readFields g fuel depth type next value.rest = .ok more →
          FieldsStep g fuel depth type extent bs
            ⟨(key.value.number, value.value) :: more.value, key.used + value.used + more.used,
              more.rest⟩

/-- One step of reading fields: they are at their end, or a mark ends them, or a field is read and
then the others. -/
theorem readFields_succ_eq_ok_iff {fuel depth : Nat} {type : Option σ} {extent : Extent} {bs : Bytes}
    {r : Read Fields} : readFields g (fuel + 1) depth type extent bs = .ok r ↔
      FieldsStep g fuel depth type extent bs r := by
  constructor
  · intro h
    simp only [readFields] at h
    split at h
    · next hend =>
      obtain rfl := Except.ok.inj h
      rw [hend]
      exact .done
    · next hend =>
      split at h
      · cases h
      · next key hkey =>
        split at h
        · next number hwire =>
          split_ifs at h with hnumber
          obtain rfl := Except.ok.inj h
          exact .mark hkey (by rw [← hnumber, ← hwire])
        · next hwire =>
          split at h
          · cases h
          · next value hvalue =>
            split at h
            · cases h
            · next next hnext =>
              split at h
              · cases h
              · next more hmore =>
                obtain rfl := Except.ok.inj h
                exact .field hend hkey hwire hvalue hnext hmore
  · -- in a group the end is a mark, which the key of a field is not
    rintro (_ | ⟨hkey, hvalue⟩ | ⟨hend, hkey, hwire, hvalue, hnext, hmore⟩)
    · rfl
    · simp [readFields, hkey, hvalue]
    · cases extent with
      | after n => simp only [readFields, if_neg hend, hkey, hvalue, hnext, hmore]
      | mark number =>
        simp [readFields, hkey, hvalue, hnext, hmore]

/-- Fields with a length use all of it. -/
theorem used_of_readFields {fuel depth n : Nat} {type : Option σ} {bs : Bytes} {r : Read Fields}
    (h : readFields g fuel depth type (.after n) bs = .ok r) : r.used = n := by
  induction fuel generalizing n bs r with
  | zero => cases h
  | succ fuel ih =>
    cases readFields_succ_eq_ok_iff.mp h with
    | done => rfl
    | @field _ next _ key value more _ _ _ _ hnext hmore =>
      rw [Extent.shrink] at hnext
      split_ifs at hnext with hover
      obtain rfl := Option.some.inj hnext
      have hused := ih hmore
      dsimp only
      omega

/-- Fields are read alike whatever follows, with any fuel that lasts for their bytes. -/
theorem takesFront_readFields {fuel fuel' depth : Nat} {type : Option σ} {extent : Extent}
    {bs : Bytes} {r : Read Fields} (h : readFields g fuel depth type extent bs = .ok r)
    (hfuel : r.used < fuel') : TakesFront (readFields g fuel' depth type extent) bs r := by
  induction fuel generalizing fuel' depth type extent bs r with
  | zero => cases h
  | succ fuel ih =>
    obtain ⟨fuel', rfl⟩ := Nat.exists_eq_add_one_of_ne_zero (Nat.ne_zero_of_lt hfuel)
    have hagrees : Agrees fuel' (readFields g fuel) (readFields g fuel') :=
      ⟨used_of_readFields, fun h hbound => ih h hbound⟩
    cases readFields_succ_eq_ok_iff.mp h with
    | done => exact ⟨[], rfl, rfl, fun rest => readFields_succ_eq_ok_iff.mpr .done⟩
    | mark hkey hvalue =>
      obtain ⟨⟨front, hbs, hlength, hread⟩, -⟩ := takesFront_readKey hkey
      exact ⟨front, hbs, hlength, fun rest =>
        readFields_succ_eq_ok_iff.mpr (.mark (hread rest) hvalue)⟩
    | @field _ next _ key value more hend hkey hwire hvalue hnext hmore =>
      -- the key takes a byte at least, so less fuel is enough for what comes after it
      obtain ⟨⟨front, hbs, hlength, hread⟩, hpos⟩ := takesFront_readKey hkey
      dsimp only at hfuel
      obtain ⟨middle, hmiddle, hlength', hread'⟩ :=
        takesFront_readValue hagrees hvalue (by omega)
      obtain ⟨back, hback, hlength'', hread''⟩ := ih hmore (show more.used < fuel' by omega)
      refine ⟨front ++ (middle ++ back), ?_, ?_, fun rest => ?_⟩
      · rw [hbs, hmiddle, hback]
        simp
      · simp only [List.length_append, hlength, hlength', hlength'']
        omega
      · have hstep : FieldsStep g fuel' depth type extent (front ++ (middle ++ (back ++ rest))) _ :=
          .field hend (hread _) hwire (hread' _) hnext (hread'' rest)
        rw [List.append_assoc, List.append_assoc]
        exact readFields_succ_eq_ok_iff.mpr hstep

end Fields

end ProtoRest.Wire
