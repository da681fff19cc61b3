/-! # Bytes and varints
A varint writes a number in groups of seven bits, the lowest first; every byte but the last has its
highest bit set. A reader takes at most ten bytes and no number of more than 64 bits. -/

namespace ProtoRest.Wire

/-- Bytes in order. -/
abbrev Bytes := List UInt8

/-- The bytes of a text. -/
def bytesOfText (s : String) : Bytes := s.toUTF8.data.toList

/-- The text that bytes encode, if they encode one. -/
def textOfBytes (bs : Bytes) : Option String := String.fromUTF8? ⟨bs.toArray⟩

/-- A text is read back from its bytes. -/
theorem textOfBytes_bytesOfText (s : String) : textOfBytes (bytesOfText s) = some s := by
  have : (⟨(bytesOfText s).toArray⟩ : ByteArray) = s.toUTF8 := by simp [bytesOfText]
  unfold textOfBytes
  rw [this]
  exact dif_pos s.isValidUTF8

/-- What was read, how many bytes it took, and what follows. -/
structure Read (α : Type) where
  /-- The value. -/
  value : α
  /-- The number of bytes that the value took. -/
  used : Nat
  /-- The bytes after it. -/
  rest : Bytes
  deriving Repr

/-- The bytes of a number. -/
def writeVarint (n : Nat) : Bytes :=
  if n < 128 then [UInt8.ofNat n] else UInt8.ofNat (n % 128 + 128) :: writeVarint (n / 128)

/-- Reads the bytes of a number from the one at a position on. -/
def readVarintFrom (position : Nat) : Bytes → Option (Read Nat)
  | [] => none
  | b :: bs =>
    if position = 9 then if b.toNat < 2 then some ⟨b.toNat, 1, bs⟩ else none
    else if b.toNat < 128 then some ⟨b.toNat, 1, bs⟩
    else
      (readVarintFrom (position + 1) bs).map fun r =>
        ⟨b.toNat % 128 + 128 * r.value, r.used + 1, r.rest⟩

@[simp] theorem readVarintFrom_nil (position : Nat) : readVarintFrom position [] = none := rfl

/-- Reads a number. -/
def readVarint (bs : Bytes) : Option (Read Nat) := readVarintFrom 0 bs

@[simp] theorem readVarint_nil : readVarint [] = none := rfl

/-- The bytes of a number of a fixed width, the lowest first. -/
def writeFixed : Nat → Nat → Bytes
  | 0, _ => []
  | width + 1, n => UInt8.ofNat (n % 256) :: writeFixed width (n / 256)

@[simp] theorem writeFixed_zero (n : Nat) : writeFixed 0 n = [] := rfl

/-- The number that bytes write, the lowest first. -/
def fixedValue : Bytes → Nat
  | [] => 0
  | b :: bs => b.toNat + 256 * fixedValue bs

@[simp] theorem fixedValue_nil : fixedValue [] = 0 := rfl

/-- Whether at least a number of bytes are there. -/
def holds (n : Nat) (bs : Bytes) : Bool := n == 0 || !(bs.drop (n - 1)).isEmpty

/-- As many bytes as wanted are there exactly when the list is long enough. -/
theorem holds_iff {n : Nat} {bs : Bytes} : holds n bs = true ↔ n ≤ bs.length := by
  cases n with
  | zero => simp [holds]
  | succ n =>
    simp only [holds, Nat.add_one_sub_one, Bool.or_eq_true, beq_iff_eq, Nat.add_one_ne_zero,
      false_or, Bool.not_eq_true', List.isEmpty_eq_false_iff, ne_eq, List.drop_eq_nil_iff]
    omega

end ProtoRest.Wire
