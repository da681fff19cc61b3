/-! # Decimals for binary fractions
A binary floating-point number stands for all reals that are rounded to it. `shortest` finds the
decimal with the fewest digits among them, and of those the one nearest to the number itself;
`numberText` writes it. -/

namespace ProtoRest.Text

/-- The layout of the bits of a binary floating-point number. -/
structure BinaryFormat where
  /-- The number of bits of the fraction. -/
  fractionBits : Nat
  /-- The number of bits of the exponent. -/
  exponentBits : Nat
  deriving DecidableEq, Repr

/-- Numbers of 32 bits. -/
def binary32 : BinaryFormat := ⟨23, 8⟩

/-- Numbers of 64 bits. -/
def binary64 : BinaryFormat := ⟨52, 11⟩

/-- A decimal: digits as a number, times a power of ten. -/
structure Decimal where
  /-- The digits. -/
  digits : Nat
  /-- The exponent of the last digit. -/
  exponent : Int
  deriving DecidableEq, Repr

/-- A positive number between the bounds of what is rounded to it, over a common denominator. -/
structure Rounding where
  /-- The number. -/
  value : Nat
  /-- The lower bound. -/
  low : Nat
  /-- The upper bound. -/
  high : Nat
  /-- The denominator. -/
  denominator : Nat
  /-- Whether the bounds are rounded to the number, too. -/
  closed : Bool
  deriving DecidableEq, Repr

/-- The number `m * 2 ^ q`; `narrow` says that the next lower number is only half as far away as the
next higher one. -/
def Rounding.make (m : Nat) (q : Int) (narrow : Bool) : Rounding :=
  let scale := Nat.pow 2 (q - 2).toNat
  { value := 4 * m * scale
    low := (4 * m - (if narrow then 1 else 2)) * scale
    high := (4 * m + 2) * scale
    denominator := Nat.pow 2 (2 - q).toNat
    closed := m % 2 == 0 }

namespace Rounding

/-- A number of units `10 ^ e` over the denominator, and the size of a unit that goes with it. -/
def scaled (r : Rounding) (n : Nat) (e : Int) : Nat := n * Nat.pow 10 e.toNat * r.denominator

/-- Whether `n * 10 ^ e` is rounded to the number. -/
def covers (r : Rounding) (n : Nat) (e : Int) : Bool :=
  let x := r.scaled n e
  let unit := Nat.pow 10 (-e).toNat
  if r.closed then r.low * unit ≤ x && x ≤ r.high * unit
  else r.low * unit < x && x < r.high * unit

/-- The decimal in units of `10 ^ e` that is rounded to the number and is nearest to it. -/
def onGrid (r : Rounding) (e : Int) : Option Decimal :=
  let unit := Nat.pow 10 (-e).toNat
  let below := r.value * unit / (Nat.pow 10 e.toNat * r.denominator)
  let above := below + 1
  match r.covers below e, r.covers above e with
  | true, true =>
    if r.value * unit - r.scaled below e ≤ r.scaled above e - r.value * unit then some ⟨below, e⟩
    else some ⟨above, e⟩
  | true, false => some ⟨below, e⟩
  | false, true => some ⟨above, e⟩
  | false, false => none

/-- The decimal on the first of some grids that has one, the next grid being ten times finer. -/
def firstOnGrid (r : Rounding) : Nat → Int → Decimal
  | 0, e => ⟨r.value * Nat.pow 10 (-e).toNat / (Nat.pow 10 e.toNat * r.denominator), e⟩
  | grids + 1, e =>
    match r.onGrid e with
    | some d => d
    | none => firstOnGrid r grids (e - 1)

/-- The decimal with the fewest digits that is rounded to the number. -/
def shortest (r : Rounding) : Decimal := r.firstOnGrid 660 310

end Rounding

/-! ## Writing -/

/-- A number of zeros. -/
def zeros (n : Nat) : String := "".pushn '0' n

/-- A decimal with its point, and at least one digit after it. -/
def positional (d : Decimal) : String :=
  let digits := toString d.digits
  if 0 ≤ d.exponent then digits ++ zeros d.exponent.toNat ++ ".0"
  else
    let places := (-d.exponent).toNat
    let padded := zeros (places + 1 - digits.length) ++ digits
    let cs := padded.toList
    String.ofList (cs.take (cs.length - places)) ++ "." ++
      String.ofList (cs.drop (cs.length - places))

/-- A decimal with one digit before the point and a power of ten. -/
def scientific (d : Decimal) : String :=
  match (toString d.digits).toList with
  | [] => ""
  | first :: rest =>
    String.ofList (first :: (if rest = [] then [] else '.' :: rest)) ++ "e" ++
      toString (d.exponent + rest.length)

/-- The text of a positive decimal: very large and very small ones have a power of ten. -/
def Decimal.text (d : Decimal) : String :=
  let leading := d.exponent + ((toString d.digits).length - 1 : Nat)
  if -4 ≤ leading ∧ leading < 16 then positional d else scientific d

/-- The text of a positive decimal without a power of ten, and without a point if nothing but zeros
would follow it. -/
def Decimal.plainText (d : Decimal) : String :=
  if 0 ≤ d.exponent then toString d.digits ++ zeros d.exponent.toNat else positional d

/-- The text of the number with bits in a format, given how positive decimals and zero are written. -/
def textOfBits (decimal : Decimal → String) (zero : String) (f : BinaryFormat) (bits : Nat) :
    String :=
  let fraction := bits % Nat.pow 2 f.fractionBits
  let exponent := bits / Nat.pow 2 f.fractionBits % Nat.pow 2 f.exponentBits
  let negative := bits / Nat.pow 2 (f.fractionBits + f.exponentBits) % 2 == 1
  let sign := if negative then "-" else ""
  let bias : Int := Nat.pow 2 (f.exponentBits - 1) - 1 + f.fractionBits
  if exponent = Nat.pow 2 f.exponentBits - 1 then
    if fraction = 0 then sign ++ "inf" else "NaN"
  else if exponent = 0 then
    if fraction = 0 then sign ++ zero
    else sign ++ decimal (Rounding.make fraction (1 - bias) false).shortest
  else
    sign ++
      decimal
        (Rounding.make (fraction + Nat.pow 2 f.fractionBits) (exponent - bias)
          (fraction == 0 && exponent != 1)).shortest

/-- The text of the number with bits in a format. -/
def numberText : BinaryFormat → Nat → String := textOfBits Decimal.text "0.0"

/-- The text of the number with bits in a format, always without a power of ten. -/
def plainNumberText : BinaryFormat → Nat → String := textOfBits Decimal.plainText "0"

end ProtoRest.Text
