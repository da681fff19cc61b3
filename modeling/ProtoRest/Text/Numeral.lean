/-! # Numbers written in text
`integer?` reads decimal digits after an optional sign, `fraction?` a number with an optional
fraction and an optional exponent or one of the names of the special values, without regard to case.
A fraction is kept exactly; `WrittenNumber.double` and `WrittenNumber.single` round it to the nearest
binary number. -/

namespace ProtoRest.Text

/-- The number that decimal digits write; nothing without digits. -/
def natural? (cs : List Char) : Option Nat :=
  if cs ≠ [] ∧ cs.all Char.isDigit then
    some (cs.foldl (fun n c => n * 10 + (c.toNat - 48)) 0)
  else none

@[simp] theorem natural?_nil : natural? [] = none := rfl

/-- The number that decimal digits after an optional sign write. -/
def integer? (cs : List Char) : Option Int :=
  match cs with
  | '-' :: rest => (natural? rest).map fun n => -(n : Int)
  | '+' :: rest => (natural? rest).map (·)
  | _ => (natural? cs).map (·)

/-- The number that decimal digits after an optional plus write. -/
def unsigned? (cs : List Char) : Option Nat :=
  match cs with
  | '+' :: rest => natural? rest
  | _ => natural? cs

/-- A number as it is written. -/
inductive WrittenNumber
  /-- Digits times a power of ten, perhaps below zero. -/
  | finite (negative : Bool) (digits : Nat) (exponent : Int)
  /-- An infinity. -/
  | infinite (negative : Bool)
  /-- No number. -/
  | nan (negative : Bool)
  deriving DecidableEq, Repr

/-- A text without its sign, and whether the sign was a minus. -/
def splitSign (cs : List Char) : Bool × List Char :=
  match cs with
  | '-' :: rest => (true, rest)
  | '+' :: rest => (false, rest)
  | _ => (false, cs)

/-- A text in lower case, in which only the letters from A to Z are changed. -/
def asciiLower (cs : List Char) : List Char := cs.map Char.toLower

/-- The number that a text without a sign writes: digits with an optional point among them or at one
of their ends, and an optional exponent. -/
def unsignedFraction? (negative : Bool) (cs : List Char) : Option WrittenNumber :=
  let whole := cs.takeWhile Char.isDigit
  let afterWhole := cs.dropWhile Char.isDigit
  let (fraction, afterFraction) :=
    match afterWhole with
    | '.' :: rest => (rest.takeWhile Char.isDigit, rest.dropWhile Char.isDigit)
    | _ => ([], afterWhole)
  let exponent? : Option Int :=
    match afterFraction with
    | [] => some 0
    | c :: rest => if c = 'e' ∨ c = 'E' then integer? rest else none
  match natural? (whole ++ fraction), exponent? with
  | some digits, some exponent => some (.finite negative digits (exponent - fraction.length))
  | _, _ => none

/-- The number that a text writes. -/
def fraction? (cs : List Char) : Option WrittenNumber :=
  let (negative, unsigned) := splitSign cs
  let name := asciiLower unsigned
  if name = "inf".toList ∨ name = "infinity".toList then some (.infinite negative)
  else if name = "nan".toList then some (.nan negative)
  else unsignedFraction? negative unsigned

/-! ## Binary numbers -/

/-- The size of an exponent from which on every number but zero is too large or too small for a
binary number of 64 bits. -/
def exponentLimit : Int := 400

/-- Digits and an exponent that round to the same binary number as those given, with an exponent
that is not huge. -/
def tamed (digits : Nat) (exponent : Int) : Nat × Int :=
  let size := exponent + (Nat.toDigits 10 digits).length
  if digits = 0 ∨ size < -exponentLimit then (0, 0)
  else if exponentLimit < size then (1, exponentLimit)
  else (digits, exponent)

namespace WrittenNumber

/-- The number in 64 bits. -/
def double : WrittenNumber → Float
  | .finite negative digits exponent =>
    let (digits, exponent) := tamed digits exponent
    let size := Float.ofScientific digits (exponent < 0) exponent.natAbs
    if negative then -size else size
  | .infinite negative => if negative then -1.0 / 0.0 else 1.0 / 0.0
  | .nan _ => 0.0 / 0.0

/-- The number in 32 bits. -/
def single : WrittenNumber → Float32
  | .finite negative digits exponent =>
    let (digits, exponent) := tamed digits exponent
    let size := Float32.ofScientific digits (exponent < 0) exponent.natAbs
    if negative then -size else size
  | .infinite negative => if negative then -1.0 / 0.0 else 1.0 / 0.0
  | .nan _ => 0.0 / 0.0

end WrittenNumber

/-- The binary number of 64 bits that is nearest to a whole number. -/
def doubleOfInt (i : Int) : Float := (WrittenNumber.finite (decide (i < 0)) i.natAbs 0).double

end ProtoRest.Text
