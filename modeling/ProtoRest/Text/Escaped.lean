import ProtoRest.Wire.Varint

/-! # Escaped bytes
Bytes between quotes as the schema language writes them: line ends and tabs have letters, quotes and
backslashes have a backslash in front, and every other byte that is not a printable ASCII character
is written by three octal digits. `unescape?` reads such a text and the further escapes that the
language has. -/

namespace ProtoRest.Text

open ProtoRest.Wire

/-- The octal digit of a number below eight. -/
def octalDigit (n : Nat) : Char := Char.ofNat (48 + n % 8)

/-- A byte between quotes. -/
def escapedByte (b : UInt8) : List Char :=
  let c := Char.ofNat b.toNat
  if c = '\t' then ['\\', 't']
  else if c = '\r' then ['\\', 'r']
  else if c = '\n' then ['\\', 'n']
  else if c = '\\' ∨ c = '\'' ∨ c = '"' then ['\\', c]
  else if 0x20 ≤ b ∧ b < 0x7f then [c]
  else ['\\', octalDigit (b.toNat / 64), octalDigit (b.toNat / 8), octalDigit b.toNat]

/-- Bytes between double quotes. -/
def escapedText (bs : Bytes) : String :=
  String.ofList ('"' :: bs.flatMap escapedByte ++ ['"'])

/-! ## Reading -/

/-- The bytes that a letter after a backslash stands for. -/
def letterEscapes : List (Char × UInt8) :=
  [('a', 7), ('b', 8), ('f', 12), ('n', 10), ('r', 13), ('t', 9), ('v', 11), ('\\', 92), ('?', 63),
   ('\'', 39), ('"', 34)]

/-- Whether a character is an octal digit. -/
def isOctal (c : Char) : Bool := '0' ≤ c && c ≤ '7'

/-- The value of a hexadecimal digit. -/
def hexValue? (c : Char) : Option Nat :=
  if c.isDigit then some (c.toNat - 48)
  else if 'a' ≤ c ∧ c ≤ 'f' then some (c.toNat - 87)
  else if 'A' ≤ c ∧ c ≤ 'F' then some (c.toNat - 55)
  else none

/-- The number that digits write in a base. -/
def digitsValue (base : Nat) (cs : List Char) : Nat :=
  cs.foldl (fun n c => n * base + (hexValue? c).getD 0) 0

/-- The bytes of one escape after its backslash, and how many characters it takes. Octal escapes have
one to three digits, hexadecimal ones two. -/
def escape? (cs : List Char) : Option (UInt8 × Nat) :=
  match cs with
  | [] => none
  | c :: rest =>
    match letterEscapes.lookup c with
    | some b => some (b, 1)
    | none =>
      if isOctal c then
        let digits := (cs.take 3).takeWhile isOctal
        some (UInt8.ofNat (digitsValue 8 digits), digits.length)
      else if c = 'x' ∨ c = 'X' then
        let digits := (rest.take 2).takeWhile fun d => (hexValue? d).isSome
        if digits.length = 2 then some (UInt8.ofNat (digitsValue 16 digits), 3) else none
      else none

/-- The bytes that a text with escapes stands for. -/
def unescapeFrom : Nat → List Char → Option Bytes
  | _, [] => some []
  | 0, _ :: _ => none
  | fuel + 1, c :: cs =>
    if c = '\\' then do
      let (b, size) ← escape? cs
      let bs ← unescapeFrom fuel (cs.drop size)
      return b :: bs
    else do
      let bs ← unescapeFrom fuel cs
      return bytesOfText (String.singleton c) ++ bs

/-- The bytes that a text with escapes stands for. -/
def unescape? (s : String) : Option Bytes := unescapeFrom s.length s.toList

end ProtoRest.Text
