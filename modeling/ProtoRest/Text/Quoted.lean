import ProtoRest.Text.Printable

/-! # Quoted text
`quote` writes a text between double quotes so that it stays on one line: quotes and backslashes are
escaped, tabs and line ends have letters, and what is not printable or attaches to the character
before it is written by its code point. `literal` differs in one place: a zero character before an
octal digit is spelled out, since the short form would take the digit in. -/

namespace ProtoRest.Text

/-- The lower-case hexadecimal digits of a number. -/
def hexDigits (n : Nat) : List Char := Nat.toDigits 16 n

/-- A character by its code point. -/
def codePointEscape (c : Char) : List Char :=
  ['\\', 'u', '{'] ++ hexDigits c.toNat ++ ['}']

/-- A character between double quotes; the zero character apart, see `literalChars`. -/
def escapeChar (c : Char) : List Char :=
  if c = '\x00' then ['\\', '0']
  else if c = '\t' then ['\\', 't']
  else if c = '\r' then ['\\', 'r']
  else if c = '\n' then ['\\', 'n']
  else if c = '"' then ['\\', '"']
  else if c = '\\' then ['\\', '\\']
  else if isGraphemeExtend c || !isPrintable c then codePointEscape c
  else [c]

/-- A text between double quotes. -/
def quote (s : String) : String :=
  String.ofList ('"' :: s.toList.flatMap escapeChar ++ ['"'])

/-- Whether a text starts with an octal digit. -/
def startsOctal : List Char → Bool
  | [] => false
  | c :: _ => '0' ≤ c && c ≤ '7'

/-- The characters between the quotes of a literal. -/
def literalChars : List Char → List Char
  | [] => []
  | c :: cs =>
    (if c = '\x00' ∧ startsOctal cs then ['\\', 'x', '0', '0'] else escapeChar c) ++
      literalChars cs

@[simp] theorem literalChars_nil : literalChars [] = [] := rfl

/-- A text as a string literal of generated code. -/
def literal (s : String) : String := String.ofList ('"' :: literalChars s.toList ++ ['"'])

end ProtoRest.Text
