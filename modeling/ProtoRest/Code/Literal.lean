import ProtoRest.Text.Blank
import ProtoRest.Text.Escaped
import ProtoRest.Text.IdentifierChars

/-! # Literals
A literal is a text between quotes, a character, a byte or a number, each with an optional name
after it. `afterLiteral?` is the text that follows the literal at the start of a text; it is nothing
when no literal stands there, so what it takes off is the longest literal. `isInteger` and its
neighbours tell the kinds apart, and `textValue?` is the text that a literal between quotes writes. -/

namespace ProtoRest.Code

open ProtoRest.Text

/-- The text after the name at the start of a text. -/
def afterName? : List Char → Option (List Char)
  | [] => none
  | c :: cs => if isIdentifierStart c then some (cs.dropWhile isIdentifierContinue) else none

/-- The text after the name that may follow a literal. -/
def afterSuffix (cs : List Char) : List Char := (afterName? cs).getD cs

/-! ## Quotes -/

/-- What the characters between quotes are. -/
inductive QuoteKind
  /-- Characters. -/
  | text
  /-- Bytes. -/
  | bytes
  /-- Characters other than the zero character, which ends the text. -/
  | zeroEnded
  deriving DecidableEq, Repr

/-- Whether a character may stand between quotes as it is. -/
def QuoteKind.allows : QuoteKind → Char → Bool
  | .text, _ => true
  | .bytes, c => c.toNat < 128
  | .zeroEnded, c => c != '\x00'

/-- Whether a number may be written by two hexadecimal digits. -/
def QuoteKind.allowsByte : QuoteKind → Nat → Bool
  | .text, n => n < 128
  | .bytes, _ => true
  | .zeroEnded, n => n != 0

/-- The letters of the short escapes. -/
def QuoteKind.letters : QuoteKind → List Char
  | .text | .bytes => ['n', 'r', 't', '\\', '\'', '"', '0']
  | .zeroEnded => ['n', 'r', 't', '\\', '\'', '"']

/-- The code point between curly brackets and the text after them: one to six digits, with
underscores after the first. -/
def codePoint? (value digits : Nat) : List Char → Option (Nat × List Char)
  | [] => none
  | c :: cs =>
    match hexValue? c with
    | some d => if digits = 6 then none else codePoint? (value * 16 + d) (digits + 1) cs
    | none =>
      if digits = 0 then none
      else if c = '_' then codePoint? value digits cs
      else if c = '}' ∧ value.isValidChar then some (value, cs)
      else none

/-- The text after an escape, given what follows its backslash. -/
def afterEscape? (kind : QuoteKind) : List Char → Option (List Char)
  | 'x' :: a :: b :: cs => do
    let high ← hexValue? a
    let low ← hexValue? b
    if kind.allowsByte (high * 16 + low) then some cs else none
  | 'u' :: '{' :: cs => do
    let (value, cs) ← codePoint? 0 0 cs
    if kind = .bytes ∨ (kind = .zeroEnded ∧ value = 0) then none else some cs
  | c :: cs => if kind.letters.contains c then some cs else none
  | [] => none

/-- The text after the blanks that a backslash at the end of a line skips; a carriage return stands
before a line feed only. -/
def afterLineEnd? : List Char → Option (List Char)
  | [] => none
  | '\r' :: '\n' :: cs => afterLineEnd? cs
  | '\r' :: _ => none
  | c :: cs => if c = ' ' ∨ c = '\t' ∨ c = '\n' then afterLineEnd? cs else some (c :: cs)

/-- The text after a quoted text, given what follows its opening quote; `fuel` bounds the number of
characters. -/
def afterQuoted? (kind : QuoteKind) : Nat → List Char → Option (List Char)
  | 0, _ => none
  | fuel + 1, cs =>
    match cs with
    | [] => none
    | '"' :: cs => some (afterSuffix cs)
    | '\r' :: '\n' :: cs => afterQuoted? kind fuel cs
    | '\r' :: _ => none
    | '\\' :: '\n' :: cs | '\\' :: '\r' :: '\n' :: cs =>
      (afterLineEnd? cs).bind (afterQuoted? kind fuel)
    | '\\' :: cs => (afterEscape? kind cs).bind (afterQuoted? kind fuel)
    | c :: cs => if kind.allows c then afterQuoted? kind fuel cs else none

/-- The text after a raw quoted text whose quotes carry `marks` number signs, given what follows its
opening quote. -/
def afterRaw? (kind : QuoteKind) (marks : Nat) : List Char → Option (List Char)
  | [] => none
  | '\r' :: '\n' :: cs => afterRaw? kind marks cs
  | '\r' :: _ => none
  | c :: cs =>
    if c = '"' ∧ (List.replicate marks '#').isPrefixOf cs then some (afterSuffix (cs.drop marks))
    else if kind.allows c then afterRaw? kind marks cs
    else none

/-- The text after a raw quoted text, given what follows the letter that makes it raw. -/
def afterRawOpening? (kind : QuoteKind) (cs : List Char) : Option (List Char) :=
  let marks := (cs.takeWhile (· == '#')).length
  match cs.drop marks with
  | '"' :: cs => if marks ≤ 255 then afterRaw? kind marks cs else none
  | _ => none

/-- The text after a character between single quotes, given what follows the opening one. -/
def afterSingle? (kind : QuoteKind) (cs : List Char) : Option (List Char) :=
  let rest :=
    match cs with
    | '\\' :: cs => afterEscape? kind cs
    | c :: cs => if kind.allows c then some cs else none
    | [] => none
  match rest with
  | some ('\'' :: cs) => some (afterSuffix cs)
  | _ => none

/-! ## Numbers -/

/-- The text after a name that is part of a number; no other name may touch it. -/
def afterNumberSuffix (cs : List Char) : Option (List Char) :=
  let rest := afterSuffix cs
  if rest.head?.any isIdentifierContinue then none else some rest

/-- A digit or an underscore. -/
def isDigitPart (c : Char) : Bool := c.isDigit || c == '_'

/-- The text after an exponent, given what follows its letter: `signed` and `found` say whether a
sign and a digit were there. -/
def afterExponent? (signed found : Bool) : List Char → Option (List Char)
  | [] => if found then some [] else none
  | c :: cs =>
    if c = '+' ∨ c = '-' then
      if found then some (c :: cs) else if signed then none else afterExponent? true found cs
    else if c.isDigit then afterExponent? signed true cs
    else if c = '_' then afterExponent? signed found cs
    else if found then some (c :: cs)
    else none

/-- The text after a fraction without the name that may follow it. A point starts one unless another
point or a name comes next. -/
def afterFraction? (cs : List Char) : Option (List Char) :=
  let exponent? (cs : List Char) : Option (List Char) :=
    match cs with
    | c :: cs => if c = 'e' ∨ c = 'E' then afterExponent? false false cs else none
    | [] => none
  if cs.head?.any Char.isDigit then
    match cs.dropWhile isDigitPart with
    | '.' :: cs =>
      if cs.head?.any fun c => c == '.' || isIdentifierStart c then none
      else
        let cs := cs.dropWhile isDigitPart
        some ((exponent? cs).getD cs)
    | cs => exponent? cs
  else none

/-- The text after the digits of a whole number: a digit that the base does not have is out of
place, unless it is a letter. -/
def afterDigits? (base : Nat) (found : Bool) : List Char → Option (List Char)
  | [] => if found then some [] else none
  | c :: cs =>
    if c = '_' then if !found ∧ base = 10 then none else afterDigits? base found cs
    else
      match hexValue? c with
      | some d =>
        if d < base then afterDigits? base true cs
        else if c.isDigit ∨ !found then none
        else some (c :: cs)
      | none => if found then some (c :: cs) else none

/-- The text after a whole number without the name that may follow it. -/
def afterWhole? : List Char → Option (List Char)
  | '0' :: 'x' :: cs => afterDigits? 16 false cs
  | '0' :: 'o' :: cs => afterDigits? 8 false cs
  | '0' :: 'b' :: cs => afterDigits? 2 false cs
  | cs => afterDigits? 10 false cs

/-- The text after a number. -/
def afterNumber? (cs : List Char) : Option (List Char) :=
  match (afterFraction? cs).bind afterNumberSuffix with
  | some rest => some rest
  | none => (afterWhole? cs).bind afterNumberSuffix

/-! ## Literals -/

/-- The text after the quoted text at the start of a text. -/
def afterQuotes? : List Char → Option (List Char)
  | '"' :: cs => afterQuoted? .text (cs.length + 1) cs
  | 'r' :: cs => afterRawOpening? .text cs
  | 'b' :: '"' :: cs => afterQuoted? .bytes (cs.length + 1) cs
  | 'b' :: 'r' :: cs => afterRawOpening? .bytes cs
  | 'c' :: '"' :: cs => afterQuoted? .zeroEnded (cs.length + 1) cs
  | 'c' :: 'r' :: cs => afterRawOpening? .zeroEnded cs
  | 'b' :: '\'' :: cs => afterSingle? .bytes cs
  | '\'' :: cs => afterSingle? .text cs
  | _ => none

/-- The text after the literal at the start of a text. -/
def afterLiteral? (cs : List Char) : Option (List Char) :=
  match afterQuotes? cs with
  | some rest => some rest
  | none => afterNumber? cs

/-! ## Kinds -/

/-- Whether a literal is a number. -/
def isNumber (text : String) : Bool := text.toList.head?.any Char.isDigit

/-- Whether a literal is a whole number: it has a base, or neither a point nor an exponent. -/
def isInteger (text : String) : Bool :=
  match text.toList with
  | '0' :: 'x' :: _ | '0' :: 'o' :: _ | '0' :: 'b' :: _ => true
  | cs =>
    cs.head?.any Char.isDigit &&
      match cs.dropWhile isDigitPart with
      | '.' :: _ => false
      | 'e' :: cs | 'E' :: cs => (afterExponent? false false cs).isNone
      | _ => true

/-- The number that a whole number writes and the name after it. -/
def integerParts (text : String) : Nat × String :=
  let parts (base : Nat) (cs : List Char) : Nat × String :=
    let inNumber (c : Char) := c == '_' || (hexValue? c).any (· < base)
    (digitsValue base ((cs.takeWhile inNumber).filter (· ≠ '_')),
      String.ofList (cs.dropWhile inNumber))
  match text.toList with
  | '0' :: 'x' :: cs => parts 16 cs
  | '0' :: 'o' :: cs => parts 8 cs
  | '0' :: 'b' :: cs => parts 2 cs
  | cs => parts 10 cs

/-- Whether a literal is a text. -/
def isText (text : String) : Bool := text.toList.head?.any fun c => c == '"' || c == 'r'

/-- Whether a literal is a character or a byte. -/
def isCharacter (text : String) : Bool :=
  match text.toList with
  | '\'' :: _ | 'b' :: '\'' :: _ => true
  | _ => false

/-! ## Values -/

/-- The characters that a quoted text writes up to its closing quote. -/
def quotedValue : Nat → List Char → List Char
  | 0, _ => []
  | fuel + 1, cs =>
    match cs with
    | [] | '"' :: _ => []
    | '\r' :: '\n' :: cs => '\n' :: quotedValue fuel cs
    | '\\' :: 'x' :: a :: b :: cs =>
      Char.ofNat ((hexValue? a).getD 0 * 16 + (hexValue? b).getD 0) :: quotedValue fuel cs
    | '\\' :: 'u' :: '{' :: cs =>
      match codePoint? 0 0 cs with
      | some (value, cs) => Char.ofNat value :: quotedValue fuel cs
      | none => []
    | '\\' :: c :: cs =>
      match c with
      | 'n' => '\n' :: quotedValue fuel cs
      | 'r' => '\r' :: quotedValue fuel cs
      | 't' => '\t' :: quotedValue fuel cs
      | '0' => '\x00' :: quotedValue fuel cs
      | '\n' | '\r' => quotedValue fuel (cs.dropWhile [' ', '\t', '\n', '\r'].contains)
      | c => c :: quotedValue fuel cs
    | c :: cs => c :: quotedValue fuel cs

/-- The characters of a raw text whose quotes carry `marks` number signs, up to its closing quote. -/
def rawValue (marks : Nat) : List Char → List Char
  | [] => []
  | c :: cs =>
    if c = '"' ∧ (List.replicate marks '#').isPrefixOf cs then [] else c :: rawValue marks cs

/-- The text that a literal writes; nothing when it is none. -/
def textValue? (text : String) : Option String :=
  match text.toList with
  | '"' :: cs => some (String.ofList (quotedValue (cs.length + 1) cs))
  | 'r' :: cs =>
    let marks := (cs.takeWhile (· == '#')).length
    some (String.ofList (rawValue marks (cs.drop (marks + 1))))
  | _ => none

end ProtoRest.Code
