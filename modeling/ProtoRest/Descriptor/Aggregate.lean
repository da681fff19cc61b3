import ProtoRest.Descriptor.Canonical
import ProtoRest.Descriptor.Default
import ProtoRest.Descriptor.Lookup

/-! # Aggregates
An aggregate writes the fields of a message as text: names with values, messages in braces, several
values of a field in brackets, and extensions by their names in brackets. `Aggregate.read?` reads one
by the type of the message. -/

namespace ProtoRest.Descriptor.Aggregate

open ProtoRest.Text ProtoRest.Wire

/-! ## Tokens -/

/-- A part of an aggregate. -/
inductive Token
  /-- A word. -/
  | word (s : String)
  /-- A number, without its sign. -/
  | number (cs : List Char)
  /-- What stands between quotes. -/
  | quoted (bs : Bytes)
  /-- Any other character. -/
  | mark (c : Char)
  deriving DecidableEq, Repr

/-- Whether a character can start a word. -/
def startsWord (c : Char) : Bool := c.isAlpha || c = '_'

/-- Whether a character can stand in a word. -/
def inWord (c : Char) : Bool := c.isAlphanum || c = '_'

/-- Whether a character is blank between tokens. -/
def isGap (c : Char) : Bool := c ∈ [' ', '\t', '\n', '\r', '\x0b', '\x0c']

/-- The marks that can stand between other tokens. -/
def marks : List Char := ['.', '-', ',', '+', ':', '[', ']', '{', '}', '<', '>', '/', ';']

/-- The characters of a number: those of a word, points, and a sign after an exponent mark. -/
def numberChars (exponent : Bool) : List Char → List Char
  | [] => []
  | c :: cs =>
    if inWord c ∨ c = '.' then c :: numberChars (c = 'e' || c = 'E') cs
    else if exponent ∧ (c = '+' ∨ c = '-') then c :: numberChars false cs
    else []

/-- The bytes of an escape after its backslash, and how many characters it takes. -/
def escapeBytes? (cs : List Char) : Option (Bytes × Nat) :=
  let codePoint (size : Nat) (rest : List Char) : Option (Bytes × Nat) :=
    let digits := rest.take size
    let n := digitsValue 16 digits
    if digits.length = size ∧ digits.all (fun d => (hexValue? d).isSome) ∧ n.isValidChar then
      some (bytesOfText (String.singleton (Char.ofNat n)), size + 1)
    else none
  match cs with
  | 'u' :: rest => codePoint 4 rest
  | 'U' :: rest => codePoint 8 rest
  | x :: rest =>
    if x = 'x' ∨ x = 'X' then
      let digits := (rest.take 2).takeWhile fun d => (hexValue? d).isSome
      if digits = [] then none else some ([UInt8.ofNat (digitsValue 16 digits)], digits.length + 1)
    else (escape? cs).map fun e => ([e.1], e.2)
  | [] => none

/-- The bytes up to a quote, and what follows it. -/
def quotedFrom (quote : Char) : Nat → List Char → Option (Bytes × List Char)
  | 0, _ | _, [] => none
  | fuel + 1, c :: cs =>
    if c = quote then some ([], cs)
    else if c = '\n' then none
    else if c = '\\' then do
      let (bs, size) ← escapeBytes? cs
      let (more, rest) ← quotedFrom quote fuel (cs.drop size)
      return (bs ++ more, rest)
    else do
      let (more, rest) ← quotedFrom quote fuel cs
      return (bytesOfText (String.singleton c) ++ more, rest)

/-- The tokens of a text; the fuel bounds how many characters there are. -/
def tokensFrom : Nat → List Char → Option (List Token)
  | _, [] => some []
  | 0, _ :: _ => none
  | fuel + 1, c :: cs =>
    if isGap c then tokensFrom fuel cs
    else if c = '#' then tokensFrom fuel (cs.dropWhile (· ≠ '\n'))
    else if startsWord c then
      let word := (c :: cs).takeWhile inWord
      (tokensFrom fuel ((c :: cs).drop word.length)).map (.word (String.ofList word) :: ·)
    else if c.isDigit ∨ (c = '.' ∧ (cs.head?.any Char.isDigit)) then
      let number := numberChars false (c :: cs)
      (tokensFrom fuel ((c :: cs).drop number.length)).map (.number number :: ·)
    else if c = '"' ∨ c = '\'' then do
      let (bs, rest) ← quotedFrom c (cs.length + 1) cs
      let tokens ← tokensFrom fuel rest
      return .quoted bs :: tokens
    else if c ∈ marks then (tokensFrom fuel cs).map (.mark c :: ·)
    else none

/-- The tokens of a text. -/
def tokens? (s : String) : Option (List Token) := tokensFrom s.length s.toList

/-! ## Scalars -/

/-- The whole number that digits in base ten, eight or sixteen write. -/
def whole? (cs : List Char) : Option Nat :=
  match cs with
  | '0' :: x :: rest =>
    if x = 'x' ∨ x = 'X' then
      if rest ≠ [] ∧ rest.all (fun d => (hexValue? d).isSome) then some (digitsValue 16 rest) else none
    else if (x :: rest).all isOctal then some (digitsValue 8 (x :: rest))
    else none
  | _ => natural? cs

/-- The number that a text writes; a letter after it may mark a fraction. -/
def number? (negative : Bool) (cs : List Char) : Option WrittenNumber :=
  match whole? cs with
  | some n => some (.finite negative n 0)
  | none =>
    match cs.reverse with
    | 'f' :: rest | 'F' :: rest => unsignedFraction? negative rest.reverse
    | _ => unsignedFraction? negative cs

/-- The number that a word stands for. -/
def numberWord? (negative : Bool) (word : String) : Option WrittenNumber :=
  match String.ofList (asciiLower word.toList) with
  | "inf" | "infinity" => some (.infinite negative)
  | "nan" => some (.nan negative)
  | _ => none

/-- The words for truth values. -/
def boolWords : List (String × Bool) :=
  [("true", true), ("True", true), ("t", true), ("false", false), ("False", false), ("f", false)]

/-- The raw form of a fraction of a type. -/
def rawOfNumber? (type : ScalarType) (n : WrittenNumber) : Option Raw :=
  match type with
  | .double => some (.fixed64 n.double.toBits.toNat)
  | .float => some (.fixed32 n.single.toBits.toNat)
  | _ => none

/-- The raw form of bytes of a type. -/
def rawOfBytes? (type : ScalarType) (bs : Bytes) : Option Raw :=
  match type with
  | .string => (textOfBytes bs).map .text
  | .bytes => some (.bytes bs)
  | _ => none

/-- What quotes hold, one after the other, and what follows them. -/
def joinQuoted : List Token → Bytes × List Token
  | .quoted bs :: rest =>
    let (more, rest) := joinQuoted rest
    (bs ++ more, rest)
  | rest => ([], rest)

/-- The scalar that a number with or without a sign writes. -/
def numeral? (p : Pool) (type : ValueType) (negative : Bool) (cs : List Char) : Option Raw :=
  let n? : Option Int := (whole? cs).map fun n => if negative then -(n : Int) else n
  match type with
  | .scalar .bool =>
    match n? with
    | some 0 => some (.varint 0)
    | some 1 => some (.varint 1)
    | _ => none
  | .scalar .double | .scalar .float =>
    match type, number? negative cs with
    | .scalar type, some n => rawOfNumber? type n
    | _, _ => none
  | .scalar type => n?.bind type.rawOfInt?
  | .enum name =>
    n?.bind fun n =>
      if (p.enum? name).any (·.values.any (·.number == n)) then some (.varint (natOfInt n)) else none
  | .message _ _ => none

/-- The scalar that a word stands for. -/
def wordValue? (p : Pool) (type : ValueType) (negative : Bool) (word : String) : Option Raw :=
  match type with
  | .scalar .bool =>
    if negative then none else (boolWords.lookup word).map fun b => .varint (if b then 1 else 0)
  | .scalar type => (numberWord? negative word).bind (rawOfNumber? type)
  | .enum name =>
    if negative then none else (p.enumNumber? name word).map fun n => .varint (natOfInt n)
  | .message _ _ => none

/-- A scalar, and what follows it. -/
def scalar? (p : Pool) (type : ValueType) : List Token → Option (Raw × List Token)
  | .mark '-' :: .number cs :: rest => (numeral? p type true cs).map (·, rest)
  | .mark '-' :: .word w :: rest => (wordValue? p type true w).map (·, rest)
  | .number cs :: rest => (numeral? p type false cs).map (·, rest)
  | .word w :: rest => (wordValue? p type false w).map (·, rest)
  | .quoted bs :: rest =>
    match type with
    | .scalar type =>
      let (more, rest) := joinQuoted rest
      (rawOfBytes? type (bs ++ more)).map (·, rest)
    | .enum _ | .message _ _ => none
  | _ => none

/-! ## Messages -/

/-- A name with points up to a closing bracket, and what follows it. -/
def bracketName? : List Token → Option (String × List Token)
  | .word w :: .mark ']' :: rest => some (w, rest)
  | .word w :: .mark '.' :: rest => (bracketName? rest).map fun r => (w ++ "." ++ r.1, r.2)
  | _ => none

/-- The field that stands at the start, and what follows its name. -/
def field? (p : Pool) (type : MessageType) : List Token → Option (FieldType × List Token)
  | .word name :: rest => (type.fields.find? (·.name == name)).map (·, rest)
  | .mark '[' :: rest => do
    let (name, rest) ← bracketName? rest
    let x ← p.extension? name
    if x.extendee = type.fullName then some (x.field, rest) else none
  | _ => none

/-- Whether a field has a value already, or another member of its choice has one. -/
def isTaken (type : MessageType) (f : FieldType) (before : Fields) : Bool :=
  before.any fun old =>
    (old.1 == f.number && (f.presence || !isDefault f.type old.2)) ||
      (f.oneof.isSome && (type.field? old.1).any (·.oneof == f.oneof))

/-- What ends the fields of a message. -/
inductive Ending
  /-- The end of the text. -/
  | text
  /-- A mark. -/
  | mark (c : Char)
  deriving DecidableEq, Repr

/-- What follows the fields of a message if they end here. -/
def Ending.reached? : Ending → List Token → Option (List Token)
  | .text, [] => some []
  | .mark c, .mark d :: rest => if c = d then some rest else none
  | _, _ => none

/-- A value of a field, and what follows it. -/
def value? (p : Pool) (fields : String → Ending → List Token → Option (Fields × List Token))
    (f : FieldType) (tokens : List Token) : Option (Raw × List Token) :=
  let inside (name : String) (grouped : Bool) (close : Char) (rest : List Token) :=
    (fields name (.mark close) rest).map fun r =>
      (if grouped then Raw.group r.1 else .message r.1, r.2)
  match f.type, tokens with
  | .message name grouped, .mark '\x7b' :: rest => inside name grouped '\x7d' rest
  | .message name grouped, .mark '<' :: rest => inside name grouped '>' rest
  | _, _ => scalar? p f.type tokens

/-- Values between commas up to a closing bracket, and what follows it. -/
def values? (value : List Token → Option (Raw × List Token)) :
    Nat → List Token → Option (List Raw × List Token)
  | 0, _ => none
  | fuel + 1, tokens => do
    let (raw, rest) ← value tokens
    match rest with
    | .mark ']' :: rest => return ([raw], rest)
    | .mark ',' :: rest =>
      let (raws, rest) ← values? value fuel rest
      return (raw :: raws, rest)
    | _ => none

/-- What stands after the name of a field: a colon, which a message does not need. -/
def afterColon : List Token → Option (List Token)
  | .mark ':' :: rest => some rest
  | .mark '\x7b' :: rest => some (.mark '\x7b' :: rest)
  | .mark '<' :: rest => some (.mark '<' :: rest)
  | _ => none

/-- What stands after a value and the mark that may separate it from the next field. -/
def afterSeparator : List Token → List Token
  | .mark ',' :: rest | .mark ';' :: rest => rest
  | rest => rest

/-- The values after the name of a field, and what follows them. -/
def fieldValues? (value : List Token → Option (Raw × List Token)) (f : FieldType) (fuel : Nat)
    (tokens : List Token) : Option (List Raw × List Token) :=
  match f.isRepeated, tokens with
  | true, .mark '[' :: .mark ']' :: rest => some ([], rest)
  | true, .mark '[' :: rest => values? value fuel rest
  | _, _ => (value tokens).map fun r => ([r.1], r.2)

/-- The fields of a message up to their end, given those before them; the fuel bounds how many
tokens there are. -/
def fields? (p : Pool) : Nat → Fields → String → Ending → List Token → Option (Fields × List Token)
  | 0, _, _, _, _ => none
  | fuel + 1, before, message, ending, tokens =>
    match ending.reached? tokens with
    | some rest => some (before, rest)
    | none => do
      let type ← p.message? message
      let (f, rest) ← field? p type tokens
      let rest ← afterColon rest
      let (raws, rest) ← fieldValues? (value? p (fields? p fuel []) f) f fuel rest
      if !f.isRepeated && isTaken type f before then none
      else
        fields? p fuel (before ++ raws.map fun raw => (f.number, raw)) message ending
          (afterSeparator rest)

/-- The fields that an aggregate writes for a message. -/
def read? (p : Pool) (message : String) (s : String) : Option Fields := do
  let tokens ← tokens? s
  let (fields, _) ← fields? p (tokens.length + 1) [] message .text tokens
  return fields

end ProtoRest.Descriptor.Aggregate
