import ProtoRest.Code.Literal
import ProtoRest.Text.Quoted

/-! # Tokens
Code is a tree of tokens: words, lifetimes, literals, punctuation marks and groups between brackets.
`tokenTree?` reads a text as such a tree; `flatTokens` cuts it into tokens first, and `nest` turns
matching brackets into groups. Comments separate tokens, except those for the documentation, which
stand for an attribute each. -/

namespace ProtoRest.Code

open ProtoRest.Text

/-- The brackets around a group. -/
inductive Bracket
  /-- Round. -/
  | round
  /-- Square. -/
  | square
  /-- Curly. -/
  | curly
  deriving DecidableEq, Repr

/-- The opening mark of a bracket. -/
def Bracket.opening : Bracket → Char
  | .round => '('
  | .square => '['
  | .curly => '{'

/-- The closing mark of a bracket. -/
def Bracket.closing : Bracket → Char
  | .round => ')'
  | .square => ']'
  | .curly => '}'

/-- A token; a group holds tokens. -/
inductive Token
  /-- A word that is not raw, keywords included. -/
  | word (text : String)
  /-- A raw identifier, with its mark. -/
  | raw (text : String)
  /-- A lifetime without its quote. -/
  | lifetime (name : String)
  /-- A literal as it is written. -/
  | literal (text : String)
  /-- A punctuation mark; `joint` says that another mark follows at once. -/
  | mark (char : Char) (joint : Bool)
  /-- Tokens between brackets. -/
  | group (bracket : Bracket) (inner : List Token)
  deriving Repr

/-- A token outside of any tree: a bracket stands for itself. -/
inductive FlatToken
  /-- Any token but a group. -/
  | leaf (token : Token)
  /-- An opening bracket. -/
  | opening (bracket : Bracket)
  /-- A closing bracket. -/
  | closing (bracket : Bracket)

/-! ## Blanks and comments -/

/-- A character that separates tokens. -/
def isSpace (c : Char) : Bool := isBlank c || c == '\u200e' || c == '\u200f'

/-- A line up to its end, which a carriage return may be part of, and what follows. -/
def spanLine : List Char → List Char × List Char
  | [] => ([], [])
  | '\n' :: cs => ([], '\n' :: cs)
  | '\r' :: '\n' :: cs => ([], '\n' :: cs)
  | c :: cs =>
    let (line, rest) := spanLine cs
    (c :: line, rest)

/-- The text up to the end of a block comment of which `depth` levels are open, and what follows. -/
def spanBlock? : Nat → List Char → Option (List Char × List Char)
  | _, [] => none
  | depth, '/' :: '*' :: cs => (spanBlock? (depth + 1) cs).map fun p => ('/' :: '*' :: p.1, p.2)
  | depth, '*' :: '/' :: cs =>
    if depth ≤ 1 then some ([], cs)
    else (spanBlock? (depth - 1) cs).map fun p => ('*' :: '/' :: p.1, p.2)
  | depth, c :: cs => (spanBlock? depth cs).map fun p => (c :: p.1, p.2)

/-- The text after the comment at the start of a text; one for the documentation does not count. -/
def afterComment? : List Char → Option (List Char)
  | '/' :: '/' :: cs =>
    match cs with
    | '!' :: _ => none
    | '/' :: '/' :: _ => some (spanLine cs).2
    | '/' :: _ => none
    | _ => some (spanLine cs).2
  | '/' :: '*' :: cs =>
    match cs with
    | '*' :: '/' :: cs => some cs
    | '!' :: _ => none
    | '*' :: '*' :: _ => (spanBlock? 1 cs).map (·.2)
    | '*' :: _ => none
    | _ => (spanBlock? 1 cs).map (·.2)
  | _ => none

/-- Whether every carriage return stands before a line feed. -/
def returnsEndLines : List Char → Bool
  | [] => true
  | '\r' :: '\n' :: cs => returnsEndLines cs
  | '\r' :: _ => false
  | _ :: cs => returnsEndLines cs

/-- The comment for the documentation at the start of a text, and what follows: whether it is about
what is around it, and its text. -/
def docComment? (cs : List Char) : Option (Bool × List Char × List Char) :=
  let found :=
    match cs with
    | '/' :: '/' :: '!' :: cs => some (true, spanLine cs)
    | '/' :: '*' :: '!' :: cs => (spanBlock? 1 cs).map (true, ·)
    | '/' :: '/' :: '/' :: cs => if cs.head? = some '/' then none else some (false, spanLine cs)
    | '/' :: '*' :: '*' :: cs =>
      if cs.head? = some '*' then none else (spanBlock? 1 cs).map (false, ·)
    | _ => none
  found.filter fun f => returnsEndLines f.2.1

/-- The tokens that a comment for the documentation stands for. -/
def docTokens (inner : Bool) (text : List Char) : List FlatToken :=
  (.leaf (.mark '#' false)) :: (if inner then [.leaf (.mark '!' false)] else []) ++
    [.leaf (.group .square
      [.word "doc", .mark '=' false, .literal (Text.literal (String.ofList text))])]

/-! ## Leaves -/

/-- The words that have no raw form. -/
def unrawable : List String := ["_", "super", "self", "Self", "crate"]

/-- The punctuation marks. -/
def isMark (c : Char) : Bool := "~!@#$%^&*-=+|;:,<.>/?'".toList.contains c

/-- Whether a punctuation mark comes first; a slash that opens a comment is none. -/
def startsWithMark : List Char → Bool
  | '/' :: '/' :: _ | '/' :: '*' :: _ => false
  | c :: _ => isMark c
  | [] => false

/-- The identifier at the start of a text, raw or not, and what follows. -/
def identifier? (cs : List Char) : Option (Token × List Char) :=
  let named (cs : List Char) : Option (String × List Char) :=
    (afterName? cs).map fun rest => (String.ofList (cs.take (cs.length - rest.length)), rest)
  match cs with
  | 'r' :: '#' :: rest =>
    (named rest).bind fun (name, rest) =>
      if name ∈ unrawable then none else some (.raw ("r#" ++ name), rest)
  | cs => (named cs).map fun (name, rest) => (.word name, rest)

/-- The text of an identifier. -/
def Token.identText : Token → String
  | .word text | .raw text => text
  | _ => ""

/-- The lifetime after a single quote and what follows; no other quote may touch it, nor a number
sign one that is not raw. -/
def lifetime? (cs : List Char) : Option (Token × List Char) :=
  (identifier? cs).bind fun (name, rest) =>
    let touched :=
      match name, rest with
      | _, '\'' :: _ => true
      | .raw _, _ => false
      | _, '#' :: _ => true
      | _, _ => false
    if touched then none else some (.lifetime name.identText, rest)

/-- What makes a name part of a literal. -/
def literalPrefixes : List String :=
  ["r\"", "r#\"", "r##", "b\"", "b'", "br\"", "br#", "c\"", "cr\"", "cr#"]

/-- The token at the start of a text and the rest of the text. -/
def leaf? (cs : List Char) : Option (Token × List Char) :=
  match afterLiteral? cs with
  | some rest => some (.literal (String.ofList (cs.take (cs.length - rest.length))), rest)
  | none =>
    match cs with
    | [] => none
    | '\'' :: rest => lifetime? rest
    | c :: rest =>
      if startsWithMark cs then some (.mark c (startsWithMark rest), rest)
      -- the start of a literal that never ends is not a name
      else if literalPrefixes.any fun p => p.toList.isPrefixOf cs then none
      else identifier? cs

/-! ## Trees -/

/-- The bracket that a character opens. -/
def openingOf (c : Char) : Option Bracket :=
  if c = '(' then some .round else if c = '[' then some .square
  else if c = '{' then some .curly else none

/-- The bracket that a character closes. -/
def closingOf (c : Char) : Option Bracket :=
  if c = ')' then some .round else if c = ']' then some .square
  else if c = '}' then some .curly else none

/-- What stands in a text for a token that could not be told; it counts as a literal. -/
def placeholder : String := "(/*ERROR*/)"

/-- The text after the placeholder at the start of a text. -/
def afterPlaceholder? (cs : List Char) : Option (List Char) :=
  if placeholder.toList.isPrefixOf cs then some (cs.drop placeholder.length) else none

/-- The tokens of a text; `fuel` bounds their number. -/
def flatTokens : Nat → List Char → Option (List FlatToken)
  | _, [] => some []
  | 0, _ :: _ => none
  | fuel + 1, c :: rest =>
    if isSpace c then flatTokens fuel rest
    else
      -- a comment that documents something is an attribute, and any other one is a blank
      match afterComment? (c :: rest) with
      | some rest => flatTokens fuel rest
      | none =>
        match docComment? (c :: rest) with
        | some (inner, text, rest) => (flatTokens fuel rest).map (docTokens inner text ++ ·)
        | none =>
          match afterPlaceholder? (c :: rest), openingOf c, closingOf c with
          | some rest, _, _ => (flatTokens fuel rest).map (.leaf (.literal placeholder) :: ·)
          | none, some b, _ => (flatTokens fuel rest).map (.opening b :: ·)
          | none, none, some b => (flatTokens fuel rest).map (.closing b :: ·)
          | none, none, none =>
            match leaf? (c :: rest) with
            | none => none
            | some (token, rest) => (flatTokens fuel rest).map (.leaf token :: ·)

/-- Turns brackets into groups, given the open groups with the tokens before them, innermost first,
and the tokens of the current group, last first. -/
def nest : List (Bracket × List Token) → List Token → List FlatToken → Option (List Token)
  | [], current, [] => some current.reverse
  | _ :: _, _, [] => none
  | stack, current, .leaf token :: rest => nest stack (token :: current) rest
  | stack, current, .opening b :: rest => nest ((b, current) :: stack) [] rest
  | [], _, .closing _ :: _ => none
  | (b, before) :: stack, current, .closing d :: rest =>
    if b = d then nest stack (.group b current.reverse :: before) rest else none

/-- The tokens of a text as a tree; nothing when a character or a bracket is out of place. A byte
order mark at the start does not count. -/
def tokenTree? (cs : List Char) : Option (List Token) :=
  let cs := if cs.head? = some '\ufeff' then cs.drop 1 else cs
  (flatTokens cs.length cs).bind (nest [] [])

end ProtoRest.Code
