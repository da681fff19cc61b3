import ProtoRest.Code.Token

/-! # Reading tokens
A reader takes tokens from the front of a list and gives back what they stand for, or tells why they
stand for nothing. The readers of single tokens, groups and lists are here; what they are put
together to is in the modules about types, patterns and expressions. -/

namespace ProtoRest.Code

/-- Why tokens are not what they should be. -/
inductive SyntaxFault
  /-- The text is not made of tokens. -/
  | noTokens
  /-- One of several things was expected; `atEnd` says that there is no token left. -/
  | expected (what : List String) (atEnd : Bool)
  /-- A mark was expected. -/
  | noMark (mark : String)
  /-- A keyword stands where an identifier was expected. -/
  | keyword (name : String)
  /-- Tokens are left before a closing bracket or the end of the text. -/
  | leftover (closing : Option Char)
  /-- A rule that goes beyond the order of the tokens is broken. -/
  | rule (text : String)
  deriving DecidableEq, Repr

/-- The words for one of several expectations. -/
def expectation : List String → String
  | [] => "unexpected token"
  | [a] => "expected " ++ a
  | [a, b] => "expected " ++ a ++ " or " ++ b
  | all => "expected one of: " ++ ", ".intercalate all

/-- The text shown for a fault. -/
def SyntaxFault.message : SyntaxFault → String
  | .noTokens => "cannot parse string into token stream"
  | .expected [] true => "unexpected end of input"
  | .expected what atEnd => (if atEnd then "unexpected end of input, " else "") ++ expectation what
  | .noMark mark => "expected `" ++ mark ++ "`"
  | .keyword name => "expected identifier, found keyword `" ++ name ++ "`"
  | .leftover none => "unexpected token"
  | .leftover (some c) => "unexpected token, expected `" ++ String.singleton c ++ "`"
  | .rule text => text

/-- The words that are no identifiers. -/
def reservedWords : List String :=
  ["_", "abstract", "as", "async", "await", "become", "box", "break", "const", "continue", "crate",
   "do", "dyn", "else", "enum", "extern", "false", "final", "fn", "for", "if", "impl", "in", "let",
   "loop", "macro", "match", "mod", "move", "mut", "override", "priv", "pub", "ref", "return",
   "Self", "self", "static", "struct", "super", "trait", "true", "try", "type", "typeof", "unsafe",
   "unsized", "use", "virtual", "where", "while", "yield"]

/-- The tokens to be read, and whether a group read so far had tokens left at its end, with its
closing mark. -/
structure Cursor where
  /-- The tokens to be read. -/
  tokens : List Token
  /-- The closing mark of the first group with tokens left. -/
  left : Option Char := none

/-! ## Looking ahead -/

/-- Whether marks that touch each other come first. -/
def startsMarks : List Char → List Token → Bool
  | [], _ => true
  | [c], .mark d _ :: _ => c == d
  | c :: cs, .mark d joint :: rest => c == d && joint && startsMarks cs rest
  | _, _ => false

namespace Cursor

/-- Whether nothing is left. -/
def isEmpty (c : Cursor) : Bool := c.tokens.isEmpty

/-- The cursor without its first tokens. -/
def drop (c : Cursor) (n : Nat) : Cursor := { c with tokens := c.tokens.drop n }

/-- Whether a word comes first. -/
def startsWord (c : Cursor) (word : String) : Bool :=
  match c.tokens with
  | .word w :: _ => w == word
  | _ => false

/-- Whether one of several words comes first. -/
def startsWordOf (c : Cursor) (words : List String) : Bool := words.any c.startsWord

/-- Whether a mark comes first. -/
def startsWith (c : Cursor) (mark : String) : Bool := startsMarks mark.toList c.tokens

/-- Whether an identifier comes first. -/
def startsIdent (c : Cursor) : Bool :=
  match c.tokens with
  | .word w :: _ => w ∉ reservedWords
  | .raw _ :: _ => true
  | _ => false

/-- Whether a text comes first. -/
def startsText (c : Cursor) : Bool :=
  match c.tokens with
  | .literal text :: _ => isText text
  | _ => false

/-- Whether any word comes first. -/
def startsAnyWord (c : Cursor) : Bool :=
  match c.tokens with
  | .word _ :: _ | .raw _ :: _ => true
  | _ => false

/-- Whether a lifetime comes first. -/
def startsLifetime (c : Cursor) : Bool :=
  match c.tokens with
  | .lifetime _ :: _ => true
  | _ => false

/-- Whether a group in the given brackets comes first. -/
def startsGroup (c : Cursor) (bracket : Bracket) : Bool :=
  match c.tokens with
  | .group b _ :: _ => b == bracket
  | _ => false

/-- The literal that comes first and the number of its tokens: a truth value counts, and so does a
number with a minus sign. -/
def literal? (c : Cursor) : Option (String × Nat) :=
  match c.tokens with
  | .literal text :: _ => some (text, 1)
  | .word w :: _ => if w = "true" ∨ w = "false" then some (w, 1) else none
  | .mark '-' _ :: .literal text :: _ => if isNumber text then some ("-" ++ text, 2) else none
  | _ => none

/-- Whether a literal comes first. -/
def startsLiteral (c : Cursor) : Bool := c.literal?.isSome

/-- Whether a point that is not one of several comes first. -/
def startsDot (c : Cursor) : Bool := c.startsWith "." && !c.startsWith ".."

/-- Whether an exclamation mark that calls a macro comes first. -/
def startsBang (c : Cursor) : Bool := c.startsWith "!" && !c.startsWith "!="

end Cursor

/-! ## Depth -/

mutual

/-- How deep the constructs of tokens can be nested, with room for the steps between two tokens. -/
def depthOf : List Token → Nat
  | [] => 4
  | token :: rest => token.depth + depthOf rest

/-- How deep the constructs of a token can be nested. -/
def Token.depth : Token → Nat
  | .group _ inner => 4 + depthOf inner
  | .word _ | .raw _ | .lifetime _ | .literal _ | .mark _ _ => 4

end

/-! ## Readers -/

/-- A reader of tokens. -/
abbrev Read := StateT Cursor (Except SyntaxFault)

namespace Read

/-- Whether something comes first. -/
def sees (test : Cursor → Bool) : Read Bool := do return test (← get)

/-- Fails because one of several things was expected. -/
def expecting (what : List String) : Read α := do
  throw (.expected what (← get).isEmpty)

/-- Passes over tokens. -/
def skip (n : Nat) : Read Unit := modify (·.drop n)

/-- Reads a keyword that has to come. -/
def keyword (text : String) : Read Unit := do
  if (← get).startsWord text then skip 1 else expecting ["`" ++ text ++ "`"]

/-- Reads a keyword if it comes. -/
def keywordIf (text : String) : Read Bool := do
  if (← get).startsWord text then
    skip 1
    return true
  else return false

/-- Reads a mark that has to come. -/
def mark (text : String) : Read Unit := do
  if (← get).startsWith text then skip text.length else throw (.noMark text)

/-- Reads a mark if it comes. -/
def markIf (text : String) : Read Bool := do
  if (← get).startsWith text then
    skip text.length
    return true
  else return false

/-- Reads any word. -/
def anyWord : Read String := do
  match (← get).tokens with
  | .word w :: _ | .raw w :: _ =>
    skip 1
    return w
  | _ => expecting ["identifier"]

/-- Reads an identifier. -/
def ident : Read String := do
  match (← get).tokens with
  | .word w :: _ => if w ∈ reservedWords then throw (.keyword w) else anyWord
  | _ => anyWord

/-- Reads a lifetime. -/
def lifetime : Read String := do
  match (← get).tokens with
  | .lifetime name :: _ =>
    skip 1
    return name
  | _ => expecting ["lifetime"]

/-- Reads a lifetime if it comes. -/
def lifetimeIf : Read (Option String) := do
  if (← get).startsLifetime then return some (← lifetime) else return none

/-- Reads a literal. -/
def literal : Read String := do
  match (← get).literal? with
  | some (text, size) =>
    skip size
    return text
  | none => expecting ["literal"]

/-- What a group in brackets is called. -/
def bracketName : Bracket → String
  | .round => "parentheses"
  | .square => "square brackets"
  | .curly => "curly braces"

/-- Reads what is in brackets; tokens left at the end of the group are kept in mind. -/
def inside (bracket : Bracket) (inner : Read α) : Read α := do
  let c ← get
  match c.tokens with
  | .group b tokens :: rest =>
    if b = bracket then
      set { c with tokens := tokens }
      let a ← inner
      let c ← get
      -- what is left over further inside comes first
      set (Cursor.mk rest (c.left <|> if c.isEmpty then none else some bracket.closing))
      return a
    else expecting [bracketName bracket]
  | _ => expecting [bracketName bracket]

/-- The tokens in any brackets. -/
def delimited : Read (Bracket × List Token) := do
  match (← get).tokens with
  | .group b tokens :: _ =>
    skip 1
    return (b, tokens)
  | _ => expecting ["delimiter"]

/-- The number of tokens left, and one more: what a list of tokens can be read in. -/
def fuel : Read Nat := do return (← get).tokens.length + 1

/-- Reads elements with a mark between them up to an end; the last one may have the mark too. -/
def separated (sep : String) (stops : Cursor → Bool) (elem : Read α) : Nat → Read (List α)
  | 0 => expecting []
  | fuel + 1 => do
    if stops (← get) then return []
    let a ← elem
    if stops (← get) then return [a]
    mark sep
    return a :: (← separated sep stops elem fuel)

/-- Reads elements with commas between them up to the end of a group. -/
def list (elem : Read α) : Read (List α) := do separated "," Cursor.isEmpty elem (← fuel)

/-- Reads elements with commas between them up to a mark. -/
def listBefore (mark : String) (elem : Read α) : Read (List α) := do
  separated "," (·.startsWith mark) elem (← fuel)

/-- Reads elements up to an end, or up to one that a mark does not follow. -/
def linked (sep : String) (stops : Cursor → Bool) (elem : Read α) : Nat → Read (List α)
  | 0 => expecting []
  | fuel + 1 => do
    if stops (← get) then return []
    let a ← elem
    if ← markIf sep then return a :: (← linked sep stops elem fuel) else return [a]

/-- Reads elements up to the end of a group. -/
def all (elem : Read α) : Nat → Read (List α)
  | 0 => expecting []
  | fuel + 1 => do
    if (← get).isEmpty then return []
    let a ← elem
    return a :: (← all elem fuel)

end Read

end ProtoRest.Code
