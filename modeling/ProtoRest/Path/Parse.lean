import ProtoRest.Path.Template
import ProtoRest.Text.Blank

/-! # Reading path templates
`Template.parse` reads a template in four steps. `cutVerb` takes the verb off at the first colon
outside braces. `scan` cuts the path into **tokens**: literal texts between slashes and braces, and
variables. `Token.segments` converts each token, and `checkOrder` looks at the segments together:
a catch-all is the last one and no parameter is bound twice. -/

namespace ProtoRest.Path

open ProtoRest.Text

/-- A piece of a path between slashes and braces. -/
inductive Token
  /-- Text outside braces. -/
  | literal (text : List Char)
  /-- The name inside braces and the pattern after the equals sign. -/
  | variable (name : List Char) (pattern : Option (List Char))
  deriving DecidableEq, Repr

/-! ## Verbs -/

/-- The number of open braces after one more character; closing more than was opened is ignored. -/
def depthAfter (depth : Nat) (c : Char) : Nat :=
  if c = '{' then depth + 1 else if c = '}' then depth - 1 else depth

/-- The text before the first colon outside braces, and the text after it. -/
def cutVerb (depth : Nat) : List Char → List Char × Option (List Char)
  | [] => ([], none)
  | c :: cs =>
    if c = ':' ∧ depth = 0 then ([], some cs)
    else
      let rest := cutVerb (depthAfter depth c) cs
      (c :: rest.1, rest.2)

/-- A character that a verb may hold. -/
def isVerbChar (c : Char) : Bool := c.isAlphanum || c == '_' || c == '-' || c == '.'

/-- A text that may be a verb. -/
def isVerb (cs : List Char) : Bool := !cs.isEmpty && cs.all isVerbChar

/-! ## Tokens -/

/-- The text collected so far as a token, unless it is empty. -/
def flush (text : List Char) : List Token := if text = [] then [] else [.literal text]

/-- The variable with the given text between its braces. -/
def Token.ofBody (body : List Char) : Token :=
  match splitOnce '=' body with
  | some (name, pattern) => .variable (trim name) (some (trim pattern))
  | none => .variable (trim body) none

/-- Where the scanner stands: the text of the current literal, or of the current variable. -/
inductive Scan
  /-- Outside braces. -/
  | outside (text : List Char)
  /-- Between an opening brace and its partner. -/
  | inside (body : List Char)

/-- The tokens of a path; `none` when the braces are not balanced or nested. -/
def scan : Scan → List Char → Option (List Token)
  | .outside text, [] => some (flush text)
  | .inside _, [] => none
  | .outside text, c :: cs =>
    if c = '/' then (scan (.outside []) cs).map (flush text ++ ·)
    else if c = '{' then (scan (.inside []) cs).map (flush text ++ ·)
    else if c = '}' then none
    else scan (.outside (text ++ [c])) cs
  | .inside body, c :: cs =>
    if c = '}' then (scan (.outside []) cs).map (Token.ofBody body :: ·)
    else if c = '{' then none
    else scan (.inside (body ++ [c])) cs

/-! ## Segments -/

/-- A wildcard: one star or two. -/
def isWildcard (cs : List Char) : Bool := cs == ['*'] || cs == ['*', '*']

/-- A letter of ASCII or an underscore starts a name, and letters, digits and underscores follow. -/
def isName : List Char → Bool
  | [] => false
  | c :: cs => (c.isAlpha || c == '_') && cs.all fun d => d.isAlphanum || d == '_'

/-- The segment of a literal token; a star is not matched verbatim. -/
def literalSegment (text : List Char) : Except Template.Fault Segment :=
  if isWildcard text then .error (.bareWildcard (String.ofList text))
  else if '*' ∈ text then .error (.invalidLiteral (String.ofList text))
  else .ok (.literal (String.ofList text))

/-- Whether a variable may have this name. -/
def checkName (name : List Char) : Except Template.Fault Unit :=
  if '.' ∈ name then .error (.nestedField (String.ofList name))
  else if isName name then .ok ()
  else .error (.invalidName (String.ofList name))

/-- The segments of a pattern's parts: the literals before the first wildcard, and then one
parameter, which takes one segment when a single star ends the pattern and the rest otherwise. -/
def patternSegments (name : String) : List (List Char) → List Segment
  | [] => []
  | part :: parts =>
    if isWildcard part then
      if part = ['*'] ∧ parts = [] then [.param name] else [.catchAll name]
    else .literal (String.ofList part) :: patternSegments name parts

/-- The segments of a variable. A pattern without a wildcard binds nothing. -/
def variableSegments (name : List Char) (pattern : Option (List Char)) :
    Except Template.Fault (List Segment) :=
  let name := String.ofList name
  match pattern with
  | none => .ok [.param name]
  | some pattern =>
    let parts := (splitAt '/' pattern).filter (· ≠ [])
    if parts = [] then .error (.invalidLiteral ("\x7b" ++ name ++ "=\x7d"))
    else
      match parts.find? fun part => '*' ∈ part && !isWildcard part with
      | some part => .error (.invalidLiteral (String.ofList part))
      | none => .ok (patternSegments name parts)

/-- The segments of a token. -/
def Token.segments : Token → Except Template.Fault (List Segment)
  | .literal text => do return [← literalSegment text]
  | .variable name pattern => do
    checkName name
    variableSegments name pattern

/-- The segments of all tokens; the first token at fault decides the fault. -/
def segmentsOf : List Token → Except Template.Fault (List Segment)
  | [] => .ok []
  | token :: tokens => do
    let first ← token.segments
    let rest ← segmentsOf tokens
    return first ++ rest

/-- Whether every catch-all is last and every parameter new, given the names seen before. -/
def checkOrder (seen : List String) : List Segment → Except Template.Fault Unit
  | [] => .ok ()
  | .literal _ :: rest => checkOrder seen rest
  | .param name :: rest =>
    if name ∈ seen then .error (.duplicateParameter name) else checkOrder (name :: seen) rest
  | .catchAll name :: rest =>
    if rest ≠ [] then .error (.catchAllNotLast name)
    else if name ∈ seen then .error (.duplicateParameter name)
    else checkOrder (name :: seen) rest

/-- Whether the last segment is matched verbatim. -/
def endsInLiteral (segments : List Segment) : Bool :=
  match segments.getLast? with
  | some (.literal _) => true
  | _ => false

/-! ## Templates -/

/-- The template of a trimmed text. -/
def Template.ofChars (text : List Char) : Except Template.Fault Template := do
  if text = [] then throw .empty
  let (path, verb) := cutVerb 0 text
  -- the characters of the verb are checked before the path, and where it stands after it
  if let some verb := verb then
    if !isVerb verb then throw (.invalidLiteral (":" ++ String.ofList verb))
  let tokens ←
    match scan (.outside []) path with
    | some tokens => pure tokens
    | none => throw (.unbalancedBraces (String.ofList text))
  let segments ← segmentsOf tokens
  checkOrder [] segments
  if let some verb := verb then
    if !endsInLiteral segments then throw (.misplacedVerb (String.ofList verb))
  return ⟨segments, verb.map String.ofList⟩

/-- The template that a text writes; blanks around it do not count. -/
def Template.parse (text : String) : Except Template.Fault Template :=
  Template.ofChars (trim text.toList)

end ProtoRest.Path
