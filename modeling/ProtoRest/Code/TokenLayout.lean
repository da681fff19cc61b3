import ProtoRest.Code.Layout
import ProtoRest.Code.Token

/-! # Layout of tokens
What a macro or an attribute is given is printed token by token. In a macro a blank goes between two
tokens unless they look like parts of one construct, as a name with its arguments does; in an
attribute, blanks go between names, around equality signs and after commas. The rules that define a
macro go one per line. -/

namespace ProtoRest.Code

/-- The words that a macro sets off by blanks. -/
def macroKeywords : List String :=
  ["as", "async", "await", "box", "break", "const", "continue", "crate", "dyn", "else", "enum",
   "extern", "fn", "for", "if", "impl", "in", "let", "loop", "macro", "match", "mod", "move", "mut",
   "pub", "ref", "return", "static", "struct", "super", "trait", "type", "unsafe", "use", "where",
   "while", "yield"]

/-- What the tokens before a place in a macro look like. -/
inductive MacroState
  /-- There are none. -/
  | start
  /-- A dollar sign. -/
  | dollar
  /-- A dollar sign and a name in a pattern. -/
  | binding
  /-- The same with a colon. -/
  | bindingColon
  /-- A dollar sign with parentheses, and marks after them. -/
  | repetition
  /-- The separator of a repetition. -/
  | separator
  /-- A number sign. -/
  | pound
  /-- A number sign and an exclamation mark. -/
  | poundBang
  /-- A point. -/
  | dot
  /-- The first colon of two. -/
  | colon
  /-- Two colons. -/
  | colons
  /-- A name or a literal. -/
  | name
  /-- A name and an exclamation mark. -/
  | nameBang
  /-- A group. -/
  | group
  /-- Anything else. -/
  | other
  deriving DecidableEq, Repr

/-- Whether a blank goes before a word, and the state after it; `pattern` says that the tokens are the
pattern of a rule. -/
def MacroState.word (pattern : Bool) (state : MacroState) (text : String) : Bool × MacroState :=
  if state = .dollar then (false, if pattern then .binding else .other)
  else if state = .bindingColon then (false, .other)
  else if state = .repetition then (false, .separator)
  else if text ∈ macroKeywords then (true, .other)
  else (state ≠ .dot ∧ state ≠ .colons, .name)

/-- Whether a blank goes before a literal, and the state after it. -/
def MacroState.literal (state : MacroState) (text : String) : Bool × MacroState :=
  if state = .repetition then (false, .separator)
  else (state ≠ .dot, if text.endsWith "." then .other else .name)

/-- Whether a blank goes before a group, and the state after it. -/
def MacroState.bracket (state : MacroState) (bracket : Bracket) : Bool × MacroState :=
  match state, bracket with
  | .dollar, .round => (false, .repetition)
  | .pound, .square | .poundBang, .square => (false, .other)
  | .name, .round | .name, .square => (false, .group)
  | .nameBang, .round | .nameBang, .square => (false, .other)
  | _, .round | _, .square => (true, .group)
  | _, .curly => (true, .other)

/-- Whether a blank goes before a mark, and the state after it. -/
def MacroState.mark (pattern : Bool) (state : MacroState) (char : Char) (joint : Bool) :
    Bool × MacroState :=
  if state = .binding ∧ char = ':' ∧ !joint then (false, .bindingColon)
  else if state = .repetition then
    if !joint ∧ (char = '+' ∨ char = '*' ∨ char = '?') then (false, .other)
    else (false, if joint then .repetition else .separator)
  else if state = .separator ∧ (char = '+' ∨ char = '*') then (false, .other)
  else if state = .pound ∧ char = '!' then (false, .poundBang)
  else if state = .name ∧ char = '!' ∧ !joint then (false, .nameBang)
  else if state = .colon ∧ char = ':' then (false, .colons)
  else if char = ',' ∨ char = ';' then (false, .other)
  else if char = '.' ∧ !pattern then (state ≠ .name ∧ state ≠ .group, .dot)
  else if char = ':' ∧ joint then (state ≠ .name, .colon)
  else if char = '$' then (true, .dollar)
  else if char = '#' then (true, .pound)
  else (true, .other)

/-- The gap before a token; `held` says that nothing may stand there. -/
def macroGap (held blank isPoint : Bool) : Pieces :=
  if held then [] else if blank then blankGap else if isPoint then zeroGap else []

/-- The pieces of what a macro is given or of the pattern of a rule, after tokens that left a state;
`held` says that the next token touches them. -/
def macroPieces (pattern : Bool) (state : MacroState) (held : Bool) : List Token → Pieces
  | [] => []
  | .word text :: rest | .raw text :: rest =>
    let (blank, next) := state.word pattern text
    macroGap held blank false ++ word text ++ macroPieces pattern next false rest
  | .lifetime name :: rest =>
    let (blank, next) := state.mark pattern '\'' true
    macroGap held blank false ++ word ("'" ++ name) ++
      macroPieces pattern (next.word pattern name).2 false rest
  | .literal text :: rest =>
    let (blank, next) := state.literal text
    macroGap held blank false ++ word text ++ macroPieces pattern next false rest
  | .mark char joint :: rest =>
    let (blank, next) := state.mark pattern char joint
    macroGap held blank (char == '.') ++ word (String.singleton char) ++
      macroPieces pattern next (joint || char == '$') rest
  | .group bracket inner :: rest =>
    let (blank, next) := state.bracket bracket
    let space := if bracket = .curly ∧ !inner.isEmpty then blankGap else []
    macroGap held blank false ++ word (String.singleton bracket.opening) ++ space ++
      macroPieces pattern .start true inner ++ space ++
      word (String.singleton bracket.closing) ++ macroPieces pattern next false rest

/-- Tokens between brackets, on lines of their own when they do not fit; `gap` stands at both ends. -/
def tokensInside (pattern : Bool) (gap : Pieces) (tokens : List Token) : Pieces :=
  if tokens.isEmpty then []
  else whole indentStep (dedent (gap ++ flow 0 (macroPieces pattern .start true tokens) ++ gap))

/-! ## Rules -/

/-- What was read of a rule. -/
inductive RuleState
  /-- Nothing. -/
  | start
  /-- The pattern. -/
  | pattern
  /-- The first mark of the arrow. -/
  | arrow
  /-- The whole arrow. -/
  | head
  /-- All of it. -/
  | whole
  deriving DecidableEq, Repr

/-- The lines of the rules of a macro; tokens that are no rules have no layout. -/
def rulesPieces : RuleState → List Token → Pieces
  | .start, [] => []
  | .whole, [] => word ";" ++ hardGap
  | _, [] => hardGap
  | .start, .group bracket inner :: rest =>
    word (String.singleton bracket.opening) ++ tokensInside true zeroGap inner ++
      word (String.singleton bracket.closing) ++ rulesPieces .pattern rest
  | .pattern, .mark '=' true :: rest => word " =" ++ rulesPieces .arrow rest
  | .arrow, .mark '>' false :: rest => word ">" ++ rulesPieces .head rest
  | .head, .group _ inner :: rest =>
    word " \x7b" ++ stayGap ++ tokensInside false hardGap inner ++ word "\x7d" ++
      rulesPieces .whole rest
  | .whole, .mark ';' false :: rest => word ";" ++ hardGap ++ rulesPieces .start rest
  | _, _ :: _ => [.forbidden]

/-! ## Attributes -/

/-- Whether tokens end in a comma. -/
def endsInComma (tokens : List Token) : Bool :=
  match tokens.getLast? with
  | some (.mark ',' _) => true
  | _ => false

/-- The pieces of what an attribute is given; `afterWord` says whether a word or a literal stands
before. -/
def attrPieces (afterWord : Bool) : List Token → Pieces
  | [] => []
  | .word text :: rest | .raw text :: rest | .literal text :: rest =>
    (if afterWord then blankGap else []) ++ word text ++ attrPieces true rest
  | .lifetime name :: rest => word ("'" ++ name) ++ attrPieces true rest
  | .mark char _ :: rest =>
    if char = ',' ∧ rest.isEmpty then [.gap { before := "," }]
    else
      (if afterWord ∧ char = '=' then word " " else []) ++ word (String.singleton char) ++
        (if char = '=' then word " " else if char = ',' then blankGap else []) ++
        attrPieces false rest
  | .group bracket inner :: rest =>
    (match bracket with
     | .round =>
      word "(" ++
        whole indentStep (dedent (zeroGap ++ attrPieces false inner ++
          (if endsInComma inner then [] else zeroGap))) ++
        word ")"
     | .square => word "[" ++ attrPieces false inner ++ word "]"
     | .curly => word "\x7b" ++ attrPieces false inner ++ word "\x7d") ++
      attrPieces false rest

end ProtoRest.Code
