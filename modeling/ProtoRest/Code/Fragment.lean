import ProtoRest.Code.Comment
import ProtoRest.Code.Shape
import ProtoRest.Code.TokenLayout

/-! # Fragments of layouts
The layouts that several constructs of the syntax share: lists in brackets, bodies between curly
brackets, the links of a chain, requirements, and what a macro is given. -/

namespace ProtoRest.Code

open ProtoRest.Text

/-! ## Words -/

/-- Code that has no layout. -/
def forbiddenPiece : Pieces := [.forbidden]

/-- The pieces of a literal; the placeholder for a token that could not be told has no layout. -/
def literalPieces (text : String) : Pieces := if text = placeholder then forbiddenPiece else word text

/-- The text of a lifetime. -/
def lifetimeText (name : String) : String := "'" ++ name

/-- A label with its colon. -/
def labelPieces : Option String → Pieces
  | none => []
  | some name => word (lifetimeText name ++ ": ")

/-- A condition with the gap after it. -/
def conditionGroup (condition : Expr) (pieces : Pieces) : Pieces :=
  whole 0 (pieces ++ (if condition.wrapsBrace then blankGap else word " "))

/-- A statement on lines of its own. -/
def stmtLine (pieces : Pieces) : Pieces := flow 0 pieces ++ hardGap

/-- Statements between curly brackets that are never on one line. -/
def bodyPieces (stmts : Pieces) : Pieces :=
  word "\x7b" ++ stayGap ++ whole indentStep (dedent (hardGap ++ stmts)) ++ word "\x7d"

/-- Statements between curly brackets, on one line when they fit. -/
def blockPieces (isEmpty : Bool) (stmts : Pieces) : Pieces :=
  if isEmpty then word "\x7b\x7d" else word "\x7b" ++ dedent (blankGap ++ stmts) ++ word "\x7d"

/-- Elements in parentheses; a single one has the given end, which may be a comma. -/
def tuplePieces (single : String) : List Pieces → Pieces
  | [elem] =>
    word "(" ++ whole indentStep (dedent (zeroGap ++ elem ++ word single ++ zeroGap)) ++ word ")"
  | elems => word "(" ++ bracketed indentStep elems ++ word ")"

/-- The fields of a structure with the gaps between them; a rest has no comma after it. -/
def fieldList : List (Bool × Pieces) → Pieces
  | [] => []
  | [(isRest, p)] => p ++ (if isRest then blankGap else [.gap { blanks := 1, before := "," }])
  | (_, p) :: q :: ps => p ++ word "," ++ blankGap ++ fieldList (q :: ps)

/-- Inputs with the gaps between them; a rest has no comma after it. -/
def inputList : List (Bool × Pieces) → Pieces
  | [] => []
  | [(isRest, p)] => p ++ (if isRest then zeroGap else commaAfter true)
  | (_, p) :: q :: ps => p ++ commaAfter false ++ inputList (q :: ps)

/-- The fields of a structure in curly brackets after what stands before them. -/
def structPieces (limit : Option Nat) (intro : Pieces) (fields : List (Bool × Pieces)) : Pieces :=
  let empty := intro ++ word " \x7b" ++ [.mark]
  let open_ := intro ++ word " \x7b" ++ dedent (blankGap ++ fieldList fields)
  (match limit with
   | none => whole indentStep (if fields.isEmpty then empty else open_)
   | some limit =>
     if fields.isEmpty ∧ widthOf open_ ≤ limit then whole indentStep empty
     else wholeWithin limit indentStep open_) ++
    word "\x7d"

/-- Alternatives with a bar before each but the first. -/
def alternatives : List Pieces → Pieces
  | [] => []
  | [p] => p
  | p :: q :: ps => p ++ blankGap ++ word "| " ++ alternatives (q :: ps)

/-- Whether a pattern is a literal or matches anything. -/
def Pat.isPlain : Pat → Bool
  | .literal _ | .wild => true
  | _ => false

/-- Arguments in the order of printing: the lifetimes come first. -/
def lifetimesFirst (args : List (Bool × Pieces)) : List Pieces :=
  ((args.filter (·.1)) ++ (args.filter (!·.1))).map (·.2)

/-- Arguments in angle brackets; in an expression they stand after a double colon. -/
def anglePieces (inExpr : Bool) (args : List (Bool × Pieces)) : Pieces :=
  if args.isEmpty then []
  else
    (if inExpr then word "::" else []) ++ word "<" ++
      bracketed indentStep (lifetimesFirst args) ++ word ">"

/-- The inputs of a function without a name; `comma` says whether the last one has a comma after it
when they do not fit. -/
def closureInputs (comma : Bool) : List Pieces → Pieces
  | [] => []
  | inputs => zeroGap ++ go inputs
where
  /-- The inputs with a comma after each but the last. -/
  go : List Pieces → Pieces
    | [] => []
    | [p] => p ++ (if comma then commaAfter true else [])
    | p :: q :: ps => p ++ word "," ++ blankGap ++ go (q :: ps)

/-- Where an expression stands. -/
structure Place where
  /-- Whether it is followed by a dot, a call or the like, so that a group around it is open. -/
  inChain : Bool := false
  /-- Whether it starts a line. -/
  atStart : Bool := false
  deriving DecidableEq, Repr

/-- The gap before a dot. -/
def Place.dotGap (place : Place) (base : Expr) : Pieces :=
  if place.atStart && base.isShortName then [] else zeroGap

/-- A link of a chain; the first one opens the group. -/
def Place.link (place : Place) (pieces : Pieces) : Pieces :=
  if place.inChain then pieces else whole indentStep pieces

/-- The start of a chain. -/
def Place.leaf (place : Place) (pieces : Pieces) : Pieces :=
  if place.inChain then whole (-indentStep) pieces else pieces

/-- The arguments of a call: a single one with brackets of its own stays on the line. -/
def callPieces (args : List Expr) (pieces : List Pieces) : Pieces :=
  word "(" ++
    (match args, pieces with
     | [arg], [p] => if arg.isBlocklike then p else bracketed indentStep [p]
     | _, ps => bracketed indentStep ps) ++
    word ")"

/-- The elements of a row: values of a fixed width fill the lines. -/
def arrayPieces (plain : Bool) : List Pieces → Pieces
  | [] => word "[]"
  | elems =>
    if plain then
      whole indentStep (word "[" ++
        dedent (zeroGap ++ flow 0 (fill elems) ++ commaAfter true) ++ word "]")
    else word "[" ++ bracketed indentStep elems ++ word "]"
where
  /-- The elements with a comma and a blank between two neighbours. -/
  fill : List Pieces → Pieces
    | [] => []
    | [p] => p
    | p :: q :: ps => p ++ word "," ++ blankGap ++ fill (q :: ps)

/-- What is chosen in a branch, which gets brackets when it does not fit. -/
def branchPieces (value : Expr) (pieces : Pieces) : Pieces :=
  let braced := value.startsStatement
  stayGap ++ whole indentStep
    ([.gap { before := if braced then "\x7b" else "(" }] ++ pieces ++
      [.gap
        { offset := -indentStep
          before := if braced && value.addsSemicolon then ";" else ""
          after := if braced then "\x7d" else "),"
          inline := if value.needsComma then "," else "" }])

/-- The body of a function without a name, which may get brackets when it does not fit. -/
def closureBody (body : Expr) (pieces : Pieces) : Pieces :=
  if body.wrapsInBraces then
    let braced := body.startsStatement
    whole indentStep
      ([.gap { before := if braced then "\x7b" else "(" }] ++ pieces ++
        [.gap
          { offset := -indentStep
            before := if braced && body.addsSemicolon then ";" else ""
            after := if braced then "\x7d" else ")" }])
  else pieces

/-! ## Items -/

/-- What an attribute starts with. -/
def attrOpening (inside : Bool) : String := if inside then "#![" else "#["

/-- What is introduced for a type or a bound. -/
def binderPieces (params : List (Bool × Pieces)) : Pieces :=
  word "for<" ++ (word ", ").intercalate (params.map (·.2)) ++ word "> "

/-- What is introduced for an item. -/
def genericsPieces (params : List (Bool × Pieces)) : Pieces :=
  if params.isEmpty then [] else word "<" ++ bracketed 0 (lifetimesFirst params) ++ word ">"

/-- Lifetimes after a colon. -/
def lifetimeBounds : List String → Pieces
  | [] => []
  | name :: names =>
    word (" " ++ lifetimeText name) ++
      names.flatMap fun name => blankGap ++ word ("+ " ++ lifetimeText name)

/-- Fields in parentheses. -/
def tupleFields (fields : List Pieces) : Pieces :=
  word "(" ++ dedent (zeroGap ++ commaList fields) ++ word ")"

/-- Fields in curly brackets, in one line when they fit. -/
def namedFields (fields : List Pieces) : Pieces :=
  word " \x7b" ++ whole indentStep (dedent (blankGap ++ fieldList (fields.map (false, ·)))) ++
    word "\x7d"

/-- What is imported. -/
def UseTree.pieces : UseTree → Pieces
  | .under text tree => word (text ++ "::") ++ tree.pieces
  | .name text => word text
  | .rename text other => word (text ++ " as " ++ other)
  | .everything => word "*"
  | .group trees =>
    word "\x7b" ++
      whole indentStep (dedent (zeroGap ++ flow 0 (listPieces trees) ++ commaAfter true)) ++
      word "\x7d"
where
  /-- Several imports; a line ends after one that ends in several. -/
  listPieces : List UseTree → Pieces
    | [] => []
    | [tree] => tree.pieces
    | tree :: next :: trees =>
      tree.pieces ++ word "," ++ (if tree.endsInGroup then hardGap else blankGap) ++
        listPieces (next :: trees)

/-! ## Requirements -/

/-- Requirements, each with a comma and a gap after it; at the end of an item, a semicolon follows the
last one. -/
def requirementList (atEnd : Bool) (gap : Pieces) : List Pieces → Pieces
  | [] => []
  | [p] => p ++ (if atEnd then word ";" else word "," ++ gap)
  | p :: q :: ps => p ++ word "," ++ gap ++ requirementList atEnd gap (q :: ps)

/-- The requirements of an item; `atEnd` says that they end it, and `gap` is where lines end. -/
def requirementClause (atEnd : Bool) (gap : Pieces) : List Pieces → Pieces
  | [] => word (if atEnd then ";" else " ")
  | ps =>
    let clause := gap ++ requirementList atEnd gap ps
    dedent gap ++ word "where" ++ (if atEnd then clause else dedent clause)

/-! ## Macros -/

/-- The pieces of the call of a macro; rules for a new macro stand on lines of their own. -/
def MacroCall.pieces (call : MacroCall) : Pieces :=
  match call.defined, call.path == ⟨false, ["macro_rules"]⟩ with
  | some name, true =>
    word ("macro_rules! " ++ name ++ " \x7b") ++
      whole indentStep (dedent (hardGap ++ rulesPieces .start call.tokens)) ++ word "\x7d"
  | name, _ =>
    let curly := call.bracket = .curly
    word (call.path.text ++ "!" ++ name.elim "" (" " ++ ·)) ++
      word ((if curly then " " else "") ++ String.singleton call.bracket.opening) ++
      tokensInside false (if curly then hardGap else zeroGap) call.tokens ++
      word (String.singleton call.bracket.closing)

/-- The pieces of the call of a macro that is a statement or an item of its own. -/
def MacroCall.itemPieces (call : MacroCall) : Pieces :=
  let rules := call.defined.isSome && call.path == ⟨false, ["macro_rules"]⟩
  call.pieces ++ (if rules || call.bracket = .curly then [] else word ";") ++ hardGap

/-- A comment that an attribute other than the documentation stands for. -/
def commentOf? (path : PlainPath) (value : Expr) : Option Pieces :=
  match value with
  | .literal text =>
    if path = ⟨false, ["comment"]⟩ then (textValue? text).bind CommentStyle.plain.pieces? else none
  | _ => none

end ProtoRest.Code
