import ProtoRest.Code.ReadPat
import ProtoRest.Code.Shape

/-! # Reading expressions
The readers of expressions. An operand is read by `readUnary`: an atom with what follows it, such as
fields and calls, behind its prefix operators. `climb` joins operands by operators, each of a level;
an operator takes the operands next to it before those of the levels below do. -/

namespace ProtoRest.Code

/-! ## Operators -/

/-- How strongly an operator binds, the weakest first. -/
inductive Level
  /-- Nothing binds. -/
  | jump
  /-- Assignments. -/
  | assign
  /-- Ranges. -/
  | range
  /-- One of two conditions. -/
  | or
  /-- Both conditions. -/
  | and
  /-- Comparisons. -/
  | compare
  /-- Any of the bits. -/
  | bitOr
  /-- One of the bits. -/
  | bitXor
  /-- Both of the bits. -/
  | bitAnd
  /-- Moved bits. -/
  | shift
  /-- Sums. -/
  | sum
  /-- Products. -/
  | product
  /-- Conversions. -/
  | cast
  deriving DecidableEq, Repr

/-- The place of a level among all of them. -/
def Level.rank (level : Level) : Nat := level.ctorIdx

/-- The operators between operands in the order in which they are tried. -/
def operators : List (String × Level) :=
  [("+=", .assign), ("-=", .assign), ("*=", .assign), ("/=", .assign), ("%=", .assign),
   ("^=", .assign), ("&=", .assign), ("|=", .assign), ("<<=", .assign), (">>=", .assign),
   ("&&", .and), ("||", .or), ("<<", .shift), (">>", .shift), ("==", .compare), ("<=", .compare),
   ("!=", .compare), (">=", .compare), ("+", .sum), ("-", .sum), ("*", .product), ("/", .product),
   ("%", .product), ("^", .bitXor), ("&", .bitAnd), ("|", .bitOr), ("<", .compare),
   (">", .compare)]

/-- The operator that comes first. -/
def Cursor.operator? (c : Cursor) : Option (String × Level) := operators.find? (c.startsWith ·.1)

/-- Whether an assignment comes first. -/
def Cursor.startsAssign (c : Cursor) : Bool := c.startsWith "=" && !c.startsWith "=>"

/-- The level of what comes first. -/
def Cursor.level (c : Cursor) : Level :=
  match c.operator? with
  | some (_, level) => level
  | none =>
    if c.startsAssign then .assign
    else if c.startsWith ".." then .range
    else if c.startsWord "as" then .cast
    else .jump

/-- Whether an expression is a range. -/
def Expr.isRange : Expr → Bool
  | .range _ _ _ => true
  | _ => false

/-- Whether an expression is a comparison. -/
def Expr.isComparison : Expr → Bool
  | .binary _ operator _ => operators.lookup operator == some .compare
  | _ => false

/-- The expression with attributes. -/
def Expr.withAttrs (attrs : List Attr) (e : Expr) : Expr :=
  if attrs.isEmpty then e else .attributed attrs e

/-- The marks that end a range without an upper bound. -/
def openRangeEnds : List String :=
  [",", ";", "?", "=>", "=", "+", "/", "%", "^", ">", "<=", "!=", "-=", "*=", "&=", "|=", "<<="]

/-- Whether a range without an upper bound ends here. -/
def Cursor.endsOpenRange (c : Cursor) (structs : Bool) : Bool :=
  c.isEmpty || c.startsDot || openRangeEnds.any c.startsWith ||
    (!structs && c.startsGroup .curly) || c.startsWord "as"

/-- Whether an expression can start here. -/
def Cursor.startsExpr (c : Cursor) : Bool :=
  c.startsAnyWord || c.startsGroup .round || c.startsGroup .square || c.startsGroup .curly ||
    c.startsLiteral || c.startsBang ||
    (c.startsWith "-" && !c.startsWith "-=" && !c.startsWith "->") ||
    (c.startsWith "*" && !c.startsWith "*=") || (c.startsWith "|" && !c.startsWith "|=") ||
    (c.startsWith "&" && !c.startsWith "&=") || c.startsWith ".." ||
    (c.startsWith "<" && !c.startsWith "<=" && !c.startsWith "<<=") || c.startsWith "::" ||
    c.startsLifetime || c.startsWith "#"

namespace Readers

open Read

/-! ## Operands and operators -/

/-- What cannot follow a conversion. -/
def afterCast? (c : Cursor) : Option String :=
  let next := c.drop 1
  if c.startsDot then
    if next.startsWord "await" then some "`.await`"
    else if next.startsIdent && ((c.drop 2).startsGroup .round || (c.drop 2).startsWith "::") then
      some "a method call"
    else some "a field access"
  else if c.startsWith "?" then some "`?`"
  else if c.startsGroup .square then some "indexing"
  else if c.startsGroup .round then some "a function call"
  else none

/-- Reads the points of a range, and tells whether its end belongs to it. -/
def rangeLimits : Read Bool := do
  if ← markIf "..=" then return true
  else if (← get).startsWith "..." then expecting ["`..`", "`..=`"]
  else
    mark ".."
    return false

mutual

/-- Reads operators not weaker than a level with their right operands, given the left one. -/
def climb (inner : Readers) (structs : Bool) (operand : Read Expr) :
    Nat → Expr → Level → Read Expr
  | 0, _, _ => expecting []
  | fuel + 1, left, base => do
    let c ← get
    if left.isRange then return left
    match c.operator? with
    | some (operator, level) =>
      if level.rank < base.rank then return left
      if level = .compare && left.isComparison then
        throw (.rule "comparison operators cannot be chained")
      skip operator.length
      let right ← rightSide inner structs operand fuel level
      climb inner structs operand fuel (.binary left operator right) base
    | none =>
      if base.rank ≤ Level.assign.rank && c.startsAssign then
        mark "="
        let right ← rightSide inner structs operand fuel .assign
        climb inner structs operand fuel (.assign left right) base
      else if base.rank ≤ Level.range.rank && c.startsWith ".." then
        let closed ← rangeLimits
        let stop ← rangeStop inner structs operand fuel closed
        climb inner structs operand fuel (.range (some left) closed stop) base
      else if c.startsWord "as" then
        skip 1
        let ty ← inner.ty false
        match afterCast? (← get) with
        | some what => throw (.rule ("casts cannot be followed by " ++ what))
        | none => climb inner structs operand fuel (.cast left ty) base
      else return left

/-- Reads the right operand of an operator of a level. -/
def rightSide (inner : Readers) (structs : Bool) (operand : Read Expr) :
    Nat → Level → Read Expr
  | 0, _ => expecting []
  | fuel + 1, level => do
    let right ← operand
    growRight inner structs operand fuel right level

/-- Reads the operators that take a right operand before an operator of a level does. -/
def growRight (inner : Readers) (structs : Bool) (operand : Read Expr) :
    Nat → Expr → Level → Read Expr
  | 0, _, _ => expecting []
  | fuel + 1, right, level => do
    let c ← get
    if c.level.rank > level.rank || (c.level = level && level = .assign) then
      let grown ← climb inner structs operand fuel right c.level
      if (← get).tokens.length = c.tokens.length then return grown
      else growRight inner structs operand fuel grown level
    else return right

/-- Reads the end of a range, if it has one. -/
def rangeStop (inner : Readers) (structs : Bool) (operand : Read Expr) :
    Nat → Bool → Read (Option Expr)
  | 0, _ => expecting []
  | fuel + 1, closed => do
    if !closed && (← get).endsOpenRange structs then return none
    else some <$> rightSide inner structs operand fuel .range

end

/-- What the operators of an expression can be read in. -/
def climbFuel : Read Nat := do return 4 * (← fuel)

variable (inner : Readers)

/-! ## Groups and structures -/

/-- Reads what is in parentheses. -/
def parenExpr : Read Expr := inside .round do
  if (← get).isEmpty then return .tuple []
  let first ← inner.expr true
  if (← get).isEmpty then return .paren first
  mark ","
  return .tuple (first :: (← list (inner.expr true)))

/-- Reads a row of values. -/
def rowExpr : Read Expr := inside .square do
  if (← get).isEmpty then return .array []
  let first ← inner.expr true
  let c ← get
  if c.isEmpty then return .array [first]
  else if ← markIf "," then return .array (first :: (← list (inner.expr true)))
  else if ← markIf ";" then return .replicate first (← inner.expr true)
  else expecting ["`,`", "`;`"]

/-- Reads the arguments of a call. -/
def callArgs : Read (List Expr) := inside .round (list (inner.expr true))

/-- Reads the fields of a structure that is built. -/
def fieldValues : Nat → Read (List FieldValue)
  | 0 => expecting []
  | fuel + 1 => do
    if (← get).isEmpty then return []
    if ← markIf ".." then
      if (← get).isEmpty then return [] else return [.rest (← inner.expr true)]
    let attrs ← inner.attrs
    let (name, isIndex) ← member
    let value ←
      if isIndex || (← get).startsWith ":" then do
        mark ":"
        some <$> inner.expr true
      else pure none
    let field := FieldValue.field attrs name value
    if (← get).isEmpty then return [field]
    mark ","
    return field :: (← fieldValues fuel)

/-- Reads an expression that starts with a path. -/
def pathExpr (structs : Bool) : Read Expr := do
  let ty ← inner.pathTy true
  let c ← get
  let name? :=
    match ty with
    | .path path => if c.startsBang then path.plain? else none
    | _ => none
  match name? with
  | some name =>
    skip 1
    let (bracket, tokens) ← delimited
    return .macroCall ⟨name, bracket, tokens, none⟩
  | none =>
    if structs && c.startsGroup .curly then
      return .struct ty (← inside .curly do inner.fieldValues (← fuel))
    else return .path ty

/-! ## Control flow -/

/-- Reads a choice by a condition. -/
def choice : Nat → Read Expr
  | 0 => expecting []
  | fuel + 1 => do
    keyword "if"
    let condition ← inner.expr false
    let yes ← inner.block
    if ← keywordIf "else" then
      let c ← get
      if c.startsWord "if" then return .ite condition yes (some (← choice fuel))
      else if c.startsGroup .curly then
        return .ite condition yes (some (.braces (← inner.block)))
      else expecting ["`if`", "curly braces"]
    else return .ite condition yes none

/-- Reads a branch of a choice by patterns. -/
def arm : Read Arm := do
  let attrs ← inner.attrs
  let pat ← inner.anyPat
  let guard ← if ← keywordIf "if" then some <$> inner.expr true else pure none
  mark "=>"
  let body ← inner.early
  let arm := Arm.make attrs pat guard body
  if (← markIf ",") || (← get).isEmpty || !body.needsComma then return arm
  else
    mark ","
    return arm

/-- Reads a loop after its label. -/
def loopExpr (label : Option String) : Read Expr := do
  if ← keywordIf "while" then
    let condition ← inner.expr false
    return .while_ label condition (← inner.body)
  else if ← keywordIf "for" then
    let pat ← inner.anyPat
    keyword "in"
    let values ← inner.expr false
    return .for_ label pat values (← inner.body)
  else if ← keywordIf "loop" then return .loop label (← inner.body)
  else if (← get).startsGroup .curly then return .block label "" (← inner.body)
  else expecting ["loop or block expression"]

/-- Reads a choice by patterns. -/
def switchExpr : Read Expr := do
  keyword "match"
  let value ← inner.expr false
  let (about, arms) ← inside .curly do
    let about ← inner.about
    return (about, ← all inner.arm (← fuel))
  return .switch value about arms

/-- Reads an input of a function without a name. -/
def closureInput : Read Pat := do
  let attrs ← inner.attrs
  let pat ← inner.pat
  let pat ← if ← markIf ":" then .typed pat <$> inner.ty true else pure pat
  return if attrs.isEmpty then pat else .attributed attrs pat

/-- Reads a function without a name. -/
def closure (structs : Bool) : Read Expr := do
  let binder ← inner.binderIf
  let words ← ["const", "static", "async", "move"].mapM introWord
  mark "|"
  let inputs ← listBefore "|" inner.closureInput
  mark "|"
  if ← markIf "->" then
    let output ← inner.ty true
    return .closure binder (String.join words) inputs (some output) (.braces (← inner.block))
  else return .closure binder (String.join words) inputs none (← inner.expr structs)

/-- Reads a value that a keyword takes along, if there is one. -/
def jumpValue (structs : Bool) : Read (Option Expr) := do
  let c ← get
  if c.startsExpr && (structs || !c.startsGroup .curly) then some <$> inner.expr true
  else return none

/-- Reads what leaves a loop or a block. -/
def breakExpr (structs : Bool) : Read Expr := do
  keyword "break"
  let c ← get
  if c.startsLifetime && (c.drop 1).startsWith ":" then
    let _ ← inner.expr true
    throw (.rule "parentheses required")
  let label ← lifetimeIf
  return .jump "break" label (← inner.jumpValue structs)

/-- Reads a pattern to be matched, as a condition. -/
def matchesExpr (structs : Bool) : Read Expr := do
  keyword "let"
  let pat ← inner.anyPat
  mark "="
  let operand := inner.unary structs
  let left ← operand
  return .matches pat (← climb inner structs operand (← climbFuel) left .compare)

/-! ## Atoms -/

/-- Whether a function without a name comes first. -/
def startsClosure (c : Cursor) : Bool :=
  let next := c.drop 1
  c.startsWith "|" || c.startsWord "move" ||
    (c.startsWord "for" && next.startsWith "<" &&
      ((c.drop 2).startsLifetime || (c.drop 2).startsWith ">")) ||
    (c.startsWord "const" && !next.startsGroup .curly) || c.startsWord "static" ||
    (c.startsWord "async" && (next.startsWith "|" || next.startsWord "move"))

/-- The words before the bracket of a block that comes first. -/
def blockIntro? (c : Cursor) : Option (List String) :=
  let next := c.drop 1
  if c.startsWord "async" && next.startsGroup .curly then some ["async"]
  else if c.startsWord "async" && next.startsWord "move" && (c.drop 2).startsGroup .curly then
    some ["async", "move"]
  else if c.startsWordOf ["try", "const"] && next.startsGroup .curly then
    some [if c.startsWord "try" then "try" else "const"]
  else if c.startsWord "unsafe" then some ["unsafe"]
  else if c.startsGroup .curly then some []
  else none

/-- Whether a path comes first. -/
def startsPath (c : Cursor) : Bool :=
  c.startsIdent || c.startsWith "::" || c.startsWith "<" ||
    c.startsWordOf ["self", "Self", "super", "crate"] ||
    (c.startsWord "try" && ((c.drop 1).startsWith "!" || (c.drop 1).startsWith "::"))

/-- Reads an expression without operators and without what may follow it. -/
def atom (structs : Bool) : Read Expr := do
  let c ← get
  if c.startsLiteral then return .literal (← literal)
  match blockIntro? c with
  | some words =>
    skip words.length
    let plain := c.startsWordOf ["async", "try"]
    return .block none (String.join (words.map (· ++ " ")))
      (← if plain then inner.block else inner.body)
  | none =>
    if startsClosure c then inner.closure structs
    else if startsBuiltin c then
      let _ ← builtinTy
      return .unprintable
    else if startsPath c then inner.pathExpr structs
    else if c.startsGroup .round then inner.parenExpr
    else if c.startsWord "break" then inner.breakExpr structs
    else if ← keywordIf "continue" then return .jump "continue" (← lifetimeIf) none
    else if ← keywordIf "return" then return .jump "return" none (← inner.jumpValue true)
    else if ← keywordIf "become" then
      let _ ← inner.expr true
      return .unprintable
    else if c.startsGroup .square then inner.rowExpr
    else if c.startsWord "let" then inner.matchesExpr structs
    else if c.startsWord "if" then inner.choice (← fuel)
    else if c.startsWordOf ["while", "for", "loop"] then inner.loopExpr none
    else if c.startsWord "match" then inner.switchExpr
    else if ← keywordIf "yield" then return .jump "yield" none (← inner.jumpValue true)
    else if c.startsWith ".." then
      let closed ← rangeLimits
      return .range none closed
        (← rangeStop inner structs (inner.unary structs) (← climbFuel) closed)
    else if ← keywordIf "_" then return .infer
    else if c.startsLifetime then
      let label ← lifetime
      mark ":"
      inner.loopExpr (some label)
    else expecting ["an expression"]

/-! ## What follows an atom -/

/-- The fields that a number with points in it names. -/
def fieldParts (text : String) : Read (List String) :=
  ((text.splitOn ".").filter (· ≠ "")).mapM fun part =>
    if isInteger part then indexName part else throw (.rule "expected integer literal")

/-- Reads a field, a call of a method or the like after its point. -/
def afterDot (base : Expr) : Read Expr := do
  if ← keywordIf "await" then return .await base
  let (name, isIndex) ← member
  let c ← get
  let turbo := !isIndex && c.startsWith "::"
  let types ← if turbo then do
      mark "::"
      inner.angleArgs
    else pure []
  if turbo || (!isIndex && c.startsGroup .round) then
    return .method base name types (← inner.callArgs)
  else return .field base name

/-- Reads fields, calls, elements and passed failures after an expression. -/
def trailers : Nat → Expr → Read Expr
  | 0, _ => expecting []
  | fuel + 1, e => do
    let c ← get
    if c.startsGroup .round then trailers fuel (.call e (← inner.callArgs))
    else if c.startsDot && !e.isRange then
      mark "."
      match (← get).tokens with
      | .literal text :: _ =>
        if isNumber text && !isInteger text then
          skip 1
          let e := (← fieldParts text).foldl .field e
          if text.endsWith "." then trailers fuel (← inner.afterDot e) else trailers fuel e
        else trailers fuel (← inner.afterDot e)
      | _ => trailers fuel (← inner.afterDot e)
    else if c.startsGroup .square then
      let position ← inside .square (inner.expr true)
      trailers fuel (.index e position)
    else if c.startsWith "?" && !e.isRange then
      mark "?"
      trailers fuel (.try_ e)
    else return e

/-- Reads an expression without operators between operands. -/
def readUnary (structs : Bool) : Read Expr := do
  let attrs ← inner.attrs
  let c ← get
  if ← markIf "&" then
    let c ← get
    let raw := c.startsWord "raw" && (c.drop 1).startsWordOf ["mut", "const"]
    if raw then skip 1
    let mutable ← keywordIf "mut"
    if raw && !mutable then keyword "const"
    let operator :=
      "&" ++ (if raw then "raw " else "") ++
        (if mutable then "mut " else if raw then "const " else "")
    return .withAttrs attrs (.unary operator (← inner.unary structs))
  else
    match ["*", "!", "-"].find? c.startsWith with
    | some operator =>
      skip 1
      return .withAttrs attrs (.unary operator (← inner.unary structs))
    | none =>
      let atom ← inner.atom structs
      let e ← inner.trailers (← fuel) atom
      if !attrs.isEmpty && e.isRange then
        throw (.rule "attributes are not allowed on range expressions starting with `..`")
      else return .withAttrs attrs e

/-- Reads an expression; `structs` says whether a structure may come in it. -/
def readExpr (structs : Bool) : Read Expr := do
  let operand := inner.readUnary structs
  let left ← operand
  climb inner structs operand (← climbFuel) left .jump

end Readers

end ProtoRest.Code
