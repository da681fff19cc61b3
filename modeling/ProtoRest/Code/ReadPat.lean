import ProtoRest.Code.ReadTy

/-! # Reading patterns
The readers of patterns. A pattern that is not one of several is read by `readPat`; `anyPat` reads
alternatives. -/

namespace ProtoRest.Code.Readers

open Read

variable (inner : Readers)

/-! ## Alternatives and members -/

/-- Reads further alternatives, each after a bar. -/
def morePats : Nat → Read (List Pat)
  | 0 => expecting []
  | fuel + 1 => do
    let c ← get
    if c.startsWith "|" && !c.startsWith "||" && !c.startsWith "|=" then
      mark "|"
      let pat ← inner.pat
      return pat :: (← morePats fuel)
    else return []

/-- Reads a pattern that may be one of several, with a bar before the first or not. -/
def anyPat : Read Pat := do
  let leading ← markIf "|"
  let first ← inner.pat
  let more ← inner.morePats (← fuel)
  return if leading || !more.isEmpty then .either (first :: more) else first

/-- The name of a field that a number is. -/
def indexName (text : String) : Read String :=
  let (value, suffix) := integerParts text
  if suffix ≠ "" then throw (.rule "expected unsuffixed integer")
  else if value < 0x100000000 then return toString value
  else throw (.rule "number too large to fit in target type")

/-- Reads the name of a field, and tells whether it is a number. -/
def member : Read (String × Bool) := do
  let c ← get
  if c.startsIdent then return (← ident, false)
  else
    match c.tokens with
    | .literal text :: _ =>
      if isInteger text then
        skip 1
        return (← indexName text, true)
      else expecting ["identifier or integer"]
    | _ => expecting ["identifier or integer"]

/-! ## Ranges -/

/-- What the bound of a range in a pattern can start with. -/
def rangeBoundStarts : List String :=
  ["literal", "identifier", "`::`", "`<`", "`self`", "`Self`", "`super`", "`crate`", "`const`"]

/-- Reads the bound of a range in a pattern, if there is one. -/
def rangeBound : Read (Option Expr) := do
  let c ← get
  if c.isEmpty || c.startsWith "|" || c.startsWith "=" ||
      (c.startsWith ":" && !c.startsWith "::") || c.startsWith "," || c.startsWith ";" ||
      c.startsWord "if" then
    return none
  else if c.startsLiteral then return some (.literal (← literal))
  else if c.startsIdent || c.startsWith "::" || c.startsWith "<" ||
      c.startsWordOf ["self", "Self", "super", "crate"] then
    return some (.path (← inner.pathTy true))
  else if ← keywordIf "const" then return some (.block none "const " (← inner.body))
  else expecting rangeBoundStarts

/-- Reads the points of a range in a pattern, and tells whether its end belongs to it. -/
def rangePoints : Read Bool := do
  if ← markIf "..=" then return true
  else if ← markIf "..." then return true
  else if ← markIf ".." then return false
  else expecting ["`..`", "`..=`"]

/-- Reads a range in a pattern after its first bound. -/
def rangePat (start : Expr) : Read Pat := do
  let closed ← rangePoints
  let stop ← inner.rangeBound
  if closed && stop.isNone then expecting ["range upper bound"]
  else return .range (some start) closed stop

/-- The pattern that the bound of a range is when it stands alone. -/
def boundPat : Expr → Pat
  | .literal text => .literal text
  | .path ty => .path ty
  | .block _ _ body => .const body
  | _ => .unprintable

/-- Reads a pattern that starts with a literal or a constant. -/
def literalPat : Read Pat := do
  match ← inner.rangeBound with
  | none => expecting rangeBoundStarts
  | some start => if (← get).startsWith ".." then inner.rangePat start else return boundPat start

/-- Reads a pattern that starts with two points. -/
def restPat : Read Pat := do
  let closed ← if ← markIf "..=" then pure true else do
    mark ".."
    pure false
  match ← inner.rangeBound with
  | some stop => return .range none closed (some stop)
  | none => if closed then expecting ["range upper bound"] else return .rest

/-! ## Structures -/

/-- Reads a field in a pattern after its attributes. -/
def fieldPat (attrs : List Attr) : Read FieldPat := do
  let boxed ← keywordIf "box"
  let byRef ← keywordIf "ref"
  let mutable ← keywordIf "mut"
  let bound := boxed || byRef || mutable
  let (name, isIndex) ← if bound then (·, false) <$> ident else member
  if isIndex || (!bound && (← get).startsWith ":") then
    mark ":"
    return .field attrs (some name) (← inner.anyPat)
  else
    return .field attrs none (if boxed then .unprintable else .name byRef mutable name none)

/-- Reads the fields in a pattern. -/
def fieldPats : Nat → Read (List FieldPat)
  | 0 => expecting []
  | fuel + 1 => do
    if (← get).isEmpty then return []
    let attrs ← inner.attrs
    if ← markIf ".." then return [.rest attrs]
    let field ← inner.fieldPat attrs
    if (← get).isEmpty then return [field]
    mark ","
    return field :: (← fieldPats fuel)

/-- Reads a pattern that starts with a path. -/
def pathPat : Read Pat := do
  let ty ← inner.pathTy true
  let c ← get
  let name? :=
    match ty with
    | .path path => if c.startsBang then path.plain? else none
    | _ => none
  match name? with
  | some name =>
    skip 1
    let (bracket, tokens) ← delimited
    return .macroCall ⟨name, bracket, tokens, none⟩
  | none =>
    if c.startsGroup .curly then
      return .struct ty (← inside .curly do inner.fieldPats (← fuel))
    else if c.startsGroup .round then return .tupleStruct ty (← inside .round (list inner.anyPat))
    else if c.startsWith ".." then inner.rangePat (.path ty)
    else return .path ty

/-! ## Groups -/

/-- Reads patterns in parentheses, and tells whether there is a comma after the last. -/
def tuplePats : Nat → Read (List Pat × Bool)
  | 0 => expecting []
  | fuel + 1 => do
    if (← get).isEmpty then return ([], true)
    let pat ← inner.anyPat
    if (← get).isEmpty then return ([pat], false)
    mark ","
    let (pats, comma) ← tuplePats fuel
    return (pat :: pats, comma)

/-- Reads a pattern that starts with parentheses. -/
def tuplePat : Read Pat := do
  let (pats, comma) ← inside .round do inner.tuplePats (← fuel)
  match pats, comma with
  | [.rest], false => return .tuple [.rest] false
  | [pat], false => return .paren pat
  | pats, comma => return .tuple pats comma

/-- Reads an element of a row in a pattern; an open range has to be in parentheses. -/
def slicePat : Read Pat := do
  let pat ← inner.anyPat
  match pat with
  | .range start _ stop =>
    if start.isNone || stop.isNone then
      throw (.rule "range pattern is not allowed unparenthesized inside slice pattern")
    else return pat
  | _ => return pat

/-- Reads a name, and a pattern for the same value. -/
def namePat : Read Pat := do
  let byRef ← keywordIf "ref"
  let mutable ← keywordIf "mut"
  let name ← if (← get).startsWord "self" then anyWord else ident
  let sub ← if ← markIf "@" then some <$> inner.pat else pure none
  return .name byRef mutable name sub

/-! ## Patterns -/

/-- What a pattern can start with. -/
def patStarts : List String :=
  ["identifier", "`::`", "`<`", "`_`", "literal", "`const`", "`ref`", "`mut`", "`&`",
   "parentheses", "square brackets", "`..`", "`const`"]

/-- Whether a name is the start of a path in a pattern, given what follows it. -/
def continuesPath (c : Cursor) : Bool :=
  c.startsWith "::" || c.startsWith "!" || c.startsGroup .curly || c.startsGroup .round ||
    c.startsWith ".."

/-- Reads a pattern that is not one of several. -/
def readPat : Read Pat := do
  let c ← get
  if (c.startsIdent && continuesPath (c.drop 1)) ||
      (c.startsWord "self" && (c.drop 1).startsWith "::") || c.startsWith "::" ||
      c.startsWith "<" || c.startsWordOf ["Self", "super", "crate"] then inner.pathPat
  else if ← keywordIf "_" then return .wild
  else if ← keywordIf "box" then
    let _ ← inner.pat
    return .unprintable
  else if c.startsWith "-" || c.startsLiteral || c.startsWord "const" then inner.literalPat
  else if c.startsIdent || c.startsWordOf ["ref", "mut", "self"] then inner.namePat
  else if ← markIf "&" then
    let mutable ← keywordIf "mut"
    return .reference mutable (← inner.pat)
  else if c.startsGroup .round then inner.tuplePat
  else if c.startsGroup .square then return .slice (← inside .square (list inner.slicePat))
  else if c.startsWith ".." && !c.startsWith "..." then inner.restPat
  else expecting patStarts

end ProtoRest.Code.Readers
