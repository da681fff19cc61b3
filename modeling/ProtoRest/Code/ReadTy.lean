import ProtoRest.Code.Cursor
import ProtoRest.Code.Syntax

/-! # Reading types
The readers of attributes, paths, bounds and types. A reader of a construct is given the readers of
the constructs inside it, so none of them calls itself: `Readers` collects them, and every part is
read after a token of the whole was taken, which is what bounds the depth. -/

namespace ProtoRest.Code

/-- The readers of what stands inside a construct. -/
structure Readers where
  /-- Reads a type; bounds may be joined after it or not. -/
  ty : Bool → Read Ty
  /-- Reads a bound; it may tell what a type depends on or not, and be for constants or not. -/
  bound : Bool → Bool → Read Bound
  /-- Reads a pattern that is not one of several. -/
  pat : Read Pat
  /-- Reads an expression; a structure may come in it or not. -/
  expr : Bool → Read Expr
  /-- Reads an expression without operators between operands. -/
  unary : Bool → Read Expr
  /-- Reads an expression where a statement can end: a block ends it. -/
  early : Read Expr
  /-- Reads statements up to the end of a group. -/
  stmts : Read (List Stmt)
  /-- Reads an item. -/
  item : Read Item

/-- The readers that read nothing. -/
def Readers.exhausted : Readers where
  ty _ := Read.expecting []
  bound _ _ := Read.expecting []
  pat := Read.expecting []
  expr _ := Read.expecting []
  unary _ := Read.expecting []
  early := Read.expecting []
  stmts := Read.expecting []
  item := Read.expecting []

namespace Readers

open Read

/-! ## Plain paths and attributes -/

/-- Reads names with double colons between them; `first` says that one has to come. -/
def plainNames (first : Bool) : Nat → Read (List String)
  | 0 => expecting []
  | fuel + 1 => do
    let c ← get
    if c.startsIdent || c.startsWordOf ["super", "self", "Self", "crate"] then
      let name ← anyWord
      if ← markIf "::" then return name :: (← plainNames false fuel) else return [name]
    else if first then return [← ident]
    else expecting ["path segment after `::`"]

/-- Reads a path without arguments. -/
def plainPath : Read PlainPath := do
  let rooted ← markIf "::"
  return ⟨rooted, ← plainNames true (← fuel)⟩

variable (inner : Readers)

/-- Reads the value of an attribute. -/
def attrValue : Read Expr := do
  let c ← get
  match c.literal? with
  | some (text, size) =>
    if (c.drop size).isEmpty then
      skip size
      return .literal text
    else inner.expr true
  | none =>
    if c.startsWith "#" && (c.drop 1).startsGroup .square then
      throw (.rule "unexpected attribute inside of attribute")
    else inner.expr true

/-- An attribute with a value, which is a text for the documentation under its name. -/
def attrOfValue (path : PlainPath) (value : Expr) : Attr :=
  match value with
  | .literal text =>
    if path = ⟨false, ["doc"]⟩ then (textValue? text).elim (.value path value) .doc
    else .value path value
  | _ => .value path value

/-- Reads what is in the brackets of an attribute. -/
def attrContent : Read Attr := do
  let path ← if ← keywordIf "unsafe" then pure ⟨false, ["unsafe"]⟩ else plainPath
  let c ← get
  if c.startsGroup .round || c.startsGroup .square || c.startsGroup .curly then
    let (bracket, tokens) ← delimited
    return .list path bracket tokens
  else if ← markIf "=" then return attrOfValue path (← inner.attrValue)
  else return .name path

/-- Reads attributes. -/
def attrsUpTo : Nat → Read (List Attr)
  | 0 => expecting []
  | fuel + 1 => do
    if ← markIf "#" then
      let attr ← inside .square inner.attrContent
      return attr :: (← attrsUpTo fuel)
    else return []

/-- Reads the attributes before a construct. -/
def attrs : Read (List Attr) := do inner.attrsUpTo (← fuel)

/-- Reads attributes that stand inside of what they are about. -/
def aboutUpTo : Nat → Read (List Attr)
  | 0 => expecting []
  | fuel + 1 => do
    let c ← get
    if c.startsWith "#" && (c.drop 1).startsWith "!" then
      skip 2
      let attr ← inside .square inner.attrContent
      return attr :: (← aboutUpTo fuel)
    else return []

/-- Reads the attributes at the start of the inside of a construct. -/
def about : Read (List Attr) := do inner.aboutUpTo (← fuel)

/-! ## Lifetimes -/

/-- Reads the lifetimes that another one outlives, up to an end. -/
def outlived (stops : Cursor → Bool) : Read (List String) := do
  linked "+" stops lifetime (← fuel)

/-- Reads a lifetime that is introduced, after its attributes. -/
def lifetimeParam (attrs : List Attr) : Read GenericParam := do
  let name ← lifetime
  let bounds ←
    if ← markIf ":" then outlived fun c => c.isEmpty || c.startsWith "," || c.startsWith ">"
    else pure []
  return .lifetime attrs name bounds

/-- Reads the lifetimes that are introduced for a construct. -/
def binder : Read (List GenericParam) := do
  keyword "for"
  mark "<"
  let params ← listBefore ">" do lifetimeParam (← inner.attrs)
  mark ">"
  return params

/-- Reads the lifetimes that are introduced for a construct, if there are any. -/
def binderIf : Read (Option (List GenericParam)) := do
  if (← get).startsWord "for" then return some (← inner.binder) else return none

/-! ## Arguments and paths -/

/-- Reads statements in curly brackets. -/
def block : Read (List Stmt) := inside .curly inner.stmts

/-- Reads statements in curly brackets, after the attributes of what they are the body of. -/
def body : Read (List Stmt) := inside .curly do
  let about ← inner.about
  return about.map .about ++ (← inner.stmts)

/-- Whether a constant argument comes first. -/
def startsConst (c : Cursor) : Bool :=
  c.startsLiteral || c.startsGroup .curly

/-- Reads a constant argument: a literal or a block. -/
def constArg : Read Expr := do
  if (← get).startsLiteral then return .literal (← literal) else return .braces (← inner.body)

/-- The segment of a type that is a single name. -/
def singleSegment? : Ty → Option Segment
  | .path (.mk false [.plain name]) => some (.plain name)
  | .path (.mk false [.angle name args]) => some (.angle name args)
  | _ => none

/-- Reads bounds with plus signs between them, up to an end. -/
def boundsUpTo (stops : Cursor → Bool) : Read (List Bound) := do
  linked "+" stops (inner.bound false true) (← fuel)

/-- Reads an argument in angle brackets. -/
def arg : Read Arg := do
  let c ← get
  if c.startsLifetime && !(c.drop 1).startsWith "+" then return .lifetime (← lifetime)
  else if startsConst c then return .const (← inner.constArg)
  else
    let ty ← inner.ty true
    match singleSegment? ty with
    | none => return .type ty
    | some segment =>
      if ← markIf "=" then
        if startsConst (← get) then return .assocConst segment (← inner.constArg)
        else return .assoc segment (← inner.ty true)
      else if ← markIf ":" then
        let bounds ← inner.boundsUpTo fun c => c.startsWith "," || c.startsWith ">"
        return .constraint segment bounds
      else return .type ty

/-- Reads arguments in angle brackets. -/
def angleArgs : Read (List Arg) := do
  mark "<"
  let args ← listBefore ">" inner.arg
  mark ">"
  return args

/-- Reads a segment of a path; in an expression, arguments stand after a double colon only. -/
def segment (inExpr : Bool) : Read Segment := do
  if (← get).startsWordOf ["super", "self", "crate", "try"] then return .plain (← anyWord)
  let name ← if (← get).startsWord "Self" then anyWord else ident
  let c ← get
  let angle := !inExpr && c.startsWith "<" && !c.startsWith "<=" && !c.startsWith "<<="
  let turbo := c.startsWith "::" && (c.drop 2).startsWith "<"
  if angle || turbo then
    let _ ← markIf "::"
    return .angle name (← inner.angleArgs)
  else return .plain name

/-- Reads segments; `goesOn` says whether colons belong to the path. -/
def segments (goesOn : Cursor → Bool) (inExpr : Bool) : Nat → Read (List Segment)
  | 0 => expecting []
  | fuel + 1 => do
    let first ← inner.segment inExpr
    let c ← get
    if c.startsWith "::" && goesOn (c.drop 2) then
      mark "::"
      return first :: (← segments goesOn inExpr fuel)
    else return [first]

/-- Reads a path. -/
def path (inExpr : Bool) : Read Path := do
  let rooted ← markIf "::"
  return .mk rooted (← inner.segments (!·.startsGroup .round) inExpr (← fuel))

/-- Reads a path, which can start with a type in angle brackets. -/
def pathTy (inExpr : Bool) : Read Ty := do
  if ← markIf "<" then
    let self ← inner.ty true
    let as_ ← if ← keywordIf "as" then some <$> inner.path false else pure none
    mark ">"
    mark "::"
    return .qualified self as_ (← inner.segments (fun _ => true) inExpr (← fuel))
  else return .path (← inner.path inExpr)

/-! ## Bounds -/

/-- Reads the type after an arrow, if there is one. -/
def output : Read (Option Ty) := do
  if ← markIf "->" then return some (← inner.ty false) else return none

/-- The last name of segments when it has no arguments, with the segments before it. -/
def openName? (segments : List Segment) : Option (List Segment × String) :=
  match segments.getLast? with
  | some (.plain name) | some (.angle name []) => some (segments.dropLast, name)
  | _ => none

/-- Reads the path of a trait, whose last name can have arguments in parentheses. -/
def traitPath : Read Path := do
  let path ← inner.path false
  let c ← get
  match openName? path.segments with
  | none => return path
  | some (before, name) =>
    if c.startsGroup .round || (c.startsWith "::" && (c.drop 2).startsGroup .round) then
      let _ ← markIf "::"
      let inputs ← inside .round (list (inner.ty true))
      return .mk path.rooted (before ++ [.call name inputs (← inner.output)])
    else return path

/-- Reads whether a bound is for constants. -/
def constness (allowed : Bool) : Read Bool := do
  let c ← get
  if c.startsGroup .square then
    inside .square (keyword "const")
    if allowed then return true else throw (.rule "`[const]` is not allowed here")
  else if ← keywordIf "const" then
    if allowed then return true else throw (.rule "`const` is not allowed here")
  else return false

/-- Reads a bound by a trait. -/
def traitBound (paren constAllowed : Bool) : Read Bound := do
  let early ← inner.binderIf
  let isConst ← constness constAllowed
  let maybe ← markIf "?"
  let binder ← if maybe && early.isNone then inner.binderIf else pure early
  let path ← inner.traitPath
  if binder.isSome && maybe then
    throw (.rule "`for<...>` binder not allowed with `?` trait polarity modifier")
  if isConst then return .unprintable else return .trait paren maybe binder path

/-- Reads the names that a type depends on. -/
def captured : Nat → Read (List String)
  | 0 => expecting []
  | fuel + 1 => do
    let c ← get
    let name ←
      if c.startsLifetime then ("'" ++ ·) <$> lifetime
      else if c.startsIdent || c.startsWord "Self" then anyWord
      else if c.startsWith ">" then return []
      else expecting ["lifetime", "identifier", "`>`"]
    let c ← get
    if c.startsWith "," then
      mark ","
      return name :: (← captured fuel)
    else if c.startsWith ">" then return [name]
    else expecting ["`,`", "`>`"]

/-- Reads what a type depends on. -/
def capture : Read Bound := do
  keyword "use"
  mark "<"
  let names ← captured (← fuel)
  mark ">"
  return .capture names

/-- Reads a bound. -/
def readBound (captureAllowed constAllowed : Bool) : Read Bound := do
  let c ← get
  if c.startsLifetime then return .lifetime (← lifetime)
  else if c.startsWord "use" then
    let bound ← capture
    if captureAllowed then return bound
    else throw (.rule "`use<...>` precise capturing syntax is not allowed here")
  else if c.startsGroup .round then inside .round (inner.traitBound true constAllowed)
  else inner.traitBound false constAllowed

/-- Whether a bound follows a plus sign. -/
def boundFollows (constAllowed : Bool) (c : Cursor) : Bool :=
  c.startsAnyWord || c.startsWith "::" || c.startsWith "?" || c.startsLifetime ||
    c.startsGroup .round || (constAllowed && c.startsGroup .square)

/-- Reads further bounds, each after a plus sign, and tells whether a last plus sign stands alone. -/
def moreBounds (captureAllowed constAllowed : Bool) : Nat → Read (List Bound × Bool)
  | 0 => expecting []
  | fuel + 1 => do
    if ← markIf "+" then
      if boundFollows constAllowed (← get) then
        let bound ← inner.readBound captureAllowed constAllowed
        let (bounds, open_) ← moreBounds captureAllowed constAllowed fuel
        return (bound :: bounds, open_)
      else return ([], true)
    else return ([], false)

/-- Reads further bounds, one after each plus sign. -/
def everyBound : Nat → Read (List Bound)
  | 0 => expecting []
  | fuel + 1 => do
    if ← markIf "+" then
      let bound ← inner.readBound false false
      return bound :: (← everyBound fuel)
    else return []

/-- Reads bounds, and tells whether a plus sign comes after the last; `plus` says whether there can
be several. -/
def bounds (plus captureAllowed constAllowed : Bool) : Read (List Bound × Bool) := do
  let first ← inner.readBound captureAllowed constAllowed
  if plus then
    let (more, open_) ← inner.moreBounds captureAllowed constAllowed (← fuel)
    return (first :: more, open_)
  else return ([first], false)

/-- Whether a bound is by a trait. -/
def isTrait : Bound → Bool
  | .trait _ _ _ _ | .unprintable => true
  | .lifetime _ | .capture _ => false

/-- Reads an object type after its keyword, if it has one. -/
def objectTy (plus keyword : Bool) : Read Ty := do
  let (bounds, open_) ← inner.bounds plus false false
  if bounds.any isTrait then return .object keyword bounds open_
  else throw (.rule "at least one trait is required for an object type")

/-- Reads a type that is not told after its keyword. -/
def implTy (plus : Bool) : Read Ty := do
  let (bounds, open_) ← inner.bounds plus true true
  if bounds.any isTrait then return .impl bounds open_
  else throw (.rule "at least one trait must be specified")

/-! ## Function types -/

/-- Reads an input of a function type after its attributes; the first one can be the value that the
function is called on. -/
def fnInput (first : Bool) (attrs : List Attr) : Read Input := do
  let isMutSelf (c : Cursor) : Bool := first && c.startsWord "mut" && (c.drop 1).startsWord "self"
  let mutSelf := isMutSelf (← get)
  if mutSelf then skip 1
  let c ← get
  let plain := c.startsIdent || c.startsWord "_"
  let named := (plain || (first && c.startsWord "self")) && (c.drop 1).startsWith ":" &&
    !(c.drop 1).startsWith "::"
  let name ←
    if named then do
      let name ← anyWord
      mark ":"
      pure (some name)
    else pure none
  let hasSelf := named && !plain
  if !hasSelf && isMutSelf (← get) then
    skip 2
    return .typed attrs none .unprintable
  else if mutSelf && !named then
    keyword "self"
    return .typed attrs none .unprintable
  else
    let ty ← inner.ty true
    if mutSelf then return .typed attrs none .unprintable
    else return .typed attrs (name.map .named) ty

/-- Whether any number of further inputs comes first. -/
def startsRest (c : Cursor) : Bool :=
  c.startsWith "..." ||
    ((c.startsIdent || c.startsWord "_") && (c.drop 1).startsWith ":" &&
      (c.drop 2).startsWith "...")

/-- Reads the inputs of a function type. -/
def fnInputs (first : Bool) : Nat → Read (List Input)
  | 0 => expecting []
  | fuel + 1 => do
    if (← get).isEmpty then return []
    let attrs ← inner.attrs
    if startsRest (← get) then
      let name ←
        if (← get).startsAnyWord then do
          let name ← anyWord
          mark ":"
          pure (some name)
        else pure none
      mark "..."
      let _ ← markIf ","
      return [.rest attrs (name.map .named)]
    let input ← inner.fnInput first attrs
    if (← get).isEmpty then return [input]
    mark ","
    return input :: (← fnInputs false fuel)

/-- Reads the keyword for functions that follow other conventions, with their name, if it comes. -/
def abiIf : Read String := do
  if ← keywordIf "extern" then
    match (← get).tokens with
    | .literal text :: _ =>
      if isText text then
        skip 1
        return "extern " ++ text ++ " "
      else return "extern "
    | _ => return "extern "
  else return ""

/-- Reads a word that goes before a construct, with a blank after it, if it comes. -/
def introWord (word : String) : Read String := do
  return if ← keywordIf word then word ++ " " else ""

/-- Reads a function type after its lifetimes. -/
def fnTy (binder : Option (List GenericParam)) : Read Ty := do
  let unsafe_ ← introWord "unsafe"
  let abi ← abiIf
  keyword "fn"
  let inputs ← inside .round do inner.fnInputs true (← fuel)
  let output ← inner.output
  return .function binder (unsafe_ ++ abi) inputs output

/-! ## Types -/

/-- What a type can start with. -/
def typeStarts : List String :=
  ["`for`", "parentheses", "`fn`", "`unsafe`", "`extern`", "identifier", "`::`", "`<`", "`dyn`",
   "square brackets", "`*`", "`&`", "`!`", "`impl`", "`_`", "lifetime"]

/-- What a type can go on with after its lifetimes. -/
def boundTypeStarts : List String :=
  ["identifier", "`fn`", "`unsafe`", "`extern`", "`super`", "`self`", "`Self`", "`crate`"]

/-- The same bound in parentheses. -/
def inParens : Bound → Bound
  | .trait _ maybe binder path => .trait true maybe binder path
  | bound => bound

/-- The bound that a type in parentheses is, when a plus sign follows. -/
def parenBound? : Ty → Option Bound
  | .path path => some (inParens (.of path))
  | .object false [bound] false => some (inParens bound)
  | _ => none

/-- What a group in parentheses is read as. -/
inductive Parens
  /-- A type. -/
  | whole (ty : Ty)
  /-- A bound, which goes on after the group. -/
  | bound (bound : Bound)
  /-- One type. -/
  | single (ty : Ty)

/-- Reads what is in parentheses. -/
def parenContent : Read Parens := do
  let c ← get
  if c.isEmpty then return .whole .unit
  else if c.startsLifetime then return .whole (.paren (← inner.objectTy true false))
  else if c.startsWith "?" then return .bound (← inner.traitBound true false)
  else
    let first ← inner.ty true
    if ← markIf "," then return .whole (.tuple (first :: (← list (inner.ty true))))
    else return .single first

/-- Reads a type that starts with parentheses. -/
def parenTy (plus : Bool) : Read Ty := do
  match ← inside .round inner.parenContent with
  | .whole ty => return ty
  | .bound bound => return .object false (bound :: (← inner.everyBound (← fuel))) false
  | .single ty =>
    match parenBound? ty with
    | none => return .paren ty
    | some bound =>
      if plus && (← get).startsWith "+" then
        return .object false (bound :: (← inner.everyBound (← fuel))) false
      else return .paren ty

/-- Reads a type that starts with a path, after its lifetimes. -/
def namedTy (plus : Bool) (binder : Option (List GenericParam)) : Read Ty := do
  match ← inner.pathTy false with
  | .path path =>
    let c ← get
    match path.plain?, c.startsBang with
    | some name, true =>
      skip 1
      let (bracket, tokens) ← delimited
      return .macroCall ⟨name, bracket, tokens, none⟩
    | _, _ =>
      if binder.isSome || (plus && c.startsWith "+") then
        let (more, open_) ←
          if plus then inner.moreBounds false false (← fuel) else pure ([], false)
        return .object false (.trait false false binder path :: more) open_
      else return .path path
  | ty => return ty

/-- Reads a row type. -/
def rowTy : Read Ty := inside .square do
  let elem ← inner.ty true
  if ← markIf ";" then return .array elem (← inner.expr true) else return .slice elem

/-- Reads a pointer type. -/
def pointerTy : Read Ty := do
  mark "*"
  let c ← get
  if c.startsWord "const" || c.startsWord "mut" then
    skip 1
    return .pointer (c.startsWord "mut") (← inner.ty false)
  else expecting ["`const`", "`mut`"]

/-- Reads a reference type. -/
def referenceTy : Read Ty := do
  mark "&"
  let lifetime ← lifetimeIf
  let mutable ← keywordIf "mut"
  return .reference lifetime mutable (← inner.ty false)

/-- Reads a type of the compiler itself. -/
def builtinTy : Read Ty := do
  skip 2
  let _ ← ident
  inside .round (modify fun c => { c with tokens := [] })
  return .unprintable

/-- Whether a construct of the compiler itself comes first. -/
def startsBuiltin (c : Cursor) : Bool := c.startsWord "builtin" && (c.drop 1).startsWith "#"

/-- Reads a type; `plus` says whether bounds may be joined. -/
def readTy (plus : Bool) : Read Ty := do
  let binder ← inner.binderIf
  let c ← get
  if binder.isSome &&
      !(c.startsIdent || c.startsWordOf ["fn", "unsafe", "extern", "super", "self", "Self", "crate"])
    then expecting boundTypeStarts
  else if c.startsGroup .round then inner.parenTy plus
  else if c.startsWordOf ["fn", "unsafe", "extern"] then inner.fnTy binder
  else if startsBuiltin c then builtinTy
  else if c.startsIdent || c.startsWordOf ["super", "self", "Self", "crate"] ||
      c.startsWith "::" || c.startsWith "<" then inner.namedTy plus binder
  else if ← keywordIf "dyn" then
    let star ← markIf "*"
    let ty ← inner.objectTy plus true
    return if star then .unprintable else ty
  else if c.startsGroup .square then inner.rowTy
  else if c.startsWith "*" then inner.pointerTy
  else if c.startsWith "&" then inner.referenceTy
  else if ← markIf "!" then return .never
  else if ← keywordIf "impl" then inner.implTy plus
  else if ← keywordIf "_" then return .infer
  else if c.startsLifetime then inner.objectTy true false
  else expecting typeStarts

end Readers

end ProtoRest.Code
