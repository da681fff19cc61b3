import ProtoRest.Code.ReadExpr

/-! # Reading items
The readers of items. `itemAfter` reads one after its attributes; the members of traits,
implementations and foreign blocks have readers of their own. Forms that have a meaning only to
macros are read too, as items without a layout. -/

namespace ProtoRest.Code.Readers

open Read

variable (inner : Readers)

/-! ## Expectations -/

/-- Words between back quotes. -/
def quotedWords (words : List String) : List String := words.map fun w => "`" ++ w ++ "`"

/-- What the name of a macro can start with. -/
def macroStarts : List String := ["identifier", "`self`", "`super`", "`crate`", "`::`"]

/-- Whether the name of a macro can start here. -/
def startsMacroName (c : Cursor) : Bool :=
  c.startsIdent || c.startsWordOf ["self", "super", "crate"] || c.startsWith "::"

/-! ## Parameters and requirements -/

/-- Reads the value that a constant stands for when it is not told. -/
def constDefault : Read Expr := do
  let c ← get
  if c.startsIdent then return .named (← ident)
  else if startsConst c then inner.constArg
  else expecting []

/-- Reads what is introduced for an item. -/
def genericParam : Read GenericParam := do
  let attrs ← inner.attrs
  let c ← get
  if c.startsLifetime then lifetimeParam attrs
  else if c.startsIdent then
    let name ← ident
    let bounds ←
      if ← markIf ":" then
        inner.boundsUpTo fun c =>
          c.isEmpty || c.startsWith "," || c.startsWith ">" || c.startsWith "="
      else pure []
    return .type attrs name bounds (← if ← markIf "=" then some <$> inner.ty true else pure none)
  else if ← keywordIf "const" then
    let name ← ident
    mark ":"
    let ty ← inner.ty true
    return .const attrs name ty (← if ← markIf "=" then some <$> inner.constDefault else pure none)
  else if ← keywordIf "_" then return .type attrs "_" [] none
  else expecting ["lifetime", "identifier", "`const`"]

/-- Reads all that is introduced for an item. -/
def generics : Read (List GenericParam) := do
  if ← markIf "<" then
    let params ← listBefore ">" inner.genericParam
    mark ">"
    return params
  else return []

/-- Whether an angle bracket introduces parameters, where a type could come too. -/
def introducesParams (c : Cursor) : Bool :=
  let second := c.drop 1
  let third := c.drop 2
  c.startsWith "<" &&
    (second.startsWith ">" || second.startsWith "#" || second.startsWord "const" ||
      ((second.startsLifetime || second.startsIdent) &&
        (third.startsWith ">" || third.startsWith "," || third.startsWith "=" ||
          (third.startsWith ":" && !third.startsWith "::"))))

/-- Whether requirements end here. -/
def endsRequirements (c : Cursor) : Bool :=
  c.isEmpty || c.startsGroup .curly || c.startsWith "," || c.startsWith ";" ||
    (c.startsWith ":" && !c.startsWith "::") || c.startsWith "="

/-- Reads a requirement. -/
def requirement : Read Requirement := do
  let c ← get
  if c.startsLifetime && (c.drop 1).startsWith ":" then
    let name ← lifetime
    mark ":"
    return .lifetime name (← outlived fun c => endsRequirements c || c.startsWith ":")
  else
    let binder ← inner.binderIf
    let ty ← inner.ty true
    mark ":"
    return .type binder ty (← inner.boundsUpTo endsRequirements)

/-- Reads requirements, if they come. -/
def requirements : Read (List Requirement) := do
  if ← keywordIf "where" then
    if introducesParams (← get) then
      throw (.rule "generic parameters on `where` clauses are reserved for future use")
    linked "," endsRequirements inner.requirement (← fuel)
  else return []

/-- Reads bounds with a plus sign between them, up to an end. -/
def boundsBefore (stops : Cursor → Bool) : Read (List Bound) := do
  separated "+" stops (inner.bound false true) (← fuel)

/-! ## Visibility -/

/-- Reads who can see an item, with a blank after it; nothing when nobody else can. -/
def visibility : Read String := do
  if ← keywordIf "pub" then
    match (← get).tokens with
    | .group .round tokens :: _ =>
      let content := Cursor.mk tokens none
      if content.startsWord "in" then
        let path ← inside .round do
          keyword "in"
          plainPath
        let near := ["self", "super", "crate"].contains path.text
        return "pub(" ++ (if near then "" else "in ") ++ path.text ++ ") "
      else
        match tokens with
        | [.word w] =>
          if w ∈ ["self", "super", "crate"] then
            skip 1
            return "pub(" ++ w ++ ") "
          else return "pub "
        | _ => return "pub "
    | _ => return "pub "
  else return ""

/-! ## Functions -/

/-- Whether the head of a function comes first; it may be marked as safe or not. -/
def startsFn (safeAllowed : Bool) (c : Cursor) : Bool :=
  let pass (word : String) (c : Cursor) : Cursor := if c.startsWord word then c.drop 1 else c
  let c := pass "async" (pass "const" c)
  let c := if safeAllowed && c.startsWord "safe" then c.drop 1 else pass "unsafe" c
  match abiIf.run c with
  | .ok (_, c) => c.startsWord "fn"
  | .error _ => false

/-- Reads the value that a method is called on. -/
def receiver : Read Input := do
  let isReference ← markIf "&"
  let lifetime ← if isReference then lifetimeIf else pure none
  let mutable ← introWord "mut"
  keyword "self"
  let ty ← if !isReference && (← markIf ":") then some <$> inner.ty true else pure none
  let intro := (if isReference then "&" else "") ++ lifetime.elim "" (fun name => "'" ++ name ++ " ")
  return .self [] (intro ++ mutable) ty

/-- Reads an input of a function after its attributes. -/
def input (attrs : List Attr) : Read Input := do
  let c ← get
  match inner.receiver.run c with
  | .ok (.self _ intro ty, next) =>
    set next
    return .self attrs intro ty
  | _ =>
    if c.startsIdent && (c.drop 1).startsWith "<" then
      return .typed attrs (some .wild) (← inner.ty true)
    let pat ← inner.pat
    mark ":"
    if ← markIf "..." then return .rest attrs (some pat)
    else return .typed attrs (some pat) (← inner.ty true)

/-- Reads the inputs of a function, given how many there are before them and whether one of those is
the value that it is called on. -/
def inputsUpTo (before : Nat) (hasSelf : Bool) : Nat → Read (List Input)
  | 0 => expecting []
  | fuel + 1 => do
    if (← get).isEmpty then return []
    let attrs ← inner.attrs
    let input ← if ← markIf "..." then pure (.rest attrs none) else inner.input attrs
    let isSelf := match input with
      | .self _ _ _ => true
      | _ => false
    if isSelf && hasSelf then throw (.rule "unexpected second method receiver")
    if isSelf && before > 0 then throw (.rule "unexpected method receiver")
    if (← get).isEmpty then return [input]
    mark ","
    match input with
    | .rest _ _ => return [input]
    | _ => return input :: (← inputsUpTo (before + 1) (hasSelf || isSelf) fuel)

/-- The head of a function. -/
structure FnHead where
  /-- What stands before the name. -/
  intro : String
  /-- The name. -/
  name : String
  /-- What is introduced. -/
  params : List GenericParam
  /-- The inputs. -/
  inputs : List Input
  /-- The type of the result, if it is told. -/
  output : Option Ty
  /-- The requirements. -/
  requirements : List Requirement
  /-- Whether it is marked as safe. -/
  safe : Bool

/-- Reads the head of a function, which may be marked as safe or not. -/
def fnHead (safeAllowed : Bool) : Read FnHead := do
  let const_ ← introWord "const"
  let async_ ← introWord "async"
  let unsafe_ ← introWord "unsafe"
  let safe ← if safeAllowed && unsafe_ = "" then keywordIf "safe" else pure false
  let abi ← abiIf
  keyword "fn"
  let name ← ident
  let params ← inner.generics
  let inputs ← inside .round do inner.inputsUpTo 0 false (← fuel)
  let output ← if ← markIf "->" then some <$> inner.ty true else pure none
  let requirements ← inner.requirements
  let intro := const_ ++ async_ ++ unsafe_ ++ abi ++ "fn "
  return { intro, name, params, inputs, output, requirements, safe }

/-- The function with a head. -/
def FnHead.item (head : FnHead) (attrs : List Attr) (intro : String) (body : Option Expr) : Item :=
  .fn attrs (intro ++ head.intro) head.name head.params head.inputs head.output head.requirements
    body

/-- Reads the body of a function. -/
def fnBody : Read (Option Expr) := do return some (.braces (← inner.body))

/-- Reads a function, which has to have a body to have a layout. -/
def fnItem (attrs : List Attr) (intro : String) : Read Item := do
  let head ← inner.fnHead false
  if ← markIf ";" then return .unprintable else return head.item attrs intro (← inner.fnBody)

/-- Reads a function of a trait. -/
def traitFn (attrs : List Attr) : Read Item := do
  let head ← inner.fnHead false
  if (← get).startsGroup .curly then return head.item attrs "" (← inner.fnBody)
  else if ← markIf ";" then return head.item attrs "" none
  else expecting ["curly braces", "`;`"]

/-- Reads a function that is defined elsewhere. -/
def foreignFn (attrs : List Attr) (intro : String) : Read Item := do
  let head ← inner.fnHead true
  if (← get).startsGroup .curly then
    let _ ← inner.body
    return .unprintable
  else
    mark ";"
    return if head.safe then .unprintable else head.item attrs intro none

/-! ## Constants and static values -/

/-- Reads a constant after its keyword; it has a layout if it has a value, which it need not have in
a trait, and nothing is introduced or required for it. -/
def constItem (attrs : List Attr) (intro : String) (valueNeeded : Bool) : Read Item := do
  let c ← get
  let name ←
    if c.startsIdent || c.startsWord "_" then anyWord else expecting ["identifier", "`_`"]
  let hasParams := (← get).startsWith "<"
  let _ ← inner.generics
  mark ":"
  let ty ← inner.ty true
  let value ← if ← markIf "=" then some <$> inner.expr true else pure none
  let hasRequirements := (← get).startsWord "where"
  let _ ← inner.requirements
  mark ";"
  if hasParams || hasRequirements || (valueNeeded && value.isNone) then return .unprintable
  else return .value attrs (intro ++ "const ") name ty value

/-- Reads a static value; it has a layout if it has a type and a value. -/
def staticItem (attrs : List Attr) (intro : String) : Read Item := do
  keyword "static"
  let mutable ← introWord "mut"
  let name ← ident
  if ← markIf "=" then
    let _ ← inner.expr true
    mark ";"
    return .unprintable
  else
    mark ":"
    let ty ← inner.ty true
    if ← markIf ";" then return .unprintable
    else
      mark "="
      let value ← inner.expr true
      mark ";"
      return .value attrs (intro ++ "static " ++ mutable) name ty (some value)

/-- Reads a static value that is defined elsewhere; it has a layout if it has no value and nothing is
said about its safety. -/
def foreignStatic (attrs : List Attr) (intro : String) : Read Item := do
  let isUnsafe ← keywordIf "unsafe"
  let isSafe ← if isUnsafe then pure false else keywordIf "safe"
  keyword "static"
  let mutable ← introWord "mut"
  let name ← ident
  mark ":"
  let ty ← inner.ty true
  let hasValue ← markIf "="
  if hasValue then
    let _ ← inner.expr true
  mark ";"
  if isUnsafe || isSafe || hasValue then return .unprintable
  else return .value attrs (intro ++ "static " ++ mutable) name ty none

/-! ## Types -/

/-- The parts of a type under a name. -/
structure TypeParts where
  /-- The name. -/
  name : String
  /-- What is introduced. -/
  params : List GenericParam
  /-- The bounds, if there is a colon. -/
  bounds : Option (List Bound)
  /-- The type that it stands for. -/
  ty : Option Ty
  /-- The requirements. -/
  requirements : List Requirement

/-- Reads a type under a name after its visibility; its requirements may stand before the type that
it stands for, after it, or at either place. -/
def typeParts (early late : Bool) : Read TypeParts := do
  keyword "type"
  let name ← ident
  let params ← inner.generics
  let bounds ←
    if ← markIf ":" then
      some <$> inner.boundsBefore fun c =>
        c.startsWord "where" || c.startsWith "=" || c.startsWith ";"
    else pure none
  let isEarly := early && (← get).startsWord "where"
  let first ← if isEarly then inner.requirements else pure []
  let ty ← if ← markIf "=" then some <$> inner.ty true else pure none
  let second ← if late && !isEarly then inner.requirements else pure []
  mark ";"
  return { name, params, bounds, ty, requirements := first ++ second }

/-- Reads a type under another name. -/
def aliasItem (attrs : List Attr) (intro : String) : Read Item := do
  let parts ← inner.typeParts true false
  match parts.bounds, parts.ty with
  | none, some ty =>
    return .alias attrs (intro ++ "type ") parts.name parts.params parts.requirements ty
  | _, _ => return .unprintable

/-- Reads a type of a trait. -/
def traitType (attrs : List Attr) : Read Item := do
  let parts ← inner.typeParts false true
  return .type attrs "type " parts.name parts.params (parts.bounds.getD []) parts.ty
    parts.requirements

/-- Reads a type of an implementation. -/
def implType (attrs : List Attr) (intro : String) : Read Item := do
  let parts ← inner.typeParts false true
  match parts.bounds, parts.ty with
  | none, some ty =>
    return .type attrs (intro ++ "type ") parts.name parts.params [] (some ty) parts.requirements
  | _, _ => return .unprintable

/-- Reads a type that is defined elsewhere. -/
def foreignType (attrs : List Attr) (intro : String) : Read Item := do
  let parts ← inner.typeParts true true
  match parts.bounds, parts.ty with
  | none, none => return .elsewhere attrs (intro ++ "type ") parts.name parts.params
  | _, _ => return .unprintable

/-! ## Structures and enums -/

/-- Reads fields in curly brackets by a reader of one. -/
def fieldsBy (field : Read StructField) : Read (List StructField) := inside .curly (list field)

/-- Reads a field with a name. An underscore can stand for the name; then fields in brackets can stand
for the type, which is given how deep such fields can be nested. -/
def namedField : Nat → Read StructField
  | 0 => expecting []
  | depth + 1 => do
    let attrs ← inner.attrs
    let intro ← visibility
    let isOpen := (← get).startsWord "_"
    let name ← if isOpen then anyWord else ident
    mark ":"
    let c ← get
    if isOpen && (c.startsWord "struct" ||
        (c.startsWord "union" && (c.drop 1).startsGroup .curly)) then
      skip 1
      let _ ← fieldsBy (namedField depth)
      return .mk attrs intro name .unprintable
    else return .mk attrs intro (some name) (← inner.ty true)

/-- Reads a field without a name. -/
def tupleField : Read StructField := do
  let attrs ← inner.attrs
  let intro ← visibility
  return .mk attrs intro none (← inner.ty true)

/-- Reads fields in curly brackets. -/
def namedFields : Read (List StructField) := do
  fieldsBy (inner.namedField (depthOf (← get).tokens))

/-- Reads fields in parentheses. -/
def tupleFields : Read (List StructField) := inside .round (list inner.tupleField)

/-- Reads a structure after its keyword. -/
def structItem (attrs : List Attr) (intro : String) : Read Item := do
  let name ← ident
  let params ← inner.generics
  let item := Item.struct attrs (intro ++ "struct ") name params
  let early := (← get).startsWord "where"
  let requirements ← inner.requirements
  let c ← get
  if !early && c.startsGroup .round then
    let fields ← inner.tupleFields
    let late := (← get).startsWord "where"
    let requirements ← inner.requirements
    if ← markIf ";" then return item .tuple fields requirements
    else expecting (if late then ["`;`"] else ["`where`", "`;`"])
  else if c.startsGroup .curly then return item .named (← inner.namedFields) requirements
  else if ← markIf ";" then return item .unit [] requirements
  else
    expecting
      ((if early then [] else ["`where`", "parentheses"]) ++ ["curly braces", "`;`"])

/-- Reads a union after its keyword. -/
def unionItem (attrs : List Attr) (intro : String) : Read Item := do
  let name ← ident
  let params ← inner.generics
  let requirements ← inner.requirements
  return .struct attrs (intro ++ "union ") name params .named (← inner.namedFields) requirements

/-- Reads a variant of an enum. -/
def enumVariant : Read EnumVariant := do
  let attrs ← inner.attrs
  let _ ← visibility
  let name ← ident
  let c ← get
  let (shape, fields) ←
    if c.startsGroup .curly then (FieldShape.named, ·) <$> inner.namedFields
    else if c.startsGroup .round then (FieldShape.tuple, ·) <$> inner.tupleFields
    else pure (FieldShape.unit, [])
  let number ← if ← markIf "=" then some <$> inner.expr true else pure none
  return .mk attrs name shape fields number

/-- Reads an enum after its keyword. -/
def enumItem (attrs : List Attr) (intro : String) : Read Item := do
  let name ← ident
  let params ← inner.generics
  let requirements ← inner.requirements
  let variants ← inside .curly (list inner.enumVariant)
  return .enum attrs (intro ++ "enum ") name params requirements variants

/-! ## Imports -/

/-- Reads imports with commas between them, each by a reader that may allow the root of all names;
one that starts there has no layout. -/
def useTrees (tree : Bool → Read (Option UseTree)) (rootAllowed : Bool) :
    Nat → Read (List (Option UseTree))
  | 0 => expecting []
  | fuel + 1 => do
    if (← get).isEmpty then return []
    let isRooted ← if rootAllowed then markIf "::" else pure false
    let read ← tree (rootAllowed && !isRooted)
    let read := if isRooted then none else read
    if (← get).isEmpty then return [read]
    mark ","
    return read :: (← useTrees tree rootAllowed fuel)

/-- Reads what is imported; `rootAllowed` says whether parts of it may start at the root of all names,
and nothing comes back when one does. -/
def useTree : Nat → Bool → Read (Option UseTree)
  | 0, _ => expecting []
  | depth + 1, rootAllowed => do
    let c ← get
    if c.startsIdent || c.startsWordOf ["self", "super", "crate", "try"] then
      let name ← anyWord
      if ← markIf "::" then return (← useTree depth false).map (.under name)
      else if ← keywordIf "as" then
        let c ← get
        if c.startsIdent || c.startsWord "_" then return some (.rename name (← anyWord))
        else expecting ["identifier or underscore"]
      else return some (.name name)
    else if ← markIf "*" then return some .everything
    else if c.startsGroup .curly then
      let trees ← inside .curly do useTrees (useTree depth) rootAllowed (← fuel)
      return (trees.mapM id).map .group
    else
      expecting ["identifier", "`self`", "`super`", "`crate`", "`try`", "`*`", "curly braces"]

/-- Reads an import after its visibility. -/
def useItem (attrs : List Attr) (intro : String) : Read Item := do
  keyword "use"
  let isRooted ← markIf "::"
  let tree ← useTree (depthOf (← get).tokens) !isRooted
  mark ";"
  return tree.elim .unprintable (.use attrs (intro ++ "use " ++ if isRooted then "::" else ""))

/-- Reads another crate after its visibility. -/
def externCrateItem (attrs : List Attr) (intro : String) : Read Item := do
  keyword "extern"
  keyword "crate"
  let name ← if (← get).startsWord "self" then anyWord else ident
  let other ←
    if ← keywordIf "as" then
      some <$> if (← get).startsWord "_" then anyWord else ident
    else pure none
  mark ";"
  return .externCrate attrs (intro ++ "extern crate ") name other

/-! ## Macros -/

/-- Reads the call of a macro; one that is an item may be to define a name. -/
def macroItem (attrs : List Attr) (nameAllowed : Bool) : Read Item := do
  let path ← plainPath
  mark "!"
  let c ← get
  let defined ←
    if nameAllowed && (c.startsWord "try" || c.startsIdent) then some <$> anyWord else pure none
  let (bracket, tokens) ← delimited
  if bracket ≠ .curly then mark ";"
  return .macroCall attrs { path, bracket, tokens, defined }

/-- Reads a macro that is defined by rules of its own kind. -/
def macroDefinition : Read Item := do
  keyword "macro"
  let _ ← ident
  let hasInputs := (← get).startsGroup .round
  if hasInputs then skip 1
  if (← get).startsGroup .curly then
    skip 1
    return .unprintable
  else expecting ((if hasInputs then [] else ["parentheses"]) ++ ["curly braces"])

/-! ## Members -/

/-- Reads members in curly brackets, after the attributes of what they are in. -/
def members (member : Read Item) : Read (List Item) := inside .curly do
  let about ← inner.about
  return about.map .about ++ (← all member (← fuel))

/-- Reads a member of a trait; one that is marked in a way that only implementations are has no
layout. -/
def traitMember : Read Item := do
  let attrs ← inner.attrs
  let intro ← visibility
  let isDefault ← keywordIf "default"
  let isPlain := intro = "" && !isDefault
  let c ← get
  let item ←
    if startsFn false c then inner.traitFn attrs
    else if c.startsWord "const" then
      let next := c.drop 1
      if next.startsWordOf ["async", "unsafe", "extern", "fn"] then inner.traitFn attrs
      else
        skip 1
        if next.startsIdent || next.startsWord "_" then inner.constItem attrs "" false
        else expecting (["identifier"] ++ quotedWords ["_", "async", "unsafe", "extern", "fn"])
    else if c.startsWord "type" then inner.traitType attrs
    else if isPlain && startsMacroName c then macroItem attrs false
    else
      expecting (quotedWords ["fn", "const", "type"] ++ if isPlain then macroStarts else [])
  return if isPlain then item else .unprintable

/-- Reads a member of an implementation. -/
def implMember : Read Item := do
  let attrs ← inner.attrs
  let visible ← visibility
  let c ← get
  let isMacro := c.startsWord "default" && (c.drop 1).startsWith "!"
  let default_ ← if isMacro then pure "" else introWord "default"
  let intro := visible ++ default_
  let c ← get
  if startsFn false c then inner.fnItem attrs intro
  else if c.startsWord "const" then
    skip 1
    inner.constItem attrs intro true
  else if c.startsWord "type" then inner.implType attrs intro
  else if intro = "" && startsMacroName c then macroItem attrs false
  else
    expecting
      ((if default_ = "" && !isMacro then ["`default`"] else []) ++
        quotedWords ["fn", "const", "type"] ++ if intro = "" then macroStarts else [])

/-- Reads a member of a foreign block. -/
def foreignMember : Read Item := do
  let attrs ← inner.attrs
  let intro ← visibility
  let c ← get
  if startsFn true c then inner.foreignFn attrs intro
  else if c.startsWord "static" ||
      (c.startsWordOf ["unsafe", "safe"] && (c.drop 1).startsWord "static") then
    inner.foreignStatic attrs intro
  else if c.startsWord "type" then inner.foreignType attrs intro
  else if intro = "" && startsMacroName c then macroItem attrs false
  else expecting (quotedWords ["fn", "static", "type"] ++ if intro = "" then macroStarts else [])

/-! ## Items with members -/

/-- Reads a trait after its name and what is introduced for it. -/
def traitAfter (attrs : List Attr) (intro name : String) (params : List GenericParam) :
    Read Item := do
  let bounds ←
    if ← markIf ":" then
      inner.boundsBefore fun c => c.startsWord "where" || c.startsGroup .curly
    else pure []
  let requirements ← inner.requirements
  return .trait attrs intro name params bounds requirements (← inner.members inner.traitMember)

/-- Reads a trait after its visibility, with the words that change what it means. -/
def traitItem (attrs : List Attr) (intro : String) : Read Item := do
  let unsafe_ ← introWord "unsafe"
  let auto_ ← introWord "auto"
  keyword "trait"
  let name ← ident
  let params ← inner.generics
  inner.traitAfter attrs (intro ++ unsafe_ ++ auto_ ++ "trait ") name params

/-- Reads a trait or bounds under a name after its visibility. -/
def traitOrAlias (attrs : List Attr) (intro : String) : Read Item := do
  keyword "trait"
  let name ← ident
  let params ← inner.generics
  let intro := intro ++ "trait "
  let c ← get
  if c.startsGroup .curly || c.startsWith ":" || c.startsWord "where" then
    inner.traitAfter attrs intro name params
  else if ← markIf "=" then
    let bounds ← inner.boundsBefore fun c => c.startsWord "where" || c.startsWith ";"
    let requirements ← inner.requirements
    mark ";"
    return .traitAlias attrs intro name params bounds requirements
  else expecting (["curly braces"] ++ quotedWords [":", "where", "="])

/-- Reads an implementation after its visibility; one that is visible, for constants or of something
that is no trait has no layout. -/
def implItem (attrs : List Attr) (visible : String) : Read Item := do
  let default_ ← introWord "default"
  let unsafe_ ← introWord "unsafe"
  keyword "impl"
  let params ← if introducesParams (← get) then inner.generics else pure []
  let c ← get
  let isConst := c.startsWord "const" || (c.startsWith "?" && (c.drop 1).startsWord "const")
  if isConst then
    let _ ← markIf "?"
    keyword "const"
  let c ← get
  let negative := c.startsWith "!" && !(c.drop 1).startsGroup .curly
  if negative then mark "!"
  let first ← inner.ty true
  let isFor ← keywordIf "for"
  let role := match isFor, first with
    | true, .path path => some path
    | _, _ => none
  let ty ← if isFor then inner.ty true else pure (if negative then .unprintable else first)
  let requirements ← inner.requirements
  let members ← inner.members inner.implMember
  if visible ≠ "" || isConst || (isFor && role.isNone) then return .unprintable
  else
    return .impl attrs (default_ ++ unsafe_ ++ "impl") params (negative && isFor) role ty
      requirements members

/-- Reads items under a name after its visibility. -/
def modItem (attrs : List Attr) (intro : String) : Read Item := do
  let unsafe_ ← introWord "unsafe"
  keyword "mod"
  let name ← if (← get).startsWord "try" then anyWord else ident
  let intro := intro ++ unsafe_ ++ "mod "
  if ← markIf ";" then return .elsewhere attrs intro name []
  else if (← get).startsGroup .curly then
    return .mod attrs intro name (← inner.members inner.item)
  else expecting ["`;`", "curly braces"]

/-- Reads a foreign block, which nothing can be said about to others. -/
def foreignItem (attrs : List Attr) (visible : String) : Read Item := do
  if visible ≠ "" then throw (.expected ["`extern`"] false)
  let unsafe_ ← introWord "unsafe"
  let abi ← abiIf
  return .foreign attrs (unsafe_ ++ abi) (← inner.members inner.foreignMember)

/-- Reads another crate or a foreign block. -/
def externItem (attrs : List Attr) (intro : String) : Read Item := do
  let c ← get
  let next := c.drop 1
  if next.startsWord "crate" then externCrateItem attrs intro
  else if next.startsGroup .curly then inner.foreignItem attrs intro
  else
    let isNamed := next.startsText
    if isNamed && (c.drop 2).startsGroup .curly then inner.foreignItem attrs intro
    else
      skip (if isNamed then 2 else 1)
      expecting
        (if isNamed then ["curly braces"] else ["`crate`", "curly braces", "string literal"])

/-! ## Items -/

/-- The words that items start with, in the order in which they are tried. -/
def itemWords : List String :=
  ["fn", "extern", "use", "static", "const", "unsafe", "mod", "type", "struct", "enum", "union",
   "trait", "auto", "impl", "default", "macro"]

/-- The words among several that do not come first, as expectations. -/
def otherWords (c : Cursor) (words : List String) : List String :=
  quotedWords (words.filter (!c.startsWord ·))

/-- Reads an item that starts with a word about its safety. -/
def unsafeItem (attrs : List Attr) (intro : String) : Read Item := do
  let c ← get
  let next := c.drop 1
  if next.startsWord "trait" || (next.startsWord "auto" && (c.drop 2).startsWord "trait") then
    inner.traitItem attrs intro
  else if next.startsWord "impl" then inner.implItem attrs intro
  else if next.startsWord "extern" then inner.foreignItem attrs intro
  else if next.startsWord "mod" then inner.modItem attrs intro
  else
    skip 1
    expecting (otherWords next ["trait", "auto", "impl", "extern", "mod"])

/-- Reads an item after its attributes. -/
def itemAfter (attrs : List Attr) : Read Item := do
  let intro ← visibility
  let c ← get
  let next := c.drop 1
  if startsFn false c then inner.fnItem attrs intro
  else if c.startsWord "extern" then inner.externItem attrs intro
  else if c.startsWord "use" then useItem attrs intro
  else if c.startsWord "static" then inner.staticItem attrs intro
  else if ← keywordIf "const" then inner.constItem attrs intro true
  else if c.startsWord "unsafe" then inner.unsafeItem attrs intro
  else if c.startsWord "mod" then inner.modItem attrs intro
  else if c.startsWord "type" then inner.aliasItem attrs intro
  else if ← keywordIf "struct" then inner.structItem attrs intro
  else if ← keywordIf "enum" then inner.enumItem attrs intro
  else if c.startsWord "union" && next.startsIdent then
    skip 1
    inner.unionItem attrs intro
  else if c.startsWord "trait" then inner.traitOrAlias attrs intro
  else if c.startsWord "auto" && next.startsWord "trait" then inner.traitItem attrs intro
  else if c.startsWord "impl" || (c.startsWord "default" && !next.startsWith "!") then
    inner.implItem attrs intro
  else if c.startsWord "macro" then macroDefinition
  else if intro = "" && startsMacroName c then macroItem attrs true
  else expecting (otherWords c itemWords ++ if intro = "" then macroStarts else [])

/-- Reads an item. -/
def readItem : Read Item := do inner.itemAfter (← inner.attrs)

end ProtoRest.Code.Readers
