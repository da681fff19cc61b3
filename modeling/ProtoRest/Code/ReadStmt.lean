import ProtoRest.Code.ReadItem

/-! # Reading statements
The readers of statements. With them all readers are there: `readers` ties them together, each level
with those of the level below, and `Ty.ofText` reads the text of a type. -/

namespace ProtoRest.Code

namespace Readers

open Read

variable (inner : Readers)

/-! ## Expressions as statements -/

/-- Whether an expression with a block of its own comes first, at which a statement can end. -/
def startsBlock (c : Cursor) : Bool :=
  c.startsWordOf ["if", "while", "loop", "match", "unsafe"] ||
    (c.startsWord "for" && !startsClosure c) ||
    (c.startsWordOf ["try", "const"] && (c.drop 1).startsGroup .curly) ||
    c.startsGroup .curly || c.startsLifetime

/-- Reads an expression where a statement can end. -/
def readEarly : Read Expr := do
  let attrs ← inner.attrs
  let c ← get
  let e ← if startsBlock c then inner.atom true else inner.readUnary true
  let rest (e : Expr) : Read Expr := do
    climb inner true (inner.readUnary true) (← climbFuel) (e.withAttrs attrs) .jump
  if startsBlock c && !e.needsComma then
    let c ← get
    if c.startsDot || c.startsWith "?" then rest (← inner.trailers (← fuel) e)
    else return e.withAttrs attrs
  else rest e

/-- The expression with attributes for the operand that it starts with. -/
def attributedStart (attrs : List Attr) : Expr → Expr
  | .assign left right => .assign (attributedStart attrs left) right
  | .binary left operator right => .binary (attributedStart attrs left) operator right
  | .cast base ty => .cast (attributedStart attrs base) ty
  | e => e.withAttrs attrs

/-! ## Statements -/

/-- Reads a pattern for a value. -/
def bindStmt (attrs : List Attr) : Read Stmt := do
  keyword "let"
  let pat ← inner.pat
  let pat ← if ← markIf ":" then .typed pat <$> inner.ty true else pure pat
  if ← markIf "=" then
    let value ← inner.expr true
    let otherwise ←
      if !value.endsInBrace && (← get).startsWord "else" then do
        skip 1
        some <$> Expr.braces <$> inner.block
      else pure none
    mark ";"
    return .bind attrs pat (some value) otherwise
  else
    mark ";"
    return .bind attrs pat none none

/-- The call of a macro in curly brackets that comes first and is a statement of its own. -/
def stmtMacro? (c : Cursor) : Option (MacroCall × Cursor) :=
  match plainPath.run c with
  | .ok (path, c) =>
    match c.startsWith "!", (c.drop 1).tokens with
    | true, .group .curly tokens :: _ =>
      let next := c.drop 2
      if next.startsDot || next.startsWith "?" then none else some (⟨path, .curly, tokens, none⟩, next)
    | _, _ => none
  | .error _ => none

/-- Whether the call of a macro comes first that is an item, since it is to define a name. -/
def startsMacroItem (c : Cursor) : Bool :=
  match plainPath.run c with
  | .ok (_, c) =>
    c.startsWith "!" && ((c.drop 1).startsIdent || (c.drop 1).startsWord "try")
  | .error _ => false

/-- Whether an item comes first. -/
def startsItem (c : Cursor) : Bool :=
  let second := c.drop 1
  let third := c.drop 2
  let modifiers := ["unsafe", "extern", "fn"]
  c.startsWordOf
      ["pub", "extern", "use", "fn", "mod", "type", "struct", "enum", "trait", "impl", "macro"] ||
    (c.startsWord "crate" && !second.startsWith "::") ||
    (c.startsWord "static" && (second.startsWord "mut" || second.startsIdent)) ||
    (c.startsWord "const" &&
      !(second.startsGroup .curly || second.startsWordOf ["static", "move"] ||
        (second.startsWord "async" && !third.startsWordOf modifiers) || second.startsWith "|")) ||
    (c.startsWord "unsafe" && !second.startsGroup .curly) ||
    (c.startsWord "async" && second.startsWordOf modifiers) ||
    (c.startsWord "union" && second.startsIdent) ||
    (c.startsWord "auto" && second.startsWord "trait") ||
    (c.startsWord "default" && second.startsWordOf ["unsafe", "impl"]) || startsMacroItem c

/-- Reads a statement. -/
def stmt : Read Stmt := do
  let attrs ← inner.attrs
  let c ← get
  match stmtMacro? c with
  | some (call, next) =>
    set next
    let _ ← markIf ";"
    return .macroCall attrs call
  | none =>
    if c.startsWord "let" then inner.bindStmt attrs
    else if startsItem c then return .item (← inner.itemAfter attrs)
    else
      let e ← inner.early
      let semicolon ← markIf ";"
      match e with
      | .macroCall call =>
        if semicolon || call.bracket = .curly then return .macroCall attrs call
        else return .expr (attributedStart attrs e) semicolon
      | e => return .expr (attributedStart attrs e) semicolon

/-- Whether a statement has to be the last one. -/
def endsBlock : Stmt → Bool
  | .expr value false => value.needsSemicolon
  | _ => false

/-- Reads statements. -/
def stmtsUpTo : Nat → Read (List Stmt)
  | 0 => expecting []
  | fuel + 1 => do
    if ← markIf ";" then return .empty :: (← stmtsUpTo fuel)
    if (← get).isEmpty then return []
    let stmt ← inner.stmt
    if endsBlock stmt && !(← get).isEmpty then
      throw (.rule "unexpected token, expected `;`")
    return stmt :: (← stmtsUpTo fuel)

/-- Reads statements up to the end of a group. -/
def readStmts : Read (List Stmt) := do inner.stmtsUpTo (← fuel)

end Readers

/-- The readers that go a number of constructs deep. -/
def readers : Nat → Readers
  | 0 => .exhausted
  | depth + 1 =>
    let inner := readers depth
    { ty := inner.readTy
      bound := inner.readBound
      pat := inner.readPat
      expr := inner.readExpr
      unary := inner.readUnary
      early := inner.readEarly
      stmts := inner.readStmts
      item := inner.readItem }

/-- The type that tokens are. -/
def Ty.ofTokens (tokens : List Token) : Except SyntaxFault Ty := do
  let (ty, c) ← ((readers (depthOf tokens)).ty true).run ⟨tokens, none⟩
  match c.left with
  | some closing => throw (.leftover (some closing))
  | none => if c.isEmpty then return ty else throw (.leftover none)

/-- The type that a text is. -/
def Ty.ofText (text : String) : Except SyntaxFault Ty :=
  match tokenTree? text.toList with
  | none => .error .noTokens
  | some tokens => Ty.ofTokens tokens

end ProtoRest.Code
