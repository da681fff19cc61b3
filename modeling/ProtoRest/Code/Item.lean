import ProtoRest.Code.Ident
import ProtoRest.Code.SyntaxLayout

/-! # Items of generated code
The constants, structures, traits, implementations and functions that generated code is made of, and
the text of a file of items. -/

namespace ProtoRest.Code

/-! ## Attributes -/

/-- Tokens with commas between them. -/
def commaTokens : List (List Token) → List Token
  | [] => []
  | [tokens] => tokens
  | tokens :: next :: rest => tokens ++ .mark ',' false :: commaTokens (next :: rest)

/-- Two colons that touch each other. -/
def colonTokens : List Token := [.mark ':' true, .mark ':' false]

/-- The tokens of a path. -/
def PlainPath.tokens (path : PlainPath) : List Token :=
  (if path.rooted then colonTokens else []) ++
    colonTokens.intercalate (path.names.map fun name => [Token.word name])

/-- An attribute with arguments in parentheses. -/
def Attr.call (name : String) (args : List (List Token)) : Attr :=
  .list ⟨false, [name]⟩ .round (commaTokens args)

/-! ## Functions -/

/-- A type parameter without bounds. -/
def GenericParam.named (name : String) : GenericParam := .type [] name [] none

/-- A bound on a type parameter. -/
def Requirement.of (param : String) (bound : Bound) : Requirement :=
  .type none (.named param) [bound]

/-- The value that a method is called on, by reference. -/
def Input.byRef : Input := .self [] "&" none

/-- An input with its type. -/
def Input.of (pat : Pat) (ty : Ty) : Input := .typed [] (some pat) ty

/-- The head of a function. -/
structure Signature where
  /-- What stands before the name, keywords included. -/
  intro : String
  /-- The name. -/
  name : Ident
  /-- The names of the type parameters. -/
  generics : List String := []
  /-- The inputs in order. -/
  inputs : List Input
  /-- The type of the result. -/
  output : Ty
  /-- The bounds on the type parameters. -/
  requirements : List Requirement := []

/-- A function with a head, and with its body if it has one. -/
def Signature.item (head : Signature) (attrs : List Attr) (body : Option (List Stmt)) : Item :=
  .fn attrs head.intro head.name.text (head.generics.map .named) head.inputs (some head.output)
    head.requirements (body.map .braces)

/-! ## Items -/

/-- A constant that everyone can see. -/
def Item.const (attrs : List Attr) (name : Ident) (ty : Ty) (value : Expr) : Item :=
  .value attrs "pub const " name.text ty (some value)

/-- A field that everyone can see. -/
def StructField.visible (attrs : List Attr) (name : Ident) (ty : Ty) : StructField :=
  .mk attrs "pub " (some name.text) ty

/-- A structure that everyone can see. -/
def Item.record (attrs : List Attr) (name : Ident) (fields : List StructField) : Item :=
  .struct attrs "pub struct " name.text [] .named fields []

/-- The keywords that a path can start with. -/
def pathKeywords : List String := ["super", "self", "Self", "crate"]

/-- A type that starts with a name in angle brackets reads as type parameters after the keyword of
an implementation. -/
def splitGenerics : Ty → List String × Ty
  | .qualified (.path (.mk false [.plain name])) none rest =>
    if name ∈ pathKeywords then ([], .qualified (.named name) none rest)
    else ([name], .path (.mk true rest))
  | ty => ([], ty)

/-- An implementation of what a type has of its own. -/
def Item.inherent (attrs : List Attr) (ty : Ty) (members : List Item) : Item :=
  let (generics, ty) := splitGenerics ty
  .impl attrs "impl" (generics.map .named) false none ty [] members

/-- An implementation of a trait for a type. -/
def Item.implements (role : Path) (ty : Ty) (members : List Item) : Item :=
  .impl [] "impl" [] false (some role) ty [] members

/-! ## Files -/

/-- The text of a file of items; code without a layout stops the work. -/
def render (items : List Item) : Except Failure String :=
  let pieces := whole 0 (itemsPieces items)
  if isComplete pieces then .ok (print pieces) else .error .crash

end ProtoRest.Code
