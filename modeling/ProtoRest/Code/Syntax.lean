import ProtoRest.Code.Token

/-! # Syntax of generated code
Types, patterns, expressions, statements and items as trees; they form one family, since types
mention constants, expressions mention types, and a block can hold items. What a macro or an attribute
is given stays a list of tokens. A few constructs have no layout; all of them are `unprintable`. An
attribute inside the brackets of what it is about is a statement or an item of its own there, `about`.
-/

namespace ProtoRest.Code

/-- A path of names without arguments. -/
structure PlainPath where
  /-- Whether it starts at the root. -/
  rooted : Bool
  /-- The names in order. -/
  names : List String
  deriving DecidableEq, Repr

/-- A call of a macro. -/
structure MacroCall where
  /-- The name of the macro. -/
  path : PlainPath
  /-- The brackets around what it is given. -/
  bracket : Bracket
  /-- What it is given. -/
  tokens : List Token
  /-- The name that it is to define, if there is one. -/
  defined : Option String := none
  deriving Repr

/-- What is imported. -/
inductive UseTree
  /-- Something under a name. -/
  | under (name : String) (tree : UseTree)
  /-- A name. -/
  | name (name : String)
  /-- A name that is called otherwise here. -/
  | rename (name other : String)
  /-- Everything. -/
  | everything
  /-- Several things. -/
  | group (trees : List UseTree)

/-- How the fields of a structure are written. -/
inductive FieldShape
  /-- There are none. -/
  | unit
  /-- In parentheses, without names. -/
  | tuple
  /-- In curly brackets, with names. -/
  | named
  deriving DecidableEq, Repr

mutual

/-- An attribute. -/
inductive Attr
  /-- A text for the documentation. -/
  | doc (text : String)
  /-- A name alone. -/
  | name (path : PlainPath)
  /-- A name with tokens in brackets. -/
  | list (path : PlainPath) (bracket : Bracket) (tokens : List Token)
  /-- A name with a value. -/
  | value (path : PlainPath) (value : Expr)

/-- What is introduced for a type or an item. -/
inductive GenericParam
  /-- A lifetime, with those that it outlives. -/
  | lifetime (attrs : List Attr) (name : String) (bounds : List String)
  /-- A type, with its bounds and what it stands for when it is not told. -/
  | type (attrs : List Attr) (name : String) (bounds : List Bound) (default : Option Ty)
  /-- A constant, with its type and its value when it is not told. -/
  | const (attrs : List Attr) (name : String) (ty : Ty) (default : Option Expr)

/-- A type. -/
inductive Ty
  /-- A path. -/
  | path (path : Path)
  /-- What a type, seen as another, holds under a name. -/
  | qualified (self : Ty) (as_ : Option Path) (rest : List Segment)
  /-- Types in parentheses; one alone has a comma after it. -/
  | tuple (elems : List Ty)
  /-- A type in parentheses. -/
  | paren (elem : Ty)
  /-- A reference. -/
  | reference (lifetime : Option String) (mutable : Bool) (elem : Ty)
  /-- A pointer. -/
  | pointer (mutable : Bool) (elem : Ty)
  /-- Any number of values in a row. -/
  | slice (elem : Ty)
  /-- A fixed number of values in a row. -/
  | array (elem : Ty) (length : Expr)
  /-- A function; `intro` is what stands before its keyword. -/
  | function (binder : Option (List GenericParam)) (intro : String) (inputs : List Input)
      (output : Option Ty)
  /-- Any value within bounds; `keyword` says whether the keyword was written, and `open_` whether a
  plus sign comes after the last bound. -/
  | object (keyword : Bool) (bounds : List Bound) (open_ : Bool)
  /-- One type within bounds that is not told. -/
  | impl (bounds : List Bound) (open_ : Bool)
  /-- The type without values. -/
  | never
  /-- A type that is left open. -/
  | infer
  /-- A type that a macro writes. -/
  | macroCall (call : MacroCall)
  /-- A type without a layout. -/
  | unprintable

/-- A path of names, starting at the root or not. -/
inductive Path
  /-- The segments in order. -/
  | mk (rooted : Bool) (segments : List Segment)

/-- A name of a path with its arguments. -/
inductive Segment
  /-- The name alone. -/
  | plain (name : String)
  /-- The name with arguments in angle brackets. -/
  | angle (name : String) (args : List Arg)
  /-- The name with arguments and a result, as of a function. -/
  | call (name : String) (inputs : List Ty) (output : Option Ty)

/-- An argument in angle brackets. -/
inductive Arg
  /-- A lifetime. -/
  | lifetime (name : String)
  /-- A type. -/
  | type (ty : Ty)
  /-- A constant. -/
  | const (value : Expr)
  /-- A type under a name. -/
  | assoc (segment : Segment) (ty : Ty)
  /-- A constant under a name. -/
  | assocConst (segment : Segment) (value : Expr)
  /-- Bounds for a name. -/
  | constraint (segment : Segment) (bounds : List Bound)

/-- A bound. -/
inductive Bound
  /-- A lifetime. -/
  | lifetime (name : String)
  /-- A trait, with its parentheses, its question mark and its own lifetimes. -/
  | trait (paren maybe : Bool) (binder : Option (List GenericParam)) (path : Path)
  /-- What a type that is not told depends on. -/
  | capture (names : List String)
  /-- A bound without a layout. -/
  | unprintable

/-- An input of a function or of a function type. -/
inductive Input
  /-- The value that a method is called on; `intro` is what stands before its keyword. -/
  | self (attrs : List Attr) (intro : String) (ty : Option Ty)
  /-- A type, with a pattern if it has one. -/
  | typed (attrs : List Attr) (pat : Option Pat) (ty : Ty)
  /-- Any number of further inputs, with a pattern if there is one. -/
  | rest (attrs : List Attr) (pat : Option Pat)

/-- A pattern. -/
inductive Pat
  /-- A name, and a pattern for the same value. -/
  | name (byRef mutable : Bool) (name : String) (sub : Option Pat)
  /-- A literal. -/
  | literal (text : String)
  /-- A path, which a type can stand for. -/
  | path (ty : Ty)
  /-- The values between two bounds. -/
  | range (start : Option Expr) (closed : Bool) (stop : Option Expr)
  /-- One of several patterns. -/
  | either (cases : List Pat)
  /-- Patterns in parentheses; `comma` says whether there is a comma after the last. -/
  | tuple (elems : List Pat) (comma : Bool)
  /-- A pattern in parentheses. -/
  | paren (inner : Pat)
  /-- What a reference leads to. -/
  | reference (mutable : Bool) (inner : Pat)
  /-- All the elements that are left. -/
  | rest
  /-- The elements of a row. -/
  | slice (elems : List Pat)
  /-- The fields of a structure. -/
  | struct (ty : Ty) (fields : List FieldPat)
  /-- The fields of a structure without names. -/
  | tupleStruct (ty : Ty) (elems : List Pat)
  /-- A pattern with its type. -/
  | typed (inner : Pat) (ty : Ty)
  /-- Anything. -/
  | wild
  /-- A pattern that a macro writes. -/
  | macroCall (call : MacroCall)
  /-- A constant that a block computes. -/
  | const (body : List Stmt)
  /-- A pattern with attributes. -/
  | attributed (attrs : List Attr) (inner : Pat)
  /-- A pattern without a layout. -/
  | unprintable

/-- A field in a pattern. -/
inductive FieldPat
  /-- The pattern for a field; a name without a pattern is bound under itself. -/
  | field (attrs : List Attr) (name : Option String) (pat : Pat)
  /-- All the fields that are left. -/
  | rest (attrs : List Attr)

/-- An expression. -/
inductive Expr
  /-- A literal as it is written. -/
  | literal (text : String)
  /-- A path, which a type can stand for. -/
  | path (ty : Ty)
  /-- Values in a row. -/
  | array (elems : List Expr)
  /-- A value over and over. -/
  | replicate (elem count : Expr)
  /-- Values in parentheses; one alone has a comma after it. -/
  | tuple (elems : List Expr)
  /-- An expression in parentheses. -/
  | paren (inner : Expr)
  /-- A call of a function. -/
  | call (function : Expr) (args : List Expr)
  /-- A call of a method. -/
  | method (receiver : Expr) (name : String) (types : List Arg) (args : List Expr)
  /-- A field. -/
  | field (base : Expr) (name : String)
  /-- An element of a row. -/
  | index (base position : Expr)
  /-- An awaited value. -/
  | await (base : Expr)
  /-- A value whose failure is passed on. -/
  | try_ (base : Expr)
  /-- An operator before its operand. -/
  | unary (operator : String) (base : Expr)
  /-- An operator between two operands. -/
  | binary (left : Expr) (operator : String) (right : Expr)
  /-- An assignment. -/
  | assign (left right : Expr)
  /-- A value seen as of another type. -/
  | cast (base : Expr) (ty : Ty)
  /-- The values between two bounds. -/
  | range (start : Option Expr) (closed : Bool) (stop : Option Expr)
  /-- A pattern to be matched, as a condition. -/
  | matches (pat : Pat) (value : Expr)
  /-- A choice by a condition; the other branch is a choice or a block. -/
  | ite (condition : Expr) (yes : List Stmt) (no : Option Expr)
  /-- A choice by patterns, with attributes inside its brackets. -/
  | switch (value : Expr) (about : List Attr) (arms : List Arm)
  /-- A block; `intro` is what stands before its bracket. -/
  | block (label : Option String) (intro : String) (body : List Stmt)
  /-- An endless loop. -/
  | loop (label : Option String) (body : List Stmt)
  /-- A loop under a condition. -/
  | while_ (label : Option String) (condition : Expr) (body : List Stmt)
  /-- A loop over values. -/
  | for_ (label : Option String) (pat : Pat) (values : Expr) (body : List Stmt)
  /-- A function without a name; `intro` is what stands before its inputs. -/
  | closure (binder : Option (List GenericParam)) (intro : String) (inputs : List Pat)
      (output : Option Ty) (body : Expr)
  /-- A structure. -/
  | struct (ty : Ty) (fields : List FieldValue)
  /-- A keyword that leaves a block, a loop or a function. -/
  | jump (keyword : String) (label : Option String) (value : Option Expr)
  /-- An expression that a macro writes. -/
  | macroCall (call : MacroCall)
  /-- An expression that is left open. -/
  | infer
  /-- An expression with attributes. -/
  | attributed (attrs : List Attr) (inner : Expr)
  /-- An expression without a layout. -/
  | unprintable

/-- A field of a structure that is built. -/
inductive FieldValue
  /-- A field; one without a value takes the value of its own name. -/
  | field (attrs : List Attr) (name : String) (value : Option Expr)
  /-- A structure that has the fields that are left. -/
  | rest (base : Expr)

/-- A branch of a choice by patterns. -/
inductive Arm
  /-- The attributes, the pattern, the condition and what is chosen. -/
  | mk (attrs : List Attr) (pat : Pat) (guard : Option Expr) (body : Expr)

/-- A statement. -/
inductive Stmt
  /-- A pattern for a value, and the block that is done when the value does not match. -/
  | bind (attrs : List Attr) (pat : Pat) (value otherwise : Option Expr)
  /-- An expression, with or without a semicolon. -/
  | expr (value : Expr) (semicolon : Bool)
  /-- Statements that a macro writes. -/
  | macroCall (attrs : List Attr) (call : MacroCall)
  /-- An item. -/
  | item (item : Item)
  /-- An attribute of what the statements are the body of. -/
  | about (attr : Attr)
  /-- A semicolon alone. -/
  | empty

/-- What has to hold for an item. -/
inductive Requirement
  /-- A lifetime outlives others. -/
  | lifetime (name : String) (bounds : List String)
  /-- A type is within bounds. -/
  | type (binder : Option (List GenericParam)) (ty : Ty) (bounds : List Bound)

/-- A field of a structure. -/
inductive StructField
  /-- The attributes, what stands before the name, the name if it has one, and the type. -/
  | mk (attrs : List Attr) (intro : String) (name : Option String) (ty : Ty)

/-- A variant of an enum. -/
inductive EnumVariant
  /-- The attributes, the name, the fields and the number. -/
  | mk (attrs : List Attr) (name : String) (shape : FieldShape) (fields : List StructField)
      (number : Option Expr)

/-- An item: what stands at the top of a file or in a block, and the members of traits,
implementations and foreign blocks. In each, `intro` is what stands before its name, keywords
included. -/
inductive Item
  /-- A constant or a static value. -/
  | value (attrs : List Attr) (intro name : String) (ty : Ty) (value : Option Expr)
  /-- A function with its body, which is a block; a member can be without one. -/
  | fn (attrs : List Attr) (intro name : String) (params : List GenericParam)
      (inputs : List Input) (output : Option Ty) (requirements : List Requirement)
      (body : Option Expr)
  /-- A type under another name; its requirements stand before the type that it stands for. -/
  | alias (attrs : List Attr) (intro name : String) (params : List GenericParam)
      (requirements : List Requirement) (ty : Ty)
  /-- A type that belongs to a trait or an implementation; its requirements stand at the end. -/
  | type (attrs : List Attr) (intro name : String) (params : List GenericParam)
      (bounds : List Bound) (ty : Option Ty) (requirements : List Requirement)
  /-- A type or a module that is defined elsewhere. -/
  | elsewhere (attrs : List Attr) (intro name : String) (params : List GenericParam)
  /-- A structure or a union. -/
  | struct (attrs : List Attr) (intro name : String) (params : List GenericParam)
      (shape : FieldShape) (fields : List StructField) (requirements : List Requirement)
  /-- An enum. -/
  | enum (attrs : List Attr) (intro name : String) (params : List GenericParam)
      (requirements : List Requirement) (variants : List EnumVariant)
  /-- A trait. -/
  | trait (attrs : List Attr) (intro name : String) (params : List GenericParam)
      (bounds : List Bound) (requirements : List Requirement) (members : List Item)
  /-- Bounds under a name. -/
  | traitAlias (attrs : List Attr) (intro name : String) (params : List GenericParam)
      (bounds : List Bound) (requirements : List Requirement)
  /-- An implementation for a type; `role` is the trait that is implemented, if there is one, and
  `negative` says that it is not. -/
  | impl (attrs : List Attr) (intro : String) (params : List GenericParam) (negative : Bool)
      (role : Option Path) (ty : Ty) (requirements : List Requirement) (members : List Item)
  /-- Items under a name. -/
  | mod (attrs : List Attr) (intro name : String) (items : List Item)
  /-- Items that are defined elsewhere. -/
  | foreign (attrs : List Attr) (intro : String) (members : List Item)
  /-- An import. -/
  | use (attrs : List Attr) (intro : String) (tree : UseTree)
  /-- Another crate, and what it is called here. -/
  | externCrate (attrs : List Attr) (intro name : String) (other : Option String)
  /-- Items that a macro writes. -/
  | macroCall (attrs : List Attr) (call : MacroCall)
  /-- An attribute of what the items are in. -/
  | about (attr : Attr)
  /-- An item without a layout. -/
  | unprintable

end

instance : Inhabited Ty := ⟨.never⟩

instance : Inhabited Expr := ⟨.infer⟩

instance : Inhabited Pat := ⟨.wild⟩

/-! ## Paths -/

/-- The text of a path without arguments. -/
def PlainPath.text (path : PlainPath) : String :=
  (if path.rooted then "::" else "") ++ "::".intercalate path.names

/-- Whether a path starts at the root. -/
def Path.rooted : Path → Bool
  | .mk rooted _ => rooted

/-- The segments of a path. -/
def Path.segments : Path → List Segment
  | .mk _ segments => segments

/-- A path of plain names from the root. -/
def Path.root (names : List String) : Path := .mk true (names.map .plain)

/-- A path of plain names. -/
def Path.relative (names : List String) : Path := .mk false (names.map .plain)

/-- The path with arguments for its last name, given the names before it. -/
def Path.generic (rooted : Bool) (names : List String) (last : String) (args : List Arg) : Path :=
  .mk rooted (names.map .plain ++ [.angle last args])

/-- The path without arguments; nothing when a segment has some. -/
def Path.plain? (path : Path) : Option PlainPath :=
  let names := path.segments.mapM fun
    | .plain name => some name
    | .angle _ _ | .call _ _ _ => none
  names.map (⟨path.rooted, ·⟩)

/-- A bound by a trait. -/
def Bound.of (path : Path) : Bound := .trait false false none path

/-! ## Imports -/

/-- Whether an import ends in several things. -/
def UseTree.endsInGroup : UseTree → Bool
  | .under _ tree => tree.endsInGroup
  | .group _ => true
  | .name _ | .rename _ _ | .everything => false

/-! ## Types, patterns and expressions -/

/-- A type of one name. -/
def Ty.named (name : String) : Ty := .path (.relative [name])

/-- Whether a type ends in a plus sign. -/
def Ty.isOpen : Ty → Bool
  | .object _ _ open_ | .impl _ open_ => open_
  | _ => false

/-- The type without values of interest. -/
def Ty.unit : Ty := .tuple []

/-- A pattern of one name. -/
def Pat.named (name : String) : Pat := .name false false name none

/-- An expression of one name. -/
def Expr.named (name : String) : Expr := .path (.named name)

/-- A block without a label. -/
def Expr.braces (body : List Stmt) : Expr := .block none "" body

/-- A statement that gives a value a name. -/
def Stmt.let_ (name : String) (value : Expr) : Stmt := .bind [] (.named name) (some value) none

/-- A documented line. -/
def Attr.docLine (line : String) : Attr := .doc (" " ++ line)

/-- What a branch stands for: a block of one expression for the expression, and the empty tuple for
the empty block. -/
def Expr.branch : Expr → Expr
  | .block none "" [.expr value false] => value.branch
  | .tuple [] => .braces []
  | e => e

/-- A branch of a choice by patterns. -/
def Arm.make (attrs : List Attr) (pat : Pat) (guard : Option Expr) (body : Expr) : Arm :=
  .mk attrs pat guard body.branch

end ProtoRest.Code
