import ProtoRest.Code.Layout
import ProtoRest.Text.Blank

/-! # Comments of generated code
A text of one line is a line comment; one of several lines is a block comment if it can stand in
one. -/

namespace ProtoRest.Code

open ProtoRest.Text

/-- How deep block comments are open after a text; nothing when one is closed that is not open. -/
def commentDepth (depth : Nat) : List Char → Option Nat
  | [] => some depth
  | '/' :: '*' :: cs => commentDepth (depth + 1) cs
  | '*' :: '/' :: cs => if depth = 0 then none else commentDepth (depth - 1) cs
  | _ :: cs => commentDepth depth cs

/-- Whether a text can stand in a block comment. -/
def fitsBlockComment (text : List Char) : Bool :=
  commentDepth 0 text == some 0 && text.getLast? != some '/'

/-- A text without the blanks at its end. -/
def trimSpacesEnd (cs : List Char) : List Char := (cs.reverse.dropWhile (· == ' ')).reverse

/-- A text without the blanks before its line feeds. -/
def trimInnerSpaces : List (List Char) → List (List Char)
  | [] => []
  | [l] => [l]
  | l :: next :: ls => trimSpacesEnd l :: trimInnerSpaces (next :: ls)

/-- What comments start with, and what their text must not start with. -/
structure CommentStyle where
  /-- The start of a line comment. -/
  line : String
  /-- What the text of a line comment does not start with. -/
  notInLine : List Char
  /-- The start of a block comment. -/
  block : String
  /-- What the text of a block comment does not start with. -/
  notInBlock : List Char
  deriving DecidableEq, Repr

/-- Comments for the documentation. -/
def CommentStyle.doc : CommentStyle := ⟨"///", ['/'], "/**", ['*', '/']⟩

/-- Comments for the documentation of what they stand in. -/
def CommentStyle.docInside : CommentStyle := ⟨"//!", [], "/*!", []⟩

/-- Other comments. -/
def CommentStyle.plain : CommentStyle := ⟨"//", [], "/*", ['*', '!']⟩

/-- The comment with a text; nothing when no comment can hold it. -/
def CommentStyle.pieces? (style : CommentStyle) (text : String) : Option Pieces :=
  let cs := text.toList
  let startsIn (avoided : List Char) : Bool := cs.head?.any avoided.contains
  if '\n' ∉ cs ∧ !startsIn style.notInLine then
    some (word (style.line ++ String.ofList (trimSpacesEnd cs)) ++ hardGap)
  else if '\n' ∈ cs ∧ fitsBlockComment cs ∧ !startsIn style.notInBlock then
    some (word (style.block ++
      String.ofList (joinWith ['\n'] (trimInnerSpaces (splitAt '\n' cs))) ++ "*/") ++ hardGap)
  else none

end ProtoRest.Code
