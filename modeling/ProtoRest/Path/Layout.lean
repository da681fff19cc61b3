import Mathlib.Data.List.Forall2
import ProtoRest.Path.Written

/-! # Layouts of templates
A path is laid out as a row of **pieces**: slashes, texts outside braces, and pairs of braces. Reading a
path skips the slashes, so many rows hold the same elements. `Written.IsSpelledBy` is the notation
with what is tolerated in it: the first slash may be missing, slashes may be repeated, and one may
stand at the end. `Written.IsWrittenIn` asks only that the elements stand in the text in order. -/

namespace ProtoRest.Path

open ProtoRest.Text

/-! ## Pieces -/

/-- A piece of a path. -/
inductive Piece
  /-- A slash. -/
  | slash
  /-- A text outside braces. -/
  | text (s : List Char)
  /-- A pair of braces, with what stands between them. -/
  | braces (body : List Char)
  deriving DecidableEq, Repr

/-- The text of a piece. -/
def Piece.spelled : Piece → List Char
  | .slash => ['/']
  | .text s => s
  | .braces body => '{' :: body ++ ['}']

/-- The text of a row of pieces. -/
def spell (pieces : List Piece) : List Char := pieces.flatMap Piece.spelled

@[simp] theorem spell_nil : spell [] = [] := rfl

@[simp] theorem spell_cons (piece : Piece) (pieces : List Piece) :
    spell (piece :: pieces) = piece.spelled ++ spell pieces := rfl

/-- The text of two rows of pieces is that of the first and then that of the second. -/
theorem spell_append (front back : List Piece) : spell (front ++ back) = spell front ++ spell back :=
  List.flatMap_append

/-- Whether a piece is a slash. -/
def Piece.isSlash : Piece → Bool
  | .slash => true
  | .text _ | .braces _ => false

/-- Whether a piece is a text. -/
def Piece.isText : Piece → Bool
  | .text _ => true
  | .slash | .braces _ => false

/-- Whether no two texts are neighbours; two that were would be one. -/
def IsRow (pieces : List Piece) : Prop :=
  pieces.IsChain fun p q => ¬(p.isText = true ∧ q.isText = true)

/-- Whether a slash stands between any two elements. -/
def IsSpaced (pieces : List Piece) : Prop :=
  pieces.IsChain fun p q => p.isSlash = true ∨ q.isSlash = true

/-! ## Elements in pieces -/

/-- A text that is matched verbatim: it is not empty and has no character of the notation. -/
def isLiteral (s : List Char) : Bool :=
  !s.isEmpty && s.all fun c => !(['/', '{', '}', '*'].contains c)

/-- Whether a part of a pattern can stand in a text. -/
def Part.IsLegal : Part → Prop
  | .text s => isLiteral s = true
  | .one | .many => True

/-- Whether an element can stand in a text; a colon outside braces would start the verb. -/
def Element.IsLegal : Element → Prop
  | .part (.text s) => isLiteral s = true ∧ ':' ∉ s
  | .part .one | .part .many => True
  | .variable name none => isVariableText name = true
  | .variable name (some parts) =>
    isVariableText name = true ∧ parts ≠ [] ∧ ∀ part ∈ parts, part.IsLegal

instance : DecidablePred Part.IsLegal
  | .text s => inferInstanceAs (Decidable (isLiteral s = true))
  | .one | .many => .isTrue trivial

instance : DecidablePred Element.IsLegal
  | .part (.text s) => inferInstanceAs (Decidable (isLiteral s = true ∧ ':' ∉ s))
  | .part .one | .part .many => .isTrue trivial
  | .variable name none => inferInstanceAs (Decidable (isVariableText name = true))
  | .variable name (some parts) => inferInstanceAs (Decidable (isVariableText name = true ∧
      parts ≠ [] ∧ ∀ part ∈ parts, part.IsLegal))

/-- Whether a template can stand in a text. -/
structure Written.IsLegal (w : Written) : Prop where
  /-- Every element can. -/
  elements : ∀ e ∈ w.elements, e.IsLegal
  /-- The verb is one. -/
  verb : ∀ verb ∈ w.verb, isVerb verb = true

/-- Whether a piece writes an element. Blanks around the name and around the pattern of a variable do
not count, nor do further slashes in the pattern. -/
def Piece.Writes : Piece → Element → Prop
  | .text s, .part p => s = p.spelled
  | .braces body, .variable name none => trim body = name
  | .braces body, .variable name (some parts) =>
    ∃ front back, body = front ++ '=' :: back ∧ trim front = name ∧
      (splitAt '/' (trim back)).filter (· ≠ []) = parts.map Part.spelled
  | _, _ => False

/-- The piece that is an element as it is spelled. -/
def Element.piece : Element → Piece
  | .part p => .text p.spelled
  | .variable name none => .braces name
  | .variable name (some parts) => .braces (name ++ '=' :: joinWith ['/'] (parts.map Part.spelled))

/-! ## Templates in texts -/

/-- A verb as it is spelled. -/
def verbText : Option (List Char) → List Char
  | none => []
  | some verb => ':' :: verb

/-- Whether the elements of a template stand in a row of pieces, in order and nothing else. -/
def Written.IsLaidOut (w : Written) (pieces : List Piece) : Prop :=
  List.Forall₂ Piece.Writes (pieces.filter (!·.isSlash)) w.elements

/-- Whether a text holds a template: its elements in order, with slashes before, between and after
them, and its verb. -/
def Written.IsWrittenIn (w : Written) (text : List Char) : Prop :=
  ∃ pieces, w.IsLaidOut pieces ∧ IsRow pieces ∧ text = spell pieces ++ verbText w.verb

/-- Whether a text is a template in the notation: its elements with slashes between any two of them,
and its verb right behind the last. -/
def Written.IsSpelledBy (w : Written) (text : List Char) : Prop :=
  ∃ pieces, w.IsLaidOut pieces ∧ IsSpaced pieces ∧
    (w.verb.isSome → pieces.getLast? ≠ some .slash) ∧ text = spell pieces ++ verbText w.verb

/-- Whether a row has the elements of a template as they are spelled, and slashes between any two of
them. -/
def Written.IsSpread (w : Written) (pieces : List Piece) : Prop :=
  pieces.filter (!·.isSlash) = w.elements.map Element.piece ∧ IsSpaced pieces

/-! ## Well-formed templates
What holds of a template once it has been read: what its texts, its names and its verb are made of, and
where a parameter for the rest of a path and a verb can stand. -/

/-- The braces of a text. -/
def bracesOf (text : List Char) : List Char := text.filter fun c => c == '{' || c == '}'

/-- Whether the braces of a text come in pairs: none is left over and none stands inside another. -/
def HasPairedBraces (text : List Char) : Prop :=
  ∃ n, bracesOf text = (List.replicate n ['{', '}']).flatten

/-- Whether a segment is one of a route: its text is not empty and has no slash, brace or star, or its
parameter has a name. -/
def Segment.IsWellFormed : Segment → Prop
  | .literal text => isLiteral text.toList = true
  | .param name | .catchAll name => isName name.toList = true

/-- Whether a template is one that can be routed and written. -/
structure Template.IsWellFormed (t : Template) : Prop where
  /-- Every segment is well formed. -/
  segments : ∀ s ∈ t.segments, s.IsWellFormed
  /-- No name is bound twice. -/
  names_nodup : t.parameters.Nodup
  /-- What binds the rest of a path is the last segment. -/
  catchAll_last : ∀ s ∈ t.segments.dropLast, s.isCatchAll = false
  /-- A verb is one, and follows a text. -/
  verb : ∀ verb ∈ t.verb, isVerb verb.toList = true ∧ endsInLiteral t.segments = true

end ProtoRest.Path
