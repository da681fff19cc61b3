import ProtoRest.Path.Matching
import ProtoRest.Path.Parse

/-! # Templates as they are written
A written template is a list of **elements** with a slash before each: texts, wildcards and
variables, which may have a pattern of texts and wildcards. `Written.text` spells it,
`Written.segments` says what its elements become in a route, and `Written.IsRoutable` when it has a
route at all. `Written.Matches` is its own meaning: a variable matches what its pattern does. -/

namespace ProtoRest.Path

open ProtoRest.Text

/-- A text or a wildcard. -/
inductive Part
  /-- A text that stands for itself. -/
  | text (s : List Char)
  /-- A star: one segment. -/
  | one
  /-- Two stars: one segment or more. -/
  | many
  deriving DecidableEq, Repr

/-- What stands between two slashes outside braces. -/
inductive Element
  /-- A text or a wildcard. -/
  | part (part : Part)
  /-- A variable, perhaps with a pattern. -/
  | variable (name : List Char) (pattern : Option (List Part))
  deriving DecidableEq, Repr

/-- A template as it is written. -/
structure Written where
  /-- The elements in order. -/
  elements : List Element
  /-- What follows the colon. -/
  verb : Option (List Char)
  deriving DecidableEq, Repr

/-! ## Spelling -/

/-- The text of a part. -/
def Part.spelled : Part → List Char
  | .text s => s
  | .one => ['*']
  | .many => ['*', '*']

/-- The text of an element. -/
def Element.spelled : Element → List Char
  | .part p => p.spelled
  | .variable name none => '{' :: name ++ ['}']
  | .variable name (some parts) =>
    '{' :: name ++ '=' :: joinWith ['/'] (parts.map Part.spelled) ++ ['}']

/-- The text of a template. -/
def Written.text (w : Written) : List Char :=
  w.elements.flatMap (fun e => '/' :: e.spelled) ++
    match w.verb with
    | none => []
    | some verb => ':' :: verb

/-! ## Well-formed templates -/

/-- A text that can stand for itself: it is not empty and has no blank and no character of the
notation. -/
def isPlainText (s : List Char) : Bool :=
  !s.isEmpty && s.all fun c => !isBlank c && !(['/', '{', '}', '*', ':'].contains c)

/-- A text between the braces of a variable: it has no blank, no brace and no equals sign. -/
def isVariableText (s : List Char) : Bool :=
  s.all fun c => !isBlank c && !(['{', '}', '='].contains c)

/-- Whether a part is well formed. -/
def Part.IsWellFormed : Part → Prop
  | .text s => isPlainText s = true
  | .one | .many => True

/-- Whether an element is well formed. -/
def Element.IsWellFormed : Element → Prop
  | .part p => p.IsWellFormed
  | .variable name none => isVariableText name = true
  | .variable name (some parts) =>
    isVariableText name = true ∧ parts ≠ [] ∧ ∀ part ∈ parts, part.IsWellFormed

instance : DecidablePred Part.IsWellFormed
  | .text s => inferInstanceAs (Decidable (isPlainText s = true))
  | .one | .many => .isTrue trivial

instance : DecidablePred Element.IsWellFormed
  | .part p => inferInstanceAs (Decidable p.IsWellFormed)
  | .variable name none => inferInstanceAs (Decidable (isVariableText name = true))
  | .variable name (some parts) => inferInstanceAs (Decidable (isVariableText name = true ∧
      parts ≠ [] ∧ ∀ part ∈ parts, part.IsWellFormed))

/-- Whether a template is well formed. -/
structure Written.IsWellFormed (w : Written) : Prop where
  /-- There is an element. -/
  elements_ne_nil : w.elements ≠ []
  /-- Every element is well formed. -/
  elements : ∀ e ∈ w.elements, e.IsWellFormed
  /-- The verb is one. -/
  verb : ∀ verb ∈ w.verb, isVerb verb = true

/-! ## Routes of written templates -/

/-- The segments of a pattern: the texts before the first wildcard, and there a parameter, which
takes one segment if a single star is the end of the pattern, and the rest otherwise. -/
def segmentsOfParts (name : String) : List Part → List Segment
  | [] => []
  | .text s :: parts => .literal (String.ofList s) :: segmentsOfParts name parts
  | [.one] => [.param name]
  | _ :: _ => [.catchAll name]

/-- The segments of an element; a wildcard outside a variable has none. -/
def Element.segments : Element → List Segment
  | .part (.text s) => [.literal (String.ofList s)]
  | .part .one | .part .many => []
  | .variable name none => [.param (String.ofList name)]
  | .variable name (some parts) => segmentsOfParts (String.ofList name) parts

/-- The segments of a template. -/
def Written.segments (w : Written) : List Segment := w.elements.flatMap Element.segments

/-- The template that a template with a route is read as. -/
def Written.template (w : Written) : Template := ⟨w.segments, w.verb.map String.ofList⟩

/-- A part that is no text. -/
def Part.isWildcard : Part → Bool
  | .text _ => false
  | .one | .many => true

/-- The name that an element binds: a variable without a pattern binds its name, and one with a
pattern does if there is a wildcard in it. -/
def Element.binds? : Element → Option (List Char)
  | .part _ => none
  | .variable name none => some name
  | .variable name (some parts) => if parts.any Part.isWildcard then some name else none

/-- Whether an element can be routed: it is no wildcard, and the name of a variable is a name. -/
def Element.IsRoutable : Element → Prop
  | .part (.text _) => True
  | .part .one | .part .many => False
  | .variable name _ => isName name = true

instance : DecidablePred Element.IsRoutable
  | .part (.text _) => .isTrue trivial
  | .part .one | .part .many => .isFalse id
  | .variable name _ => inferInstanceAs (Decidable (isName name = true))

/-- Whether a segment binds the rest of a path. -/
def Segment.isCatchAll : Segment → Bool
  | .catchAll _ => true
  | .literal _ | .param _ => false

/-- Whether a template has a route. -/
structure Written.IsRoutable (w : Written) : Prop where
  /-- Every element can be routed. -/
  elements : ∀ e ∈ w.elements, e.IsRoutable
  /-- What binds the rest of a path is the last segment. -/
  catchAll_last : ∀ s ∈ w.segments.dropLast, s.isCatchAll = false
  /-- No name is bound twice. -/
  names_nodup : (w.elements.filterMap Element.binds?).Nodup
  /-- A verb follows a text. -/
  verb_literal : w.verb.isSome → endsInLiteral w.segments = true

/-! ## Meaning -/

/-- Whether a part matches a stretch of a path. -/
def Part.Matches : Part → RequestPath → Prop
  | .text s, path => path = [String.ofList s]
  | .one, path => path.length = 1
  | .many, path => path ≠ []

/-- Whether an element matches a stretch of a path. -/
def Element.Matches : Element → RequestPath → Prop
  | .part p, path => p.Matches path
  | .variable _ none, path => path.length = 1
  | .variable _ (some parts), path => MatchesInOrder Part.Matches parts path

/-- Whether a template matches a path. -/
def Written.Matches (w : Written) (path : RequestPath) : Prop :=
  ∃ plain, MatchesInOrder Element.Matches w.elements plain ∧
    path = withVerb (w.verb.map String.ofList) plain

/-- Whether a pattern keeps its meaning in a route: it has no wildcard but perhaps one at its
end. -/
def Element.IsExact : Element → Prop
  | .variable _ (some parts) => ∀ part ∈ parts.dropLast, part.isWildcard = false
  | .part _ | .variable _ none => True

end ProtoRest.Path
