import ProtoRest.Path.Template

/-! # Paths that a template matches
A request path is a list of segments that are not empty; the path of a slash alone is the empty
list. `Segment.Matches` says which stretch of a path a segment takes, and `Template.Matches` which
paths a template takes as a whole. `Template.canonical` writes a template so that it can be read
again: a parameter that binds the rest has the pattern of two stars. -/

namespace ProtoRest.Path

/-- The segments of a request path. -/
abbrev RequestPath := List String

/-- A path whose segments are not empty. -/
def IsRequestPath (path : RequestPath) : Prop := ∀ s ∈ path, s ≠ ""

/-- Whether stretches that the elements of a list match, one after the other, make up a path. -/
def MatchesInOrder {α : Type} (matchesOne : α → RequestPath → Prop) :
    List α → RequestPath → Prop
  | [], path => path = []
  | a :: as, path =>
    ∃ front back, path = front ++ back ∧ matchesOne a front ∧ MatchesInOrder matchesOne as back

@[simp] theorem matchesInOrder_nil {α : Type} (matchesOne : α → RequestPath → Prop)
    (path : RequestPath) : MatchesInOrder matchesOne [] path ↔ path = [] := Iff.rfl

/-- A path with a verb after a colon at the end of its last segment. -/
def withVerb (verb : Option String) (path : RequestPath) : RequestPath :=
  match verb, path.getLast? with
  | some verb, some last => path.dropLast ++ [last ++ ":" ++ verb]
  | _, _ => path

@[simp] theorem withVerb_none (path : RequestPath) : withVerb none path = path := rfl

/-- Whether a segment matches a stretch of a path. -/
def Segment.Matches : Segment → RequestPath → Prop
  | .literal text, path => path = [text]
  | .param _, path => path.length = 1
  | .catchAll _, path => path ≠ []

/-- Whether a template matches a path. -/
def Template.Matches (t : Template) (path : RequestPath) : Prop :=
  ∃ plain, MatchesInOrder Segment.Matches t.segments plain ∧ path = withVerb t.verb plain

/-! ## Canonical text -/

/-- A segment as a template can hold it. -/
def Segment.canonical : Segment → String
  | .literal text => text
  | .param name => "\x7b" ++ name ++ "\x7d"
  | .catchAll name => "\x7b" ++ name ++ "=**\x7d"

/-- The text of a template. -/
def Template.canonical (t : Template) : String := t.write Segment.canonical

end ProtoRest.Path
