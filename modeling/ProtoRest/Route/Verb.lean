import ProtoRest.Text.Blank

/-! # HTTP verbs -/

namespace ProtoRest.Route

open ProtoRest.Text

/-- The HTTP methods that a binding can answer. -/
inductive Verb
  /-- Read. -/
  | get
  /-- Create or act. -/
  | post
  /-- Replace. -/
  | put
  /-- Change in part. -/
  | patch
  /-- Remove. -/
  | delete
  /-- Read without a body; through a custom pattern only. -/
  | head
  /-- Ask what is allowed; through a custom pattern only. -/
  | options
  /-- Loop back; through a custom pattern only. -/
  | trace
  deriving DecidableEq, Repr

namespace Verb

/-- All verbs. -/
def all : List Verb := [.get, .post, .put, .patch, .delete, .head, .options, .trace]

/-- The name of the method. -/
def name : Verb → String
  | .get => "GET"
  | .post => "POST"
  | .put => "PUT"
  | .patch => "PATCH"
  | .delete => "DELETE"
  | .head => "HEAD"
  | .options => "OPTIONS"
  | .trace => "TRACE"

/-- The name of the router's function for the method. -/
def routingName : Verb → String
  | .get => "get"
  | .post => "post"
  | .put => "put"
  | .patch => "patch"
  | .delete => "delete"
  | .head => "head"
  | .options => "options"
  | .trace => "trace"

/-- Different verbs have different routing functions. -/
theorem routingName_inj {v w : Verb} : v.routingName = w.routingName ↔ v = w := by
  refine ⟨fun h => ?_, congrArg routingName⟩
  cases v <;> cases w <;> first | rfl | exact absurd h (by decide)

/-- Whether the documentation lists a request body for the method. -/
def carriesBody : Verb → Bool
  | .get | .head | .delete | .options => false
  | .post | .put | .patch | .trace => true

/-- The verb with a name, in any case and with blanks around it. -/
def ofName? (text : String) : Option Verb :=
  let name := String.ofList ((trim text.toList).map Char.toUpper)
  all.find? (·.name == name)

/-- A verb that only a custom pattern can give. -/
def isCustom : Verb → Bool
  | .head | .options | .trace => true
  | .get | .post | .put | .patch | .delete => false

end Verb

end ProtoRest.Route
