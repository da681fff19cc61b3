import ProtoRest.Schema.Field
import ProtoRest.Schema.HttpRule

/-! # Schema files
The parts of a schema file that code is generated from: services with their methods, the messages
that the methods exchange, and enums with their values. -/

namespace ProtoRest.Schema

/-- A message with its fields. -/
structure Message where
  /-- The type. -/
  type : TypeRef
  /-- The fields in declaration order. -/
  fields : List Field
  deriving DecidableEq, Repr

/-- The first field of a name. -/
def Message.field? (m : Message) (name : String) : Option Field :=
  m.fields.find? (·.name == name)

/-- A remote method. -/
structure Method where
  /-- The last part of the name. -/
  name : String
  /-- The name with package and service. -/
  fullName : String
  /-- The comment before the declaration. -/
  comment : String
  /-- What the method takes. -/
  input : Message
  /-- What the method gives back. -/
  output : Message
  /-- How the method is bound to HTTP. -/
  rule : Option HttpRule
  /-- Whether callers have to be authenticated. -/
  auth : Bool
  /-- A documentation line for the authentication of this method. -/
  authLine : Option String
  /-- Whether callers send a stream. -/
  clientStreaming : Bool
  /-- Whether callers get a stream. -/
  serverStreaming : Bool
  deriving DecidableEq, Repr

/-- The rules that a method is annotated with. -/
def Method.annotated (m : Method) : List HttpRule := m.rule.toList.flatMap (·.all)

/-- The rules of a method; a method that streams in a direction has none. -/
def Method.rules (m : Method) : List HttpRule :=
  match m.rule with
  | none => []
  | some rule => if m.clientStreaming || m.serverStreaming then [] else rule.all

/-- Whether a method is bound: it is annotated and streams in neither direction. -/
def Method.isBound (m : Method) : Bool :=
  m.rule.isSome && !m.clientStreaming && !m.serverStreaming

/-- A method that is not bound has no rules. -/
theorem Method.rules_eq_nil {m : Method} (h : m.isBound = false) : m.rules = [] := by
  rw [Method.rules]
  cases hr : m.rule with
  | none => rfl
  | some rule =>
    have hstream : (m.clientStreaming || m.serverStreaming) = true := by
      cases hc : m.clientStreaming <;> cases hs : m.serverStreaming <;>
        simp [Method.isBound, hr, hc, hs] at h ⊢
    simp only [hstream, if_true]

/-- A bound method has all rules of its annotation. -/
theorem Method.rules_of_isBound {m : Method} (h : m.isBound = true) :
    ∃ rule, m.rule = some rule ∧ m.rules = rule.all := by
  rw [Method.isBound, Bool.and_eq_true, Bool.and_eq_true, Option.isSome_iff_exists] at h
  obtain ⟨⟨⟨rule, hr⟩, hc⟩, hs⟩ := h
  refine ⟨rule, hr, ?_⟩
  rw [Bool.not_eq_true'] at hc hs
  simp [Method.rules, hr, hc, hs]

/-- A streaming method has no rules, and every other one those it is annotated with. -/
theorem Method.rules_eq (m : Method) :
    m.rules = if m.clientStreaming || m.serverStreaming then [] else m.annotated := by
  rw [Method.rules, Method.annotated]
  cases m.rule <;> simp

/-- A group of methods. -/
structure Service where
  /-- The last part of the name. -/
  name : String
  /-- The name with the package. -/
  fullName : String
  /-- The comment before the declaration. -/
  comment : String
  /-- Whether callers of every method have to be authenticated. -/
  auth : Bool
  /-- The methods in declaration order. -/
  methods : List Method
  deriving DecidableEq, Repr

/-- Whether a service has a bound method. -/
def Service.isBound (s : Service) : Bool := s.methods.any Method.isBound

/-- The annotation of an enum value; each part may be absent. -/
structure ErrorOptions where
  /-- The HTTP status. -/
  status : Option Int := none
  /-- The code of the application. -/
  code : Option Int := none
  /-- The reason for machines. -/
  reason : Option String := none
  /-- The message for people. -/
  message : Option String := none
  deriving DecidableEq, Repr

/-- A value of an enum. -/
structure EnumValue where
  /-- The name. -/
  name : String
  /-- The number. -/
  number : Int
  /-- The annotation. -/
  error : Option ErrorOptions
  deriving DecidableEq, Repr

/-- An enum. -/
structure Enum where
  /-- The last part of the name. -/
  name : String
  /-- The name with package and parents. -/
  fullName : String
  /-- The path of the generated type from the package of the file. -/
  path : String
  /-- The comment before the declaration. -/
  comment : String
  /-- The status of values without one. -/
  defaultStatus : Option Int
  /-- The values in declaration order. -/
  values : List EnumValue
  deriving DecidableEq, Repr

/-- Whether an enum is annotated as a set of errors, as a whole or at one of its values. -/
def Enum.isErrorSet (e : Enum) : Bool :=
  e.defaultStatus.isSome || e.values.any (·.error.isSome)

/-- A schema file. -/
structure File where
  /-- The path of the file. -/
  name : String
  /-- The package of its declarations. -/
  package : String
  /-- The services in declaration order. -/
  services : List Service
  /-- The enums: those at the top in declaration order, then those in messages. -/
  enums : List Enum
  deriving DecidableEq, Repr

/-- A text without another at its end, when it is there. -/
def dropSuffix (ending : String) (s : String) : String :=
  if ending.toList.isSuffixOf s.toList then
    String.ofList (s.toList.take (s.toList.length - ending.toList.length))
  else s

/-- The path of a file without its extension. -/
def File.stem (f : File) : String := dropSuffix ".proto" f.name

/-! ## HTTP statuses
A status is a number of three digits that starts with one to five. -/

/-- Whether a number is an HTTP status. -/
def isStatus (status : Int) : Bool := 100 ≤ status && status ≤ 599

/-- The text about a number that is no HTTP status. -/
def statusMessage (owner : String) (status : Int) : String :=
  owner ++ ": status " ++ toString status ++ " is not a valid HTTP status code"

/-- A status lies between 100 and 599. -/
theorem isStatus_iff {status : Int} : isStatus status = true ↔ 100 ≤ status ∧ status ≤ 599 := by
  simp [isStatus]

end ProtoRest.Schema
