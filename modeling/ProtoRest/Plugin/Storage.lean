import ProtoRest.Descriptor.Origin
import ProtoRest.Plugin.Job
import ProtoRest.Route.BindingOfRule

/-! # How messages store their fields
A generated message stores a field as a list or a map, as an option, or plainly. What decides is how
the field is declared and, when it may be left out, the edition of its file. Nothing is said here
about the members of choices, which are stored together, and about the boxes around messages that
contain themselves. `Job.storage?` says how the messages of a job store their fields. -/

namespace ProtoRest.Plugin

open ProtoRest.Descriptor ProtoRest.Route ProtoRest.Schema

/-- How a message stores a field, with the types of its values. -/
inductive Storage
  /-- As a value. -/
  | plain (type : String)
  /-- As a value or nothing. -/
  | option (type : String)
  /-- As any number of values. -/
  | list (type : String)
  /-- As values by their keys. -/
  | map (key value : String)
  deriving DecidableEq, Repr

/-- The type of a stored field. -/
def Storage.type : Storage → String
  | plain type => type
  | option type => optionType type
  | list type => listType type
  | map key value => mapType key value

/-- How a field that is no member of a choice is stored in a message of a file of an edition. A value
may be left out when the field is marked as optional, and when it is declared to occur at most once
and is a message or of the second edition. -/
def storageOf (l : Loader) (edition : Edition) (f : FieldType) : Except Failure Storage := do
  match l.pool.mapEntry? f with
  | some entry => return .map (← l.entryKind entry 1).codeType (← l.entryKind entry 2).codeType
  | none =>
    let type := (← l.kind f.type).codeType
    if f.isRepeated then return .list type
    else if f.marked || (f.cardinality == .optional &&
        (f.type.isMessage || edition == .second)) then return .option type
    else return .plain type

/-- Whether a field is a message that may not be left out. -/
def isRequiredMessage (f : FieldType) : Bool :=
  f.cardinality == .required && !f.marked && f.type.isMessage

namespace Job

variable (j : Job)

/-- The edition of the file that declares a message. -/
def edition? (message : String) : Option Edition := do
  let files ← (j.request.declarations.mapM FileDecl.read).toOption
  editionOf? files message

/-- The field of a message with a name. -/
def field? (message name : String) : Option FieldType := do
  let m ← j.pool.message? message
  m.fields.find? (·.name == name)

/-- How a field of a message is stored, as a file sees it, unless the field is a member of a
choice. -/
def storage? (path message name : String) : Option Storage := do
  let file ← j.pool.file? path
  let edition ← j.edition? message
  let f ← j.field? message name
  if f.oneof.isSome && !f.marked then none
  else (storageOf ⟨j.pool, file⟩ edition f).toOption

/-- Whether a field of a message is itself a message that may not be left out. -/
def requiresMessage (message name : String) : Bool :=
  (j.field? message name).any isRequiredMessage

end Job

end ProtoRest.Plugin
