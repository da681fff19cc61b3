import ProtoRest.Annotation.Extension
import ProtoRest.Descriptor.Complete
import ProtoRest.Schema.TypePath
import ProtoRest.Text.Blank

/-! # Loading files
A file of a pool, with its annotations read. Services come first, then the enums at the top, then
the enums in messages, each message before the messages in it. The first annotation that cannot be
understood is the fault of the file. -/

namespace ProtoRest.Schema

open ProtoRest.Annotation ProtoRest.Descriptor

/-- What a file is loaded from. -/
structure Loader where
  /-- The pool. -/
  pool : Pool
  /-- The file. -/
  file : FileType

namespace Loader

/-- The fault of options that cannot be understood. -/
def fault (l : Loader) (message : String) : Failure := .fault (.options l.file.name message)

/-- An annotation of something with a name. -/
def annotation {α : Type} (l : Loader) (owner : String) (read : Except String α) :
    Except Failure α :=
  read.mapError fun message => l.fault (owner ++ message)

/-- What stands before the text about an annotation. -/
def owned (name : String) : String := name ++ ": "

/-- The comment before a place, on one line. -/
def comment (l : Loader) (path : List Int) : String :=
  match l.file.locations.find? (·.path == path) with
  | none => ""
  | some location => String.ofList (Text.flatten (location.leading.getD "").toList)

/-! ## Fields -/

/-- A message as the file refers to it. -/
def messageRef (l : Loader) (m : MessageType) : TypeRef :=
  ⟨m.fullName, m.name, typePath l.file.package m.package m.fullName⟩

/-- An enum as the file refers to it. -/
def enumRef (l : Loader) (e : EnumType) : TypeRef :=
  ⟨e.fullName, e.name, typePath l.file.package e.package e.fullName⟩

/-- The kind of a scalar type. -/
def scalarKind : ScalarType → ScalarKind
  | .double => .double
  | .float => .float
  | .int32 | .sint32 | .sfixed32 => .int32
  | .int64 | .sint64 | .sfixed64 => .int64
  | .uint32 | .fixed32 => .uint32
  | .uint64 | .fixed64 => .uint64
  | .bool => .bool
  | .string => .string
  | .bytes => .bytes

/-- The kind of a type of values; every name in a pool stands for something. -/
def kind (l : Loader) : ValueType → Except Failure FieldKind
  | .scalar type => .ok (.scalar (scalarKind type))
  | .enum name =>
    match l.pool.enum? name with
    | none => .error .crash
    | some e => .ok (.enum (l.enumRef e))
  | .message name _ =>
    match l.pool.message? name with
    | none => .error .crash
    | some m => .ok (.message (l.messageRef m))

/-- The kind of a field of a map entry; an entry without it stops the work. -/
def entryKind (l : Loader) (entry : MessageType) (number : Nat) : Except Failure FieldKind :=
  match entry.field? number with
  | none => .error .crash
  | some f => l.kind f.type

/-- Whether a field holds one value or none. -/
def isOptional (f : FieldType) : Bool :=
  let isMessage :=
    match f.type with
    | .message _ _ => true
    | .scalar _ | .enum _ => false
  f.marked || (f.cardinality == .optional && f.presence && f.oneof.isNone && !isMessage)

/-- How a field holds its values. -/
def label (l : Loader) (f : FieldType) : Except Failure FieldLabel := do
  match l.pool.mapEntry? f with
  | some entry => return .map (← l.entryKind entry 1) (← l.entryKind entry 2)
  | none =>
    if f.isRepeated then return .repeated
    else if isOptional f then return .optional
    else return .singular

/-- A field of a message. -/
def field (l : Loader) (f : FieldType) : Except Failure Field := do
  let label ← l.label f
  let kind ← l.kind f.type
  return { name := f.name
           number := f.number
           kind
           label
           -- a field that is marked as optional is the only member of a choice that nobody wrote
           oneof := if f.marked then none else f.oneof }

/-- A message by its full name. -/
def message (l : Loader) (name : String) : Except Failure Message := do
  match l.pool.message? name with
  | none => throw .crash
  | some m =>
    let fields ← m.fields.mapM l.field
    return { type := l.messageRef m, fields }

/-! ## Services -/

/-- The place of a service. -/
def servicePath (index : Nat) : List Int := [6, index]

/-- The place of a method. -/
def methodPath (service method : Nat) : List Int := servicePath service ++ [2, (method : Int)]

/-- A method at a place. -/
def method (l : Loader) (path : List Int) (m : MethodType) : Except Failure Method := do
  let options := Options.of l.pool .method m.options
  let rule ← l.annotation (owned m.fullName) (options.message? ruleName HttpRule.read)
  let auth ← l.annotation (owned m.fullName) (options.bool authName)
  let authLine ← l.annotation (owned m.fullName) (options.text? authLineName)
  -- the annotations are read before the messages, whose maps can stop the work
  let input ← l.message m.input
  let output ← l.message m.output
  return { name := m.name
           fullName := m.fullName
           comment := l.comment path
           input
           output
           rule
           auth
           authLine
           clientStreaming := m.clientStreaming
           serverStreaming := m.serverStreaming }

/-- A service at a position. -/
def service (l : Loader) (index : Nat) (s : ServiceType) : Except Failure Service := do
  let options := Options.of l.pool .service s.options
  -- the text of this fault does not start with the name of the service
  let auth ← l.annotation "" (options.bool serviceAuthName)
  let methods ← s.methods.zipIdx.mapM fun (m, i) => l.method (methodPath index i) m
  return { name := s.name
           fullName := s.fullName
           comment := l.comment (servicePath index)
           auth
           methods }

/-! ## Enums -/

/-- Checks a status that is set. -/
def checkStatus (l : Loader) (owner : String) (status : Option Int) : Except Failure Unit :=
  match status with
  | none => .ok ()
  | some n => if isStatus n then .ok () else .error (l.fault (statusMessage owner n))

/-- The check of a status passes when there is none or when it lies in the range. -/
theorem checkStatus_eq_ok_iff {l : Loader} {owner : String} {status : Option Int} {u : Unit} :
    l.checkStatus owner status = .ok u ↔ ∀ n ∈ status, isStatus n = true := by
  cases status with
  | none => simp [checkStatus]
  | some n => simp [checkStatus]

/-- A value of an enum. -/
def enumValue (l : Loader) (v : EnumValueType) : Except Failure EnumValue := do
  let options := Options.of l.pool .enumValue v.options
  let error ←
    l.annotation (owned v.fullName) (options.message? errorOptionsName ErrorOptions.read)
  l.checkStatus v.fullName (error.bind (·.status))
  return { name := v.name, number := v.number, error }

/-- An enum at a place. -/
def enum (l : Loader) (path : List Int) (e : EnumType) : Except Failure Enum := do
  let options := Options.of l.pool .enum e.options
  let defaultStatus ← l.annotation (owned e.fullName) (options.int32? defaultStatusName)
  l.checkStatus e.fullName defaultStatus
  let values ← e.values.mapM l.enumValue
  return { name := e.name
           fullName := e.fullName
           path := (l.enumRef e).path
           comment := l.comment path
           defaultStatus
           values }

/-- The place of an enum at the top. -/
def enumPath (index : Nat) : List Int := [5, index]

/-- The place of a message at the top. -/
def messagePath (index : Nat) : List Int := [4, index]

mutual

/-- The enums in a message at a place, with their places. -/
def enumsIn (path : List Int) : MessageTree → List (List Int × EnumType)
  | .mk type nested =>
    if type.mapEntry then []
    else
      type.enums.zipIdx.map (fun (e, i) => (path ++ [4, (i : Int)], e)) ++
        enumsInAll path 0 nested

/-- The enums in messages in a message at a place, given the position of the first one. -/
def enumsInAll (path : List Int) (index : Nat) : List MessageTree → List (List Int × EnumType)
  | [] => []
  | t :: ts => enumsIn (path ++ [3, (index : Int)]) t ++ enumsInAll path (index + 1) ts

end

/-- The enums of a file with their places: those at the top, then those in messages. -/
def enums (f : FileType) : List (List Int × EnumType) :=
  f.enums.zipIdx.map (fun (e, i) => (enumPath i, e)) ++
    f.messages.zipIdx.flatMap fun (t, i) => enumsIn (messagePath i) t

/-! ## Files -/

/-- The file with its annotations read. -/
def load (l : Loader) : Except Failure File := do
  let services ← l.file.services.zipIdx.mapM fun (s, i) => l.service i s
  let enums ← (enums l.file).mapM fun (path, e) => l.enum path e
  return { name := l.file.name, package := l.file.package, services, enums }

end Loader

end ProtoRest.Schema
