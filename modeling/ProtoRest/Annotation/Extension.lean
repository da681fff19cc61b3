import ProtoRest.Annotation.Shown
import ProtoRest.Descriptor.OptionTypes
import ProtoRest.Fault
import ProtoRest.Schema.WireForm

/-! # Extensions
The extensions that annotate services, methods, enums and enum values. One that the schema does not
declare is absent; one with a value of another type than expected is an error of its file. -/

namespace ProtoRest.Annotation

open ProtoRest.Descriptor ProtoRest.Schema ProtoRest.Wire

/-- The rule of a method. -/
def ruleName : String := "google.api.http"

/-- The mark of a method that needs authentication. -/
def authName : String := "sphere.http.auth"

/-- The mark of a service that needs authentication. -/
def serviceAuthName : String := "sphere.http.service_auth"

/-- The documentation line for the authentication of a method. -/
def authLineName : String := "sphere.http.swagger_auth_header"

/-- The status of the errors of an enum. -/
def defaultStatusName : String := "sphere.errors.default_status"

/-- The annotation of an error. -/
def errorOptionsName : String := "sphere.errors.options"

/-- Settled options, with the pool and the type that they were read by. -/
structure Options where
  /-- The pool. -/
  pool : Pool
  /-- The full name of the type. -/
  message : String
  /-- The fields. -/
  fields : Fields

/-- The settled options of a declaration. -/
def Options.of (pool : Pool) (owner : OptionOwner) (fields : Fields) : Options :=
  ⟨pool, owner.fullName, fields⟩

/-- The value of an extension. -/
def Options.value? (o : Options) (extension : String) : Option Value := do
  let x ← o.pool.extension? extension
  let type ← o.pool.message? o.message
  let f ← o.pool.fieldOf? type x.field.number
  fieldValue o.pool f (Fields.values o.fields x.field.number)

/-- The text about a value of another type than expected. -/
def Options.unexpected (o : Options) (extension expected : String) (found : Value) : String :=
  "(" ++ extension ++ ") should be a " ++ expected ++ " value, found " ++ shown o.pool found

/-- The truth value of an extension, false when it is absent. -/
def Options.bool (o : Options) (extension : String) : Except String Bool :=
  match o.value? extension with
  | none => .ok false
  | some (.bool b) => .ok b
  | some v => .error (o.unexpected extension "bool" v)

/-- The text of an extension. -/
def Options.text? (o : Options) (extension : String) : Except String (Option String) :=
  match o.value? extension with
  | none => .ok none
  | some (.text s) => .ok (some s)
  | some v => .error (o.unexpected extension "string" v)

/-- The number of an extension. -/
def Options.int32? (o : Options) (extension : String) : Except String (Option Int) :=
  match o.value? extension with
  | none => .ok none
  | some (.int32 n) => .ok (some n)
  | some v => .error (o.unexpected extension "int32" v)

/-- The message of an extension, read from its bytes. -/
def Options.message? {α : Type} (o : Options) (extension : String)
    (read : Bytes → Except ReadFault α) : Except String (Option α) :=
  match o.value? extension with
  | none => .ok none
  | some (.message _ fields) =>
    match read (writeFields fields) with
    | .ok a => .ok (some a)
    | .error fault => .error ("(" ++ extension ++ ") is malformed: " ++ fault.message)
  | some v => .error (o.unexpected extension "message" v)

end ProtoRest.Annotation
