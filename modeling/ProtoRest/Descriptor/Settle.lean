import ProtoRest.Descriptor.Aggregate
import ProtoRest.Descriptor.Build
import ProtoRest.Descriptor.OpenOption
import ProtoRest.Descriptor.OptionTypes
import ProtoRest.Fault

/-! # Settling options
The options of every declaration are read by their type, and then the open options among them are
set, one after the other: each part of a name is a field or an extension of the message that the
parts before it lead to, and the value has to fit the type of the last one. The settled options are
in canonical form. The first thing that is wrong, from the outside in, is the fault; a map whose
entries have no key or no value stops the work. -/

namespace ProtoRest.Descriptor

open ProtoRest.Text ProtoRest.Wire

/-- What is wrong with options, or that reading them stops the work. -/
inductive OptionFailure
  /-- Something is wrong. -/
  | fault (fault : PoolFault)
  /-- The work stops. -/
  | crash
  deriving DecidableEq, Repr

/-- Where options stand. -/
structure OptionSite where
  /-- The pool of the schema. -/
  pool : Pool
  /-- What the file can see. -/
  view : View
  /-- The pool with the type of the options. -/
  types : Pool

/-! ## Values -/

/-- The fraction that an open option writes. -/
def OpenOption.fraction? (o : OpenOption) : Option Float :=
  match o.double, o.positive, o.negative, o.word with
  | some bits, _, _, _ => some (Float.ofBits (UInt64.ofNat bits))
  | _, some n, _, _ => some (doubleOfInt n)
  | _, _, some n, _ => some (doubleOfInt n)
  | _, _, _, some "inf" => some (WrittenNumber.infinite false).double
  | _, _, _, some "nan" => some (WrittenNumber.nan false).double
  | _, _, _, _ => none

/-- The whole number that an open option writes. -/
def OpenOption.whole? (o : OpenOption) : Option Int :=
  match o.positive, o.negative with
  | some n, _ => some n
  | none, n => n

/-- The raw form of the value of an open option in a type. -/
def OpenOption.raw? (types : Pool) (o : OpenOption) : ValueType → Option Raw
  | .scalar .double => o.fraction?.map fun x => .fixed64 x.toBits.toNat
  | .scalar .float => o.fraction?.map fun x => .fixed32 x.toFloat32.toBits.toNat
  | .scalar .bool => (o.word.bind boolOfWord?).map fun b => .varint (if b then 1 else 0)
  | .scalar .string => o.quoted.bind fun bs => (textOfBytes bs).map .text
  | .scalar .bytes => o.quoted.map .bytes
  | .scalar type => o.whole?.bind type.rawOfInt?
  | .enum name =>
    (o.word.bind (types.enumNumber? name)).map fun n => .varint (natOfInt n)
  | .message name grouped =>
    (o.aggregate.bind (Aggregate.read? types name)).map fun fields =>
      if grouped then .group fields else .message fields

/-- The type of a field in messages. -/
def Pool.shownType (p : Pool) (f : FieldType) : String :=
  match p.mapEntry? f with
  | some entry =>
    let part (number : Nat) : String := ((entry.field? number).map (·.type.shown)).getD ""
    "map<" ++ part keyNumber ++ ", " ++ part valueNumber ++ ">"
  | none => if f.isRepeated then "repeated " ++ f.type.shown else f.type.shown

/-! ## Setting -/

/-- The field of a message that a part of a name stands for in a scope. -/
def OptionSite.field (s : OptionSite) (scope message : String) (part : OptionPart) :
    Except PoolFault FieldType :=
  if part.isExtension then do
    let d ← s.view.resolve .extension scope part.text
    match s.pool.extension? d.name with
    | none => .error (.undefined d.name)
    | some x =>
      if x.extendee = message ∧ (s.types.extension? x.fullName).isSome then .ok x.field
      else .error (.otherExtendee x.fullName x.extendee message)
  else
    match (s.types.message? message).bind fun m => m.fields.find? (·.name == part.text) with
    | some f => .ok f
    | none => .error (.undefinedOption part.text)

/-- The fields of a message in a field of another. -/
def fieldsAt (fields : Fields) (number : Nat) : Fields :=
  (Fields.values fields number).flatMap Raw.inside

/-- What an open option adds to the fields of a message, given the parts of its name that led there
and the parts that are left. -/
def OptionSite.addition (s : OptionSite) (scope : String) (o : OpenOption) (before : List OptionPart)
    (message : String) (fields : Fields) : List OptionPart → Except PoolFault Fields
  | [] => .ok []
  | part :: parts => do
    let f ← s.field scope message part
    let name := shownName (before ++ [part])
    match parts with
    | [] =>
      if !f.isRepeated && !(Fields.values fields f.number).isEmpty then
        throw (.optionTwice (shownName o.name))
      match o.raw? s.types f.type with
      | some raw => return [(f.number, raw)]
      | none => throw (.optionValue name (s.types.shownType f) o.shownValue)
    | _ :: _ =>
      match f.isRepeated, f.type with
      | false, .message inner grouped => do
        let more ←
          s.addition scope o (before ++ [part]) inner (fieldsAt fields f.number) parts
        return [(f.number, if grouped then .group more else .message more)]
      | _, _ => throw (.notNested name (s.types.shownType f))

/-- The fields of a message with an open option set. -/
def OptionSite.set (s : OptionSite) (scope message : String) (fields : Fields) (o : OpenOption) :
    Except PoolFault Fields := do
  let more ← s.addition scope o [] message fields o.name
  return canonical s.types message (fields ++ more)

/-! ## Declarations -/

/-- A file whose options are settled. -/
structure Settler where
  /-- The pool of the schema. -/
  pool : Pool
  /-- What the file can see. -/
  view : View

/-- The settled options of a declaration in a scope. -/
def Settler.options (s : Settler) (owner : OptionOwner) (scope : String) (options : Fields) :
    Except OptionFailure Fields :=
  if options.isEmpty then .ok []
  else
    let site : OptionSite := { pool := s.pool, view := s.view, types := s.pool.forOptions owner }
    -- the first reading did not know the extensions, so the options are written and read again
    match readMessage site.types owner.fullName (writeFields options) with
    | .error _ => .error (.fault .unreadable)
    | .ok fields =>
      if hasWholeMaps site.types owner.fullName fields then
        ((openOptionsOf options).foldlM (site.set scope owner.fullName) fields).mapError .fault
      else .error .crash

/-- A field or an extension in a scope with settled options. -/
def Settler.field (s : Settler) (scope : String) (f : FieldDecl) :
    Except OptionFailure FieldDecl := do
  let options ← s.options .field (inScope scope f.name) f.options
  return { f with options }

/-- A choice in a scope with settled options. -/
def Settler.oneof (s : Settler) (scope : String) (o : OneofDecl) :
    Except OptionFailure OneofDecl := do
  let options ← s.options .oneof (inScope scope o.name) o.options
  return { o with options }

/-- A value of an enum in a scope with settled options. -/
def Settler.enumValue (s : Settler) (scope : String) (v : EnumValueDecl) :
    Except OptionFailure EnumValueDecl := do
  let options ← s.options .enumValue (inScope scope v.name) v.options
  return { v with options }

/-- An enum in a scope with settled options. -/
def Settler.enum (s : Settler) (scope : String) (e : EnumDecl) : Except OptionFailure EnumDecl := do
  let options ← s.options .enum (inScope scope e.name) e.options
  let values ← e.values.mapM (s.enumValue scope)
  return { e with options, values }

/-- A range of numbers of a message with settled options. -/
def Settler.extensionRange (s : Settler) (message : String) (r : ExtensionRangeDecl) :
    Except OptionFailure ExtensionRangeDecl := do
  let options ← s.options .extensionRange message r.options
  return { r with options }

mutual

/-- A message in a scope with settled options. -/
def Settler.message (s : Settler) (scope : String) :
    MessageDecl → Except OptionFailure MessageDecl
  | .mk head nested => do
    let inner := inScope scope head.name
    let options ← s.options .message inner head.options
    let extensible ← head.extensible.mapM (s.extensionRange inner)
    let oneofs ← head.oneofs.mapM (s.oneof inner)
    let fields ← head.fields.mapM (s.field inner)
    let nested ← s.messages inner nested
    let enums ← head.enums.mapM (s.enum inner)
    let extensions ← head.extensions.mapM (s.field inner)
    return .mk { head with options, extensible, oneofs, fields, enums, extensions } nested

/-- Messages in a scope with settled options. -/
def Settler.messages (s : Settler) (scope : String) :
    List MessageDecl → Except OptionFailure (List MessageDecl)
  | [] => .ok []
  | m :: ms => do
    let m ← s.message scope m
    let ms ← s.messages scope ms
    return m :: ms

end

/-- A method in a scope with settled options. -/
def Settler.method (s : Settler) (scope : String) (m : MethodDecl) :
    Except OptionFailure MethodDecl := do
  let options ← s.options .method (inScope scope m.name) m.options
  return { m with options }

/-- A service in a scope with settled options. -/
def Settler.service (s : Settler) (scope : String) (d : ServiceDecl) :
    Except OptionFailure ServiceDecl := do
  let inner := inScope scope d.name
  let options ← s.options .service inner d.options
  let methods ← d.methods.mapM (s.method inner)
  return { d with options, methods }

/-- A file with settled options. -/
def Settler.file (s : Settler) (f : FileDecl) : Except OptionFailure FileDecl := do
  let options ← s.options .file f.package f.options
  let messages ← s.messages f.package f.messages
  let enums ← f.enums.mapM (s.enum f.package)
  let services ← f.services.mapM (s.service f.package)
  let extensions ← f.extensions.mapM (s.field f.package)
  return { f with options, messages, enums, services, extensions }

/-- Files with settled options, given the files before them. -/
def settleFiles (pool : Pool) (defs : List Definition) (before : List FileDecl) :
    List (FileDecl × Edition) → Except OptionFailure (List (FileDecl × Edition))
  | [] => .ok []
  | (f, edition) :: fs => do
    let settled ← Settler.file ⟨pool, viewOf before defs f⟩ f
    let more ← settleFiles pool defs (before ++ [f]) fs
    return (settled, edition) :: more

end ProtoRest.Descriptor
