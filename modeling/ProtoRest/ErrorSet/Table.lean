import ProtoRest.Fault
import ProtoRest.Schema.File
import ProtoRest.Text.Words

/-! # Error sets
An annotated enum becomes an error set: its values with their status, code, reason and message.
Values that repeat a number are skipped. The status of a value is its own, else that of the enum,
else 500, and lies between 100 and 599. -/

namespace ProtoRest.ErrorSet

open ProtoRest.Schema ProtoRest.Text

/-- One error. -/
structure Entry where
  /-- The name of the enum value. -/
  name : String
  /-- The number of the enum value. -/
  number : Int
  /-- The name of the variant in generated code. -/
  variant : String
  /-- The HTTP status. -/
  status : Nat
  /-- The code, when it is set. -/
  code : Option Int
  /-- The reason, when it is set. -/
  reason : Option String
  /-- The message, when it is set. -/
  message : Option String
  deriving DecidableEq, Repr

namespace Entry

/-- The code, zero when it is not set. -/
def shownCode (e : Entry) : Int := e.code.getD 0

/-- The reason, the name of the value when there is none. -/
def shownReason (e : Entry) : String := (e.reason.filter (· ≠ "")).getD e.name

/-- The message, empty when it is not set. -/
def shownMessage (e : Entry) : String := e.message.getD ""

end Entry

/-- The errors of one enum. -/
structure ErrorEnum where
  /-- The name of the enum. -/
  name : String
  /-- The path of the generated enum. -/
  path : String
  /-- The comment before the enum. -/
  comment : String
  /-- The errors in declaration order. -/
  errors : List Entry
  deriving DecidableEq, Repr

/-- The error sets of a file. -/
structure Table where
  /-- The path of the file. -/
  file : String
  /-- The package of the file. -/
  package : String
  /-- The error sets in the order of the enums. -/
  enums : List ErrorEnum
  deriving DecidableEq, Repr

/-- Whether there is nothing to generate. -/
def Table.isEmpty (t : Table) : Bool := t.enums.isEmpty

/-! ## Variants -/

/-- A name without another at its start, if a capital follows. -/
def stripEnumName (start name : String) : String :=
  if start.toList.isPrefixOf name.toList then
    match name.toList.drop start.toList.length with
    | [] => name
    | c :: cs => if isUpper c then String.ofList (c :: cs) else name
  else name

/-- The name of the variant that an enum has for one of its values. -/
def variantName (enumName valueName : String) : String :=
  stripEnumName (upperCamelCase enumName) (upperCamelCase valueName)

/-! ## Statuses -/

/-- The status of errors for which none is set. -/
def fallbackStatus : Nat := 500

/-- A status that was checked. -/
def checkedStatus (file owner : String) (status : Int) : Except Fault Nat :=
  if isStatus status then .ok status.toNat else .error (.options file (statusMessage owner status))

/-! ## Building -/

/-- The values of which the number was not used before, given the numbers used so far. -/
def distinctValues (used : List Int) : List EnumValue → List EnumValue
  | [] => []
  | v :: vs =>
    if v.number ∈ used then distinctValues used vs
    else v :: distinctValues (v.number :: used) vs

/-- The error of a value. -/
def entryOfValue (file : String) (e : Enum) (enumStatus : Option Nat) (v : EnumValue) :
    Except Fault Entry := do
  let options := v.error.getD {}
  let status ←
    -- loading checks statuses too, so that this fails for no file that was loaded
    match options.status with
    | some status => checkedStatus file e.fullName status
    | none => pure (enumStatus.getD fallbackStatus)
  return { name := v.name
           number := v.number
           variant := variantName e.name v.name
           status
           code := options.code
           reason := options.reason
           message := options.message }

/-- The error set of an enum. -/
def errorEnum (file : String) (e : Enum) : Except Fault ErrorEnum := do
  let enumStatus ← e.defaultStatus.mapM (checkedStatus file e.fullName)
  let errors ← (distinctValues [] e.values).mapM (entryOfValue file e enumStatus)
  return { name := e.name, path := e.path, comment := e.comment, errors }

/-- The error sets of a file. -/
def Table.ofFile (file : File) : Except Fault Table := do
  let enums ← (file.enums.filter (·.isErrorSet)).mapM (errorEnum file.name)
  return { file := file.name, package := file.package, enums }

end ProtoRest.ErrorSet
