import ProtoRest.Code.Item
import ProtoRest.ErrorSet.Table

/-! # Accessor code
The code that is generated for the error sets of a file: on each enum the list of its errors and one
function per property, and what makes its values displayable errors. -/

namespace ProtoRest.ErrorSet

open ProtoRest.Code

/-- An error with the name of its variant. -/
structure Variant where
  /-- The error. -/
  entry : Entry
  /-- The name of the variant. -/
  name : Ident

/-- The error with the name that generated code has for it. -/
def Variant.ofEntry (entry : Entry) : Except Failure Variant := do
  return ⟨entry, ← Ident.parse entry.variant⟩

/-- The path of the variant. -/
def Variant.path (v : Variant) : Ty := .path (.relative ["Self", v.name.text])

/-- A call of a method of the value. -/
def selfCall (name : String) : Expr := .method (.named "self") name [] []

/-- The type of texts that live as long as the program. -/
def staticStr : Ty := .reference (some "static") false (.named "str")

/-- A function from the errors to one of their properties. -/
def accessor (doc name : String) (ty : Ty) (property : Entry → String)
    (variants : List Variant) : Item :=
  let head : Signature :=
    { intro := "pub const fn ", name := ⟨name⟩, inputs := [.byRef], output := ty }
  let arms := variants.map fun v => Arm.make [] (.path v.path) none (.literal (property v.entry))
  head.item [.docLine doc] (some [.expr (.switch (.unary "*" (.named "self")) [] arms) false])

/-- The members of the enum's own implementation. -/
def accessors (variants : List Variant) : List Item :=
  [.const [.docLine "Every error of this set, in declaration order"] ⟨"ERRORS"⟩
     (.reference (some "static") false (.slice (.named "Self")))
     (.unary "&" (.array (variants.map fun v => .path v.path))),
   accessor "HTTP status of the error" "status" (.named "u16") (toString ·.status) variants,
   accessor "Application error code" "code" (.named "i32") (toString ·.shownCode) variants,
   accessor "Machine-readable reason" "reason" staticStr (Text.literal ·.shownReason) variants,
   accessor "Human-readable message, empty when unset" "message" staticStr
     (Text.literal ·.shownMessage) variants]

/-- The call that writes the reason and the message. -/
def writeCall : MacroCall :=
  { path := ⟨false, ["write"]⟩
    bracket := .round
    tokens := commaTokens
      [[.word "f"], [.literal "\"\x7b\x7d: \x7b\x7d\""],
       [.word "self", .mark '.' false, .word "reason", .group .round []], [.word "message"]] }

/-- The head of the function that displays an error. -/
def displayHead : Signature where
  intro := "fn "
  name := ⟨"fmt"⟩
  inputs :=
    [.byRef,
     .of (.named "f")
      (.reference none true (.path (.generic true ["core", "fmt"] "Formatter" [.lifetime "_"])))]
  output := .path (.root ["core", "fmt", "Result"])

/-- The function that displays an error: its reason and, if there is one, its message. -/
def displayFn : Item :=
  displayHead.item []
    (some
      [.let_ "message" (selfCall "message"),
       .expr
        (.ite (.method (.named "message") "is_empty" [] [])
          [.expr (.method (.named "f") "write_str" [] [selfCall "reason"]) false]
          (some (.braces [.expr (.macroCall writeCall) false])))
        false])

/-- The items of an error set. -/
def enumItems (ty : Ty) (e : ErrorEnum) (variants : List Variant) : List Item :=
  [.inherent (if e.comment = "" then [] else [.docLine e.comment]) ty (accessors variants),
   .implements (.root ["core", "fmt", "Display"]) ty [displayFn],
   .implements (.root ["std", "error", "Error"]) ty []]

/-- The reserved words that can name a variant. -/
def pathWords : List String := ["self", "super", "crate", "Self", "try"]

/-- Whether a name cannot stand after a path. -/
def cannotFollow (name : String) : Bool := reservedWords.contains name && !pathWords.contains name

/-- The items of a file. A reserved word cannot name a variant. -/
def Table.items (t : Table) : Except Failure (List Item) := do
  let items ← t.enums.mapM fun e => do
    let ty ← tyOfText e.path
    let variants ← e.errors.mapM Variant.ofEntry
    return enumItems ty e variants
  match (t.enums.flatMap fun e => e.errors.map (·.variant)).find? cannotFollow with
  | some word =>
    .error (.fault (.template
      ("generated code does not parse: expected identifier, found keyword `" ++ word ++ "`")))
  | none => return items.flatten

/-- The text of a file after its header. -/
def Table.render (header : String) (t : Table) : Except Failure String := do
  return header ++ (← Code.render (← t.items))

end ProtoRest.ErrorSet
