import ProtoRest.Code.Keyword
import ProtoRest.Code.ReadStmt
import ProtoRest.Fault

/-! # Identifiers of generated code
Generated code may only hold well-formed identifiers; a text that is none stops the work without a
report. `Ident.make` takes a text as it is, `Ident.parse` also a raw one, and `Ident.ofField`
escapes the reserved words. -/

namespace ProtoRest.Code

open ProtoRest.Text

/-- Whether a text is an identifier or a reserved word. -/
def isIdentText : List Char → Bool
  | [] => false
  | c :: cs => isIdentifierStart c && cs.all isIdentifierContinue

/-- An identifier, with the mark of a raw one. -/
structure Ident where
  /-- The identifier as it is written. -/
  text : String
  deriving DecidableEq, Repr

namespace Ident

/-- The identifier with a text. -/
def make (text : String) : Except Failure Ident :=
  if isIdentText text.toList then .ok ⟨text⟩ else .error .crash

/-- The identifier with a text that may carry the mark of a raw one. -/
def parse (text : String) : Except Failure Ident :=
  match text.toList with
  | 'r' :: '#' :: rest =>
    if isIdentText rest ∧ String.ofList rest ∉ unrawable then .ok ⟨text⟩ else .error .crash
  | _ => make text

/-- The words that cannot be raw and get an underscore instead. -/
def unrawableFields : List String := ["self", "super", "crate", "Self"]

/-- The identifier of a field or a method of a name; reserved words are escaped. -/
def ofField (name : String) : Except Failure Ident :=
  if name ∈ unrawableFields then make (name ++ "_")
  else if isKeyword name then .ok ⟨"r#" ++ name⟩
  else make name

end Ident

/-- A type that the templates mention by its text. -/
def tyOfText (text : String) : Except Failure Ty :=
  match Ty.ofText text with
  | .ok ty => .ok ty
  | .error fault =>
    .error (.fault (.template ("invalid Rust type `" ++ text ++ "`: " ++ fault.message)))

end ProtoRest.Code
