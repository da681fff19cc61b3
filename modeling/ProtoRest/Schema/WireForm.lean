import ProtoRest.Schema.File
import ProtoRest.Wire.Fields

/-! # Wire form of rules and error options
HTTP rules and the annotations of errors are messages. Each is written with the fields that it has,
and read back from any order of fields: of the members of a choice the last one counts. -/

namespace ProtoRest.Schema

open ProtoRest.Wire

/-! ## HTTP rules -/

namespace HttpRule

/-- The types of messages in a rule. -/
inductive Part
  /-- A rule. -/
  | rule
  /-- A pattern with a verb of its own. -/
  | custom
  deriving DecidableEq, Repr

/-- The fields of rules. -/
def grammar : Grammar Part
  | .rule, 1 => some ⟨"HttpRule", "selector", .text⟩
  | .rule, 2 | .rule, 3 | .rule, 4 | .rule, 5 | .rule, 6 => some ⟨"HttpRule", "pattern", .text⟩
  | .rule, 7 => some ⟨"HttpRule", "body", .text⟩
  | .rule, 8 => some ⟨"HttpRule", "pattern", .message .custom⟩
  | .rule, 11 => some ⟨"HttpRule", "additional_bindings", .message .rule⟩
  | .rule, 12 => some ⟨"HttpRule", "response_body", .text⟩
  | .custom, 1 => some ⟨"CustomHttpPattern", "kind", .text⟩
  | .custom, 2 => some ⟨"CustomHttpPattern", "path", .text⟩
  | _, _ => none

/-- The pattern after one more field. -/
def patternStep (pattern : Option Pattern) (field : Nat × Raw) : Option Pattern :=
  match field with
  | (2, .text path) => some (.get path)
  | (3, .text path) => some (.put path)
  | (4, .text path) => some (.post path)
  | (5, .text path) => some (.delete path)
  | (6, .text path) => some (.patch path)
  | (8, .message fs) =>
    let (kind, path) :=
      match pattern with
      | some (.custom kind path) => (kind, path)
      | _ => ("", "")
    some (.custom ((Fields.text? fs 1).getD kind) ((Fields.text? fs 2).getD path))
  | _ => pattern

mutual

/-- The rule with fields. -/
def ofFields (fs : Fields) : HttpRule :=
  .mk ((Fields.text? fs 1).getD "") (fs.foldl patternStep none) ((Fields.text? fs 7).getD "")
    ((Fields.text? fs 12).getD "") (additionalOf fs)
  termination_by (sizeOf fs, 1)

/-- The further rules of a rule with fields. -/
def additionalOf : Fields → List HttpRule
  | [] => []
  | (number, .message fields) :: fs =>
    if number = 11 then ofFields fields :: additionalOf fs else additionalOf fs
  | _ :: fs => additionalOf fs
  termination_by fs => (sizeOf fs, 0)

end

/-- Reads a rule. -/
def read (bs : Bytes) : Except ReadFault HttpRule := (grammar.read .rule bs).map ofFields

/-- A text that is written unless it is empty. -/
def textField (number : Nat) (s : String) : Fields := if s = "" then [] else [(number, .text s)]

/-- The field of a pattern. -/
def patternField : Pattern → Nat × Raw
  | .get path => (2, .text path)
  | .put path => (3, .text path)
  | .post path => (4, .text path)
  | .delete path => (5, .text path)
  | .patch path => (6, .text path)
  | .custom kind path => (8, .message (textField 1 kind ++ textField 2 path))

mutual

/-- The fields of a rule. -/
def fields : HttpRule → Fields
  | .mk selector pattern body responseBody additional =>
    textField 1 selector ++ pattern.toList.map patternField ++ textField 7 body ++
      additionalFields additional ++ textField 12 responseBody

/-- The fields of further rules. -/
def additionalFields : List HttpRule → Fields
  | [] => []
  | rule :: rules => (11, .message rule.fields) :: additionalFields rules

end

/-- The bytes of a rule. -/
def write (rule : HttpRule) : Bytes := writeFields rule.fields

end HttpRule

/-! ## Error options -/

namespace ErrorOptions

/-- The fields of the annotation of an error. -/
def grammar : Grammar Unit
  | (), 1 => some ⟨"ErrorOptions", "status", .varint⟩
  | (), 2 => some ⟨"ErrorOptions", "code", .varint⟩
  | (), 3 => some ⟨"ErrorOptions", "reason", .text⟩
  | (), 4 => some ⟨"ErrorOptions", "message", .text⟩
  | _, _ => none

/-- The annotation with fields. -/
def ofFields (fs : Fields) : ErrorOptions where
  status := Fields.int32? fs 1
  code := Fields.int32? fs 2
  reason := Fields.text? fs 3
  message := Fields.text? fs 4

/-- Reads the annotation of an error. -/
def read (bs : Bytes) : Except ReadFault ErrorOptions := (grammar.read () bs).map ofFields

/-- The fields of the annotation of an error: all that it has. -/
def fields (e : ErrorOptions) : Fields :=
  e.status.toList.map (fun n => (1, .varint (natOfInt n))) ++
    e.code.toList.map (fun n => (2, .varint (natOfInt n))) ++
    e.reason.toList.map (fun s => (3, .text s)) ++
    e.message.toList.map (fun s => (4, .text s))

/-- The bytes of the annotation of an error. -/
def write (e : ErrorOptions) : Bytes := writeFields e.fields

end ErrorOptions

end ProtoRest.Schema
