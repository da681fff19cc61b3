import ProtoRest.Fault
import ProtoRest.Wire.Fields

/-! # Responses
What a generator answers: the files that were generated and, when something went wrong, what. -/

namespace ProtoRest.Plugin

open ProtoRest.Wire

/-- A generated file. -/
structure OutputFile where
  /-- The path of the file. -/
  name : String
  /-- The text of the file. -/
  content : String
  deriving DecidableEq, Repr

/-- A response. -/
structure Response where
  /-- What went wrong, when something did. -/
  error : Option String
  /-- The features that the generator supports, as a set of bits. -/
  features : Option Nat
  /-- The generated files in order. -/
  files : List OutputFile
  deriving DecidableEq, Repr

/-- The features of every response: fields that may be absent are understood. -/
def supportedFeatures : Nat := 1

namespace Response

/-- The response that only says what went wrong. -/
def ofFault (fault : Fault) : Response := ⟨some fault.message, some supportedFeatures, []⟩

/-- The fields of a generated file. -/
def fileFields (f : OutputFile) : Fields := [(1, .text f.name), (15, .text f.content)]

/-- The fields of a response. -/
def fields (r : Response) : Fields :=
  r.error.toList.map (fun text => (1, .text text)) ++
    r.features.toList.map (fun bits => (2, .varint bits)) ++
    r.files.map fun f => (15, .message (fileFields f))

/-- The bytes of a response. -/
def write (r : Response) : Bytes := writeFields r.fields

/-! ## Reading -/

/-- The types of messages in a response. -/
inductive Part
  /-- The response. -/
  | response
  /-- A generated file. -/
  | file
  deriving DecidableEq, Repr

/-- The fields of responses. -/
def grammar : Grammar Part
  | .response, 1 => some ⟨"CodeGeneratorResponse", "error", .text⟩
  | .response, 2 => some ⟨"CodeGeneratorResponse", "supported_features", .varint⟩
  | .response, 15 => some ⟨"CodeGeneratorResponse", "file", .message .file⟩
  | .file, 1 => some ⟨"File", "name", .text⟩
  | .file, 15 => some ⟨"File", "content", .text⟩
  | _, _ => none

/-- The generated file with fields. -/
def fileOfFields (fs : Fields) : OutputFile where
  name := (Fields.text? fs 1).getD ""
  content := (Fields.text? fs 15).getD ""

/-- The response with fields. -/
def ofFields (fs : Fields) : Response where
  error := Fields.text? fs 1
  features := (Fields.nats fs 2).getLast?
  files := (Fields.messages fs 15).map fileOfFields

/-- Reads a response. -/
def read (bs : Bytes) : Except ReadFault Response := (grammar.read .response bs).map ofFields

end Response

end ProtoRest.Plugin
