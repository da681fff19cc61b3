import ProtoRest.Fault
import ProtoRest.Wire.Fields

/-! # Requests
What the compiler asks a generator for: the files to generate, a parameter, the version of the
compiler and the declarations of every file, which are kept as bytes. -/

namespace ProtoRest.Plugin

open ProtoRest.Wire

/-- The version of the compiler. -/
structure CompilerVersion where
  /-- The first number. -/
  major : Int
  /-- The second number. -/
  minor : Int
  /-- The third number. -/
  patch : Int
  /-- What follows the numbers. -/
  suffix : String
  deriving DecidableEq, Repr

/-- The version as it is shown. -/
def CompilerVersion.text (v : CompilerVersion) : String :=
  "v" ++ toString v.major ++ "." ++ toString v.minor ++ "." ++ toString v.patch ++
    (if v.suffix = "" then "" else "-" ++ v.suffix)

/-- A request. -/
structure Request where
  /-- The files to generate, in the order of the request. -/
  files : List String
  /-- The parameter, when there is one. -/
  parameter : Option String
  /-- The version of the compiler, when it is known. -/
  version : Option CompilerVersion
  /-- The declarations of all files. -/
  declarations : List Bytes
  deriving DecidableEq, Repr

namespace Request

/-- The types of messages in a request. -/
inductive Part
  /-- The request. -/
  | request
  /-- The version of the compiler. -/
  | version
  deriving DecidableEq, Repr

/-- The fields of requests. -/
def grammar : Grammar Part
  | .request, 1 => some ⟨"RawCodeGeneratorRequest", "file_to_generate", .text⟩
  | .request, 2 => some ⟨"RawCodeGeneratorRequest", "parameter", .text⟩
  | .request, 3 => some ⟨"RawCodeGeneratorRequest", "compiler_version", .message .version⟩
  | .request, 15 => some ⟨"RawCodeGeneratorRequest", "proto_file", .bytes⟩
  | .version, 1 => some ⟨"Version", "major", .varint⟩
  | .version, 2 => some ⟨"Version", "minor", .varint⟩
  | .version, 3 => some ⟨"Version", "patch", .varint⟩
  | .version, 4 => some ⟨"Version", "suffix", .text⟩
  | _, _ => none

/-- The version with fields. -/
def versionOfFields (fs : Fields) : CompilerVersion where
  major := (Fields.int32? fs 1).getD 0
  minor := (Fields.int32? fs 2).getD 0
  patch := (Fields.int32? fs 3).getD 0
  suffix := (Fields.text? fs 4).getD ""

/-- The request with fields. -/
def ofFields (fs : Fields) : Request where
  files := Fields.texts fs 1
  parameter := Fields.text? fs 2
  version := (Fields.message? fs 3).map versionOfFields
  declarations := Fields.blobs fs 15

/-- Reads a request. -/
def read (bs : Bytes) : Except Fault Request :=
  match grammar.read .request bs with
  | .error fault => .error (.decode ("failed to decode CodeGeneratorRequest: " ++ fault.message))
  | .ok fs => .ok (ofFields fs)

end Request

end ProtoRest.Plugin
