import ProtoRest.Version

/-! # Headers
Every generated file starts with a comment that names the generator, the compiler and the source. -/

namespace ProtoRest.Code

/-- The comment at the top of a generated file. -/
def header (generator : String) (compilerVersion : Option String) (source : String) : String :=
  "// Code generated by " ++ generator ++ ". DO NOT EDIT.\n" ++
    "// versions:\n" ++
    "// - " ++ generator ++ " v" ++ version ++ "\n" ++
    "// - protoc " ++ compilerVersion.getD "(unknown)" ++ "\n" ++
    "// source: " ++ source ++ "\n\n"

end ProtoRest.Code
