import ProtoRest.Descriptor.Types

/-! # Plain enums
**Plain** declarations and types are those whose enums, and the values of these, have no options; all
else is as it was. What two schemas have in common that differ only in such options is their plain
form. -/

namespace ProtoRest.Descriptor

/-! ## Declarations -/

/-- A value of an enum without its options. -/
def EnumValueDecl.plain (v : EnumValueDecl) : EnumValueDecl := { v with options := [] }

/-- An enum without its options and those of its values. -/
def EnumDecl.plain (e : EnumDecl) : EnumDecl :=
  { e with options := [], values := e.values.map EnumValueDecl.plain }

/-- A message whose enums are plain, without the messages in it. -/
def MessageHead.plain (head : MessageHead) : MessageHead :=
  { head with enums := head.enums.map EnumDecl.plain }

mutual

/-- A message whose enums are plain. -/
def MessageDecl.plain : MessageDecl → MessageDecl
  | .mk head nested => .mk head.plain (plainDecls nested)

/-- Messages whose enums are plain. -/
def plainDecls : List MessageDecl → List MessageDecl
  | [] => []
  | m :: ms => m.plain :: plainDecls ms

end

/-- A file whose enums are plain. -/
def FileDecl.plain (f : FileDecl) : FileDecl :=
  { f with messages := plainDecls f.messages, enums := f.enums.map EnumDecl.plain }

/-! ## Types -/

/-- A value of an enum without its options. -/
def EnumValueType.plain (v : EnumValueType) : EnumValueType := { v with options := [] }

/-- An enum without its options and those of its values. -/
def EnumType.plain (e : EnumType) : EnumType :=
  { e with options := [], values := e.values.map EnumValueType.plain }

/-- A message whose enums are plain, without the messages in it. -/
def MessageType.plain (m : MessageType) : MessageType :=
  { m with enums := m.enums.map EnumType.plain }

mutual

/-- A message whose enums are plain. -/
def MessageTree.plain : MessageTree → MessageTree
  | .mk type nested => .mk type.plain (plainTrees nested)

/-- Messages whose enums are plain. -/
def plainTrees : List MessageTree → List MessageTree
  | [] => []
  | t :: ts => t.plain :: plainTrees ts

end

/-- A file whose enums are plain. -/
def FileType.plain (f : FileType) : FileType :=
  { f with messages := plainTrees f.messages, enums := f.enums.map EnumType.plain }

/-- A pool whose enums are plain. -/
def Pool.plain (p : Pool) : Pool := { files := p.files.map FileType.plain }

end ProtoRest.Descriptor
