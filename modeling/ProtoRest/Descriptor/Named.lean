import ProtoRest.Descriptor.Declaration
import ProtoRest.Schema.Name
import ProtoRest.Text.Blank

/-! # Declared names
A file is **named** when its package is made of names with dots between them and all that it declares
has a name: messages and their fields, enums and their values, services and their methods. -/

namespace ProtoRest.Descriptor

open ProtoRest.Schema ProtoRest.Text

/-- Whether a text is made of names with dots between them. -/
def isDottedName (text : String) : Bool :=
  (splitAt '.' text.toList).all fun part => isName (String.ofList part)

/-- Whether an enum and its values have names. -/
def EnumDecl.isNamed (e : EnumDecl) : Bool := isName e.name && e.values.all (isName ·.name)

/-- Whether a service and its methods have names. -/
def ServiceDecl.isNamed (s : ServiceDecl) : Bool := isName s.name && s.methods.all (isName ·.name)

/-- Whether a message, its fields and the enums in it have names. -/
def MessageHead.isNamed (head : MessageHead) : Bool :=
  isName head.name && head.fields.all (isName ·.name) && head.enums.all EnumDecl.isNamed

mutual

/-- Whether a message and all that is declared in it have names. -/
def MessageDecl.isNamed : MessageDecl → Bool
  | .mk head nested => head.isNamed && areNamed nested

/-- Whether messages and all that is declared in them have names. -/
def areNamed : List MessageDecl → Bool
  | [] => true
  | m :: ms => m.isNamed && areNamed ms

end

/-- Whether the package of a file, unless it is empty, and all that is declared in the file have
names. -/
def FileDecl.isNamed (f : FileDecl) : Bool :=
  (f.package == "" || isDottedName f.package) && areNamed f.messages &&
    f.enums.all EnumDecl.isNamed && f.services.all ServiceDecl.isNamed

end ProtoRest.Descriptor
