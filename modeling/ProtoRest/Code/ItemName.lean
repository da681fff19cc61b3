import ProtoRest.Code.Syntax

/-! # Names of items
An item has its name in the namespace of types, in that of values, or in both. Items with one name in
one namespace cannot stand side by side. -/

namespace ProtoRest.Code

/-- The name of an item among values. Of the structures only those whose fields have no names are
values too. What an import or a macro brings in is not known. -/
def Item.valueName? : Item → Option String
  | .value _ _ name _ _ | .fn _ _ name _ _ _ _ _ => some name
  | .struct _ _ name _ shape _ _ => if shape = .named then none else some name
  | _ => none

/-- The name of an item among types, which modules and traits share with them. -/
def Item.typeName? : Item → Option String
  | .alias _ _ name _ _ _ | .type _ _ name _ _ _ _ | .elsewhere _ _ name _
  | .struct _ _ name _ _ _ _ | .enum _ _ name _ _ _ | .trait _ _ name _ _ _ _
  | .traitAlias _ _ name _ _ _ | .mod _ _ name _ => some name
  | _ => none

end ProtoRest.Code
