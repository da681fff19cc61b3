import ProtoRest.Code.PathText
import ProtoRest.ErrorSet.Table
import ProtoRest.Schema.Name

/-! # Legible error sets
The code of an error set mentions the path of its enum and a variant for each of its errors. It is
**legible** where the path is one of a type and every variant starts with a letter. -/

namespace ProtoRest.ErrorSet

open ProtoRest.Code ProtoRest.Schema

/-- Whether a value of an enum has a legible variant. -/
def isLegibleValue (e : Enum) (v : EnumValue) : Bool := startsWithLetter (variantName e.name v.name)

/-- Whether everything that the code of an enum mentions is legible. -/
def isLegible (e : Enum) : Bool :=
  isTypeText e.path && (distinctValues [] e.values).all (isLegibleValue e)

end ProtoRest.ErrorSet
