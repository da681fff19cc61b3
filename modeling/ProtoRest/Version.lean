/-! # Version -/

namespace ProtoRest

/-- The version of the generators. -/
def version : String := "0.1.0"

end ProtoRest
