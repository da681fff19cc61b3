import ProtoRest.Code.Syntax

/-! # Dispatch on variants
What the functions of an error set give back, read off their code: `arms?` lists the arms of a function,
each the name of a variant with a literal, and `returned?` is the literal of the first arm that fits a
variant. -/

namespace ProtoRest.ErrorSet

open ProtoRest.Code

/-- The variant that a pattern stands for. -/
def variantOf? : Pat → Option String
  | .path (.path (.mk false [.plain "Self", .plain name])) => some name
  | _ => none

/-- The variant of an arm with the literal that is chosen for it. -/
def armOf? : Arm → Option (String × String)
  | .mk [] pat none (.literal text) => (variantOf? pat).map (·, text)
  | _ => none

/-- The arms of a function that only looks at the value that it is called on. -/
def armsOf? : Item → Option (List (String × String))
  | .fn _ _ _ _ _ _ _ (some (.block none _
      [.expr (.switch (.unary "*" (.path (.path (.mk false [.plain "self"])))) [] arms) false])) =>
    arms.mapM armOf?
  | _ => none

/-- Whether an item is a function of a name. -/
def isFunction (name : String) : Item → Bool
  | .fn _ _ found _ _ _ _ _ => found == name
  | _ => false

/-- Whether an item is what a type has of its own. -/
def isInherent : Item → Bool
  | .impl _ _ _ _ none _ _ _ => true
  | _ => false

/-- The arms of a function of an implementation. -/
def arms? (function : String) : Item → Option (List (String × String))
  | .impl _ _ _ _ _ _ _ members => (members.find? (isFunction function)).bind armsOf?
  | _ => none

/-- What a function of an implementation gives back for a variant. -/
def returned? (function variant : String) (item : Item) : Option String :=
  (arms? function item).bind (·.lookup variant)

end ProtoRest.ErrorSet
