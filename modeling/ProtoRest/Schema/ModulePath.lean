import ProtoRest.Code.Ident
import ProtoRest.Code.PathText
import ProtoRest.Descriptor.Definition
import ProtoRest.Descriptor.Named
import ProtoRest.Schema.TypePath

/-! # Modules of generated types
A module is the list of names from the root down to it. `follow` walks the steps of a path from a
module: `super` leads one module up, any other step one down, and above the root there is nothing.
`moduleOfPackage` is where the code of a package is, and `resolve` what the path of a type leads to.

The path of a `NamedType` has two parts: `wayOut` leaves the module that the path starts from, and
`wayIn` names the modules and the type itself. -/

namespace ProtoRest.Schema

open ProtoRest.Code ProtoRest.Descriptor ProtoRest.Text

/-! ## Modules -/

/-- The module of a package. -/
def moduleOfPackage (package : String) : List String := (packageParts package).map snakeCase

/-- The module that steps lead to from a module. An empty step leads nowhere. -/
def follow (place : List String) : List String → Option (List String)
  | [] => some place
  | step :: steps =>
    if step = "super" then if place = [] then none else follow place.dropLast steps
    else if step = "" then none
    else follow (place ++ [step]) steps

/-- The module and the name of the type that a path leads to from a module. -/
def resolve (place : List String) (path : String) : Option (List String × String) := do
  let steps := (pathSteps path.toList).map String.ofList
  let name ← steps.getLast?
  let place ← follow place steps.dropLast
  return (place, name)

/-- A step with its reserved word escaped in the way of the names of fields. A text that no field
can have stays as it is. -/
def escapedStep (step : String) : String :=
  match Ident.ofField step with
  | .ok ident => ident.text
  | .error _ => step

/-! ## Types by their names -/

/-- A message or an enum by its names. -/
structure NamedType where
  /-- The package of its file. -/
  package : String
  /-- The messages that it is nested in. -/
  parents : List String
  /-- Its own name. -/
  name : String
  /-- A package is empty or made of names. -/
  named_package : package = "" ∨ isDottedName package = true
  /-- Messages have names. -/
  named_parents : ∀ parent ∈ parents, isName parent = true
  /-- The type has a name. -/
  named_type : isName name = true

namespace NamedType

variable (fromPackage : String) (t : NamedType)

/-- The full name. -/
def fullName : String := inScope t.package (".".intercalate (t.parents ++ [t.name]))

/-- The full name behind a number of dots. -/
def reference (dots : Nat) : String := String.ofList (List.replicate dots '.') ++ t.fullName

/-- The module of the type. -/
def place : List String := moduleOfPackage t.package ++ t.parents.map snakeCase

/-- A well-known type as another package sees it. -/
def IsWellKnown : Prop := t.package = wellKnownPackage ∧ fromPackage ≠ t.package

instance : Decidable (t.IsWellKnown fromPackage) := inferInstanceAs (Decidable (_ ∧ _))

/-- The well-known empty message as another package sees it, which has no path. -/
def HasNoPath : Prop := t.IsWellKnown fromPackage ∧ t.parents = [] ∧ t.name = "Empty"

instance : Decidable (t.HasNoPath fromPackage) := inferInstanceAs (Decidable (_ ∧ _))

/-- The number of leading components that two packages share. -/
def common : Nat := commonLength (packageParts fromPackage) (packageParts t.package)

/-- Messages without any number of leading `google` and `protobuf`. -/
def withoutHome : List String → List String
  | a :: b :: rest => if a = "google" ∧ b = "protobuf" then withoutHome rest else a :: b :: rest
  | parents => parents

/-- The steps of the path that come before those that name the type. -/
def wayOut : List String :=
  if t.IsWellKnown fromPackage then ["", "prost_types"]
  else List.replicate ((packageParts fromPackage).length - t.common fromPackage) "super"

/-- The steps of the path that name the type. -/
def wayIn : List String :=
  if t.IsWellKnown fromPackage then withoutHome t.parents ++ [t.name]
  else ((packageParts t.package).drop (t.common fromPackage) ++ t.parents).map snakeCase ++
    [upperCamelCase t.name]

/-- Every module that the type is in, and the type itself, is called by an identifier or a reserved
word. -/
structure HasWords : Prop where
  /-- A component or a parent in snake case. -/
  modules : ∀ part ∈ packageParts t.package ++ t.parents, isIdentText (snakeCase part).toList = true
  /-- The type with capitals. -/
  type : isIdentText (upperCamelCase t.name).toList = true

end NamedType

end ProtoRest.Schema
