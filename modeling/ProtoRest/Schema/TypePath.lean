import ProtoRest.Text.Words

/-! # Paths of generated types
Generated types live in one module per package component, and the types nested in a message in a
module named after it. `typePath` writes the path of a type as seen from the module of another
package: up with `super` to the common ancestor and down again. The well-known types have a home of
their own. -/

namespace ProtoRest.Schema

open ProtoRest.Text

/-- The components of a package; empty ones do not count. -/
def packageParts (package : String) : List String :=
  ((splitAt '.' package.toList).filter (· ≠ [])).map String.ofList

/-- The number of leading elements that two lists share. -/
def commonLength : List String → List String → Nat
  | a :: as, b :: bs => if a = b then commonLength as bs + 1 else 0
  | _, _ => 0

/-- The package of the well-known types. -/
def wellKnownPackage : String := "google.protobuf"

/-- A text without any number of copies of another at its start. -/
def dropCopies (start : List Char) : Nat → List Char → List Char
  | 0, cs => cs
  | n + 1, cs =>
    if start ≠ [] ∧ start.isPrefixOf cs then dropCopies start n (cs.drop start.length) else cs

/-- The path of a well-known type outside its package. -/
def wellKnownPath (fullName : List Char) : String :=
  if fullName = "google.protobuf.Empty".toList then "()"
  else
    let name := dropCopies "google.protobuf.".toList fullName.length fullName
    "::prost_types::" ++ String.ofList (joinWith [':', ':'] (splitAt '.' name))

/-- The full name of a type without its package and the dots after it. -/
def nameInPackage (package fullName : List Char) : List Char :=
  if package.isPrefixOf fullName then
    if package = [] then fullName else (fullName.drop package.length).dropWhile (· == '.')
  else fullName

/-- The path of a type, given the package it is named from, its own package and its full name. -/
def typePath (fromPackage package fullName : String) : String :=
  let name := fullName.toList.dropWhile (· == '.')
  if package = wellKnownPackage ∧ fromPackage ≠ package then wellKnownPath name
  else
    let source := packageParts fromPackage
    let target := packageParts package
    let common := commonLength source target
    let names := (splitAt '.' (nameInPackage package.toList name)).map String.ofList
    let up := List.replicate (source.length - common) "super"
    let down := (target.drop common ++ names.dropLast).map snakeCase
    "::".intercalate (up ++ down ++ [upperCamelCase (names.getLast?.getD "")])

end ProtoRest.Schema
