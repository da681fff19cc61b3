import ProtoRest.Text.Blank

/-! # Names of parameters in texts
What a reader of generated texts takes for the names of parameters: the texts between the braces of a
route, where a star marks a parameter for the rest of a path, the texts between the braces of a path in
the documentation, and the names in the lines of the documentation. -/

namespace ProtoRest.Route

open ProtoRest.Text

/-! ## Routes and paths -/

/-- The texts between the braces of a text: from each brace that opens to the next one that closes. -/
def braced : List Char → List (List Char)
  | [] => []
  | c :: cs => if c = '{' then cs.takeWhile (· != '}') :: braced cs else braced cs

/-- The name between braces in a route, without the star of a parameter for the rest of a path. -/
def nameInRoute : List Char → String
  | '*' :: name => String.ofList name
  | name => String.ofList name

/-- The names in the notation of the router. -/
def namesInRoute (route : String) : List String := (braced route.toList).map nameInRoute

/-- The names in the notation of the documentation. -/
def namesInDocPath (path : String) : List String := (braced path.toList).map String.ofList

/-- A text without the stars that stand right behind a brace that opens. -/
def dropStars : List Char → List Char
  | [] => []
  | '{' :: '*' :: cs => '{' :: dropStars cs
  | c :: cs => c :: dropStars cs

/-! ## Lines of the documentation -/

/-- The name that a line documents as a parameter in a place: the second word of a line that has the
tag as its first word and the place as its third. -/
def paramName? (place line : String) : Option String :=
  match splitAt ' ' line.toList with
  | tag :: name :: word :: _ =>
    if tag = "@Param".toList ∧ word = place.toList then some (String.ofList name) else none
  | _ => none

/-- The names that lines document as parameters in a place. -/
def paramNames (place : String) (lines : List String) : List String :=
  lines.filterMap (paramName? place)

end ProtoRest.Route
