import ProtoRest.Code.Ident
import ProtoRest.Code.Item
import ProtoRest.Code.Literal

/-! # Texts of paths
What the text of a path reads as is decided step by step, between the double colons: a step is an
identifier, and only a few reserved words can be one. -/

namespace ProtoRest.Code

/-- The reserved words that can be a step of a path after the first. -/
def stepWords : List String := ["super", "self", "crate", "try", "Self"]

/-- Whether a word can be a step of a path after the first. -/
def isStepWord (w : String) : Bool := !reservedWords.contains w || stepWords.contains w

/-- Whether a word can be the first step of a path. -/
def isFirstWord (w : String) : Bool := !reservedWords.contains w || pathKeywords.contains w

/-- The reserved words before a path from the root that make a type of a bound. -/
def boundWords : List String := ["dyn", "impl"]

/-- The steps of the text of a path. -/
def pathSteps : List Char → List (List Char)
  | [] => [[]]
  | ':' :: ':' :: cs => [] :: pathSteps cs
  | c :: cs =>
    match pathSteps cs with
    | [] => [[c]]
    | step :: steps => (c :: step) :: steps

/-- Whether a text is a step of a path after the first. -/
def isStep (step : List Char) : Bool := isIdentText step && isStepWord (String.ofList step)

/-- Whether steps are the path of a type. The first step is empty for a path from the root, and a
bound can stand before such a path. -/
def isTypePath : List (List Char) → Bool
  | [] => false
  | first :: rest =>
    rest.all isStep &&
      (isIdentText first && isFirstWord (String.ofList first) ||
        (first.isEmpty || boundWords.contains (String.ofList first)) && !rest.isEmpty)

/-- The reserved words that are values. -/
def truthWords : List String := ["true", "false"]

/-- Whether a name reads as a number. -/
def isNumeral (w : List Char) : Bool := (afterNumber? w).isSome

/-- Whether steps are no type but can stand between angle brackets: nothing at all, a truth value or
a number. -/
def isValueText : List (List Char) → Bool
  | [first] => first.isEmpty || truthWords.contains (String.ofList first) || isNumeral first
  | _ => false

/-- Whether the text of a path is a type. -/
def isTypeText (text : String) : Bool := text == "()" || isTypePath (pathSteps text.toList)

/-- Whether the text of a path can stand between angle brackets. -/
def isArgsText (text : String) : Bool := isTypeText text || isValueText (pathSteps text.toList)

/-- Whether the text of a path can be one of several arguments. -/
def isArgText (text : String) : Bool := text != "" && isArgsText text

end ProtoRest.Code
