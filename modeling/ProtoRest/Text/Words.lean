import ProtoRest.Text.Alphanumeric
import ProtoRest.Text.Blank
import ProtoRest.Text.LetterCase

/-! # Words of identifiers
An identifier in any notation is a sequence of words. `identifierWords` finds them: characters that
are neither letters nor numbers separate words, a word ends after a lower-case letter before an
upper-case one, and in a run of upper-case letters before a lower-case one the last upper-case
letter starts a word. `snakeCase`, `upperCamelCase` and `shoutyCase` write the words again. -/

namespace ProtoRest.Text

/-- The case of the last letter with a case in the word that is being read. -/
inductive WordMode
  /-- No letter of the word has had a case yet. -/
  | fresh
  /-- The last one was in lower case. -/
  | lower
  /-- The last one was in upper case. -/
  | upper
  deriving DecidableEq, Repr

/-- The mode after one more character that does not end the word. -/
def WordMode.next (m : WordMode) (c : Char) : WordMode :=
  if isLower c then .lower else if isUpper c then .upper else m

/-- The words of a text without separators, given the mode and the letters of the word so far. -/
def cutWords (m : WordMode) (word : List Char) : List Char → List (List Char)
  | [] => if word = [] then [] else [word]
  | [c] => [word ++ [c]]
  | c :: d :: rest =>
    -- a capital after a small letter starts a word, and so does the last capital before a small
    -- one
    if m.next c = .lower ∧ isUpper d then (word ++ [c]) :: cutWords .fresh [] (d :: rest)
    else if m = .upper ∧ isUpper c ∧ isLower d then word :: cutWords .fresh [c] (d :: rest)
    else cutWords (m.next c) (word ++ [c]) (d :: rest)

/-- The words of an identifier. -/
def identifierWords (cs : List Char) : List (List Char) :=
  (splitWhere (!isAlphanumeric ·) cs).flatMap (cutWords .fresh [])

/-! ## Writing words -/

/-- A word in lower case; a capital sigma at its end takes the final form. -/
def lowerWord : List Char → List Char
  | [] => []
  | [c] => if c = 'Σ' then ['ς'] else toLower c
  | c :: cs => toLower c ++ lowerWord cs

/-- A word in upper case. -/
def upperWord (cs : List Char) : List Char := cs.flatMap toUpper

/-- A word with its first letter in upper case and the others in lower case. -/
def capitalWord : List Char → List Char
  | [] => []
  | c :: cs => toUpper c ++ lowerWord cs

/-- The words in lower case, joined by underscores. -/
def snakeCase (s : String) : String :=
  String.ofList (joinWith ['_'] ((identifierWords s.toList).map lowerWord))

/-- The words with capitals, one after the other. -/
def upperCamelCase (s : String) : String :=
  String.ofList ((identifierWords s.toList).flatMap capitalWord)

/-- The words in upper case, joined by underscores. -/
def shoutyCase (s : String) : String :=
  String.ofList (joinWith ['_'] ((identifierWords s.toList).map upperWord))

end ProtoRest.Text
