/-! # Names
The names of the schema language: a letter or an underscore, then letters, digits and underscores.
What is left at the start of a name when its underscores go decides what becomes of it in generated
code. -/

namespace ProtoRest.Schema

/-- A letter, a digit or an underscore. -/
def isNameChar (c : Char) : Bool := c.isAlphanum || c == '_'

/-- Whether a text is a name. -/
def isName (name : String) : Bool :=
  match name.toList with
  | [] => false
  | c :: cs => (c.isAlpha || c == '_') && cs.all isNameChar

/-- Whether a text starts with a letter. -/
def startsWithLetter (text : String) : Bool := text.toList.head?.any Char.isAlpha

/-- The first character of a name that is not an underscore. -/
def lead? (name : String) : Option Char := name.toList.find? (· != '_')

/-- Whether a name starts with a letter after its underscores. -/
def leadsWithLetter (name : String) : Bool := (lead? name).any Char.isAlpha

/-- Whether a name starts with a digit after its underscores. -/
def leadsWithDigit (name : String) : Bool := (lead? name).any Char.isDigit

end ProtoRest.Schema
