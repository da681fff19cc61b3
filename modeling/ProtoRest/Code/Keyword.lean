/-! # Reserved words
The words that generated code may not use as plain identifiers. -/

namespace ProtoRest.Code

/-- Every reserved word, those kept for the future included. -/
def keywords : List String :=
  ["as", "break", "const", "continue", "crate", "else", "enum", "extern", "false", "fn", "for",
   "if", "impl", "in", "let", "loop", "match", "mod", "move", "mut", "pub", "ref", "return",
   "self", "Self", "static", "struct", "super", "trait", "true", "type", "unsafe", "use", "where",
   "while", "async", "await", "dyn", "abstract", "become", "box", "do", "final", "macro",
   "override", "priv", "typeof", "unsized", "virtual", "yield", "try", "gen"]

/-- Whether a name has to be escaped as an identifier. -/
def isKeyword (name : String) : Bool := keywords.contains name

/-- The keywords are those of the list. -/
theorem isKeyword_iff {name : String} : isKeyword name = true ↔ name ∈ keywords := by
  simp [isKeyword]

end ProtoRest.Code
