import ProtoRest.Code.Layout
import ProtoRest.Code.Syntax

/-! # Shapes of expressions
Where lines may end and where semicolons go depends on what an expression is: whether it has brackets
of its own, whether it can start a statement, and what ends it. -/

namespace ProtoRest.Code.Expr

/-- Whether an expression is a name not longer than one step of indentation. -/
def isShortName : Expr → Bool
  | .path (.path (.mk false [.plain name])) => (name.utf8ByteSize : Int) ≤ indentStep
  | _ => false

/-- Whether an expression holds its content in brackets of its own and has no attributes. -/
def isBlocklike : Expr → Bool
  | .block _ _ (.about _ :: _) => false
  | .array _ | .block _ _ _ | .closure _ _ _ _ _ | .struct _ _ | .tuple _ => true
  | _ => false

/-- Whether the body of a function without a name needs brackets when it does not fit. -/
def wrapsInBraces : Expr → Bool
  | .switch _ _ _ | .call _ _ => false
  | e => !e.isBlocklike

/-- Whether the brace after a condition goes on a line of its own when the condition is broken. -/
def wrapsBrace : Expr → Bool
  | .assign _ _ | .await _ | .binary _ _ _ | .cast _ _ | .field _ _ | .index _ _
  | .method _ _ _ _ => true
  | .jump _ _ (some e) | .call e _ | .matches _ e | .paren e | .range _ _ (some e) | .try_ e
  | .unary _ e | .attributed _ e => e.wrapsBrace
  | _ => false

/-- Whether a branch of a choice needs a comma after this expression. -/
def needsComma : Expr → Bool
  | .ite _ _ _ | .switch _ _ _ | .while_ _ _ _ | .loop _ _ | .for_ _ _ _ _ => false
  | .block _ intro _ => intro == "async " || intro == "async move "
  | .attributed _ e => e.needsComma
  | _ => true

/-- Whether a statement needs a semicolon after this expression. -/
def needsSemicolon : Expr → Bool
  | .macroCall m => m.bracket != .curly
  | .attributed _ e => e.needsSemicolon
  | e => e.needsComma

/-- Whether an expression at the start of a statement is read as a whole. -/
def startsStatement : Expr → Bool
  | .assign e _ | .await e | .field e _ | .method e _ _ _ | .try_ e | .attributed _ e =>
    e.startsStatement
  | .binary e _ _ | .call e _ | .cast e _ | .index e _ | .range (some e) _ _ =>
    e.needsSemicolon && e.startsStatement
  | _ => true

/-- The operators that change their left operand. -/
def assignOperators : List String :=
  ["+=", "-=", "*=", "/=", "%=", "^=", "&=", "|=", "<<=", ">>="]

/-- Whether an expression at the end of a block gets a semicolon. -/
def addsSemicolon : Expr → Bool
  | .assign _ _ | .jump _ _ _ => true
  | .binary _ operator _ => assignOperators.contains operator
  | .attributed _ e => e.addsSemicolon
  | _ => false

/-- Whether an expression loses the semicolon after it. -/
def dropsSemicolon : Expr → Bool
  | .for_ _ _ _ _ | .while_ _ _ _ | .ite _ _ none => true
  | .ite _ _ (some e) | .attributed _ e => e.dropsSemicolon
  | _ => false

/-- Whether the last token of an expression closes a curly bracket. -/
def endsInBrace : Expr → Bool
  | .block _ _ _ | .for_ _ _ _ _ | .ite _ _ _ | .loop _ _ | .switch _ _ _ | .struct _ _
  | .while_ _ _ _ => true
  | .assign _ e | .binary _ _ e | .jump _ _ (some e) | .closure _ _ _ _ e | .matches _ e
  | .range _ _ (some e) | .unary _ e | .attributed _ e => e.endsInBrace
  | .macroCall m => m.bracket == .curly
  | _ => false

/-- Whether an expression is a literal of a fixed width: a number, a character or a truth value. -/
def isPlainValue : Expr → Bool
  | .literal text =>
    text == "true" || text == "false" || isCharacter text || isInteger text ||
      (text.toList.head? == some '-' && isInteger (text.drop 1).toString)
  | _ => false

end ProtoRest.Code.Expr
