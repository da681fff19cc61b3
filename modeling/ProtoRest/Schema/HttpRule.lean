/-! # HTTP rules
The annotation that binds a method to HTTP: a pattern with a path template, the field that the body
holds, the field that the response shows, and further rules for the same method. -/

namespace ProtoRest.Schema

/-- A verb with a path template. -/
inductive Pattern
  /-- Read. -/
  | get (path : String)
  /-- Replace. -/
  | put (path : String)
  /-- Create or act. -/
  | post (path : String)
  /-- Remove. -/
  | delete (path : String)
  /-- Change in part. -/
  | patch (path : String)
  /-- A verb given by its name. -/
  | custom (kind path : String)
  deriving DecidableEq, Repr

/-- An HTTP rule. -/
inductive HttpRule
  /-- The rule with its method selector, pattern, body field, response field and further rules. -/
  | mk (selector : String) (pattern : Option Pattern) (body responseBody : String)
    (additional : List HttpRule)
  deriving Repr, Inhabited

namespace HttpRule

mutual

/-- Whether two rules are equal. -/
def decEq : (a b : HttpRule) → Decidable (a = b)
  | mk selector pattern body responseBody additional,
      mk selector' pattern' body' responseBody' additional' =>
    have := decEqAll additional additional'
    decidable_of_iff (selector = selector' ∧ pattern = pattern' ∧ body = body' ∧
      responseBody = responseBody' ∧ additional = additional') (by simp)

/-- Whether two lists of rules are equal. -/
def decEqAll : (as bs : List HttpRule) → Decidable (as = bs)
  | [], [] => isTrue rfl
  | [], _ :: _ | _ :: _, [] => isFalse (by simp)
  | a :: as, b :: bs =>
    have := decEq a b
    have := decEqAll as bs
    decidable_of_iff (a = b ∧ as = bs) (by simp)

end

instance : DecidableEq HttpRule := decEq

/-- The method that a rule in a service configuration selects. -/
def selector : HttpRule → String
  | mk selector _ _ _ _ => selector

/-- The verb and the path. -/
def pattern : HttpRule → Option Pattern
  | mk _ pattern _ _ _ => pattern

/-- The request field that the body holds; a star stands for the whole request. -/
def body : HttpRule → String
  | mk _ _ body _ _ => body

/-- The reply field that is returned; a star or nothing stands for the whole reply. -/
def responseBody : HttpRule → String
  | mk _ _ _ responseBody _ => responseBody

/-- The further rules of the same method. -/
def additional : HttpRule → List HttpRule
  | mk _ _ _ _ additional => additional

/-- The rules that a method has by its annotation: the annotation itself and its further rules. The
further rules of a further rule do not count. -/
def all (rule : HttpRule) : List HttpRule := rule :: rule.additional

/-- The rule without its further rules. -/
def alone (rule : HttpRule) : HttpRule :=
  .mk rule.selector rule.pattern rule.body rule.responseBody []

end HttpRule

end ProtoRest.Schema
