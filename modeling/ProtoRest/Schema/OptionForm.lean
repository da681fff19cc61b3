import ProtoRest.Descriptor.Build
import ProtoRest.Descriptor.Form
import ProtoRest.Descriptor.Settle
import ProtoRest.Schema.WireForm

/-! # Forms of annotations
The messages that annotate methods and enum values, as the schema language declares them: the forms of
their fields, and when options carry one of them as it is written. -/

namespace ProtoRest.Schema

open ProtoRest.Descriptor ProtoRest.Wire

/-- The message of HTTP rules. -/
def ruleMessage : String := "google.api.HttpRule"

/-- The message of patterns with a verb of their own. -/
def customMessage : String := "google.api.CustomHttpPattern"

/-- The message that annotates an error. -/
def errorMessage : String := "sphere.errors.Error"

/-- The choice of the verb in a rule. -/
def patternChoice : String := "pattern"

/-- The form of a text, perhaps in a choice. -/
def textForm (number : Nat) (oneof : Option String) : FieldForm where
  number := number
  type := .scalar .string
  isRepeated := false
  presence := oneof.isSome
  oneof := oneof
  packed := false

/-- The forms of the fields of rules. -/
def ruleForms : List FieldForm :=
  textForm 1 none :: textForm 7 none :: textForm 12 none ::
    { number := 8, type := .message customMessage false, isRepeated := false, presence := true,
      oneof := some patternChoice, packed := false } ::
    { number := 11, type := .message ruleMessage false, isRepeated := true, presence := false,
      oneof := none, packed := false } ::
    [2, 3, 4, 5, 6].map fun number => textForm number (some patternChoice)

/-- The forms of the fields of patterns with a verb of their own. -/
def customForms : List FieldForm := [textForm 1 none, textForm 2 none]

/-- The form of a part of the annotation of an error: its absence can be seen, perhaps by a choice that
marks it. -/
def errorForm (marked : Bool) (number : Nat) (name : String) (type : ScalarType) : FieldForm where
  number := number
  type := .scalar type
  isRepeated := false
  presence := true
  oneof := if marked then some ("_" ++ name) else none
  packed := false

/-- The forms of the fields of the annotation of an error. -/
def errorForms (marked : Bool) : List FieldForm :=
  [errorForm marked 1 "status" .int32, errorForm marked 2 "code" .int32,
   errorForm marked 3 "reason" .string, errorForm marked 4 "message" .string]

/-! ## Pools with annotations -/

/-- A pool has the fields of rules. -/
def HasRuleForms (p : Pool) : Prop :=
  p.HasForms ruleMessage ruleForms ∧ p.HasForms customMessage customForms

instance (p : Pool) : Decidable (HasRuleForms p) := inferInstanceAs (Decidable (_ ∧ _))

/-- No file declares rules as the entries of a map. -/
def RulesAreNoEntries (decls : List FileDecl) : Prop :=
  ∀ d ∈ decls, ∀ m ∈ headsInAll d.package d.messages, m.1 = ruleMessage → m.2.mapEntry = false

instance (decls : List FileDecl) : Decidable (RulesAreNoEntries decls) :=
  inferInstanceAs (Decidable (∀ d ∈ decls, ∀ m ∈ headsInAll d.package d.messages, _ → _))

/-- A pool has the fields of the annotation of an error. -/
def HasErrorForms (p : Pool) : Prop := ∃ marked, p.HasForms errorMessage (errorForms marked)

instance (p : Pool) : Decidable (HasErrorForms p) :=
  inferInstanceAs (Decidable (∃ marked, p.HasForms errorMessage (errorForms marked)))

/-! ## Values -/

/-- How many messages there are inside each other in a pattern. -/
def patternNesting : Option Pattern → Nat
  | some (.custom _ _) => 1
  | _ => 0

namespace HttpRule

mutual

/-- How many messages there are inside each other in a rule, the rule itself apart. -/
def nesting : HttpRule → Nat
  | .mk _ pattern _ _ additional => max (patternNesting pattern) (additionalNesting additional)

/-- How many messages there are inside each other in further rules. -/
def additionalNesting : List HttpRule → Nat
  | [] => 0
  | rule :: rules => max (rule.nesting + 1) (additionalNesting rules)

end

end HttpRule

/-- The numbers of an annotation are numbers of 32 bits with a sign. -/
def ErrorOptions.FitsInt32 (e : ErrorOptions) : Prop :=
  ∀ n ∈ e.status.toList ++ e.code.toList, -2147483648 ≤ n ∧ n < 2147483648

instance (e : ErrorOptions) : Decidable e.FitsInt32 :=
  inferInstanceAs (Decidable (∀ n ∈ e.status.toList ++ e.code.toList, _))

/-- Options carry bytes under a number, once, and there are no open options beside them. -/
def Carries (number : Nat) (bs : Bytes) (options : Fields) : Prop :=
  Fields.values options number = [.bytes bs] ∧ openOptionsOf options = []

/-- Whether values are the given bytes, once. -/
def areBytes (bs : Bytes) : List Raw → Bool
  | [.bytes found] => found == bs
  | _ => false

/-- Values are given bytes exactly when they are the one value of these bytes. -/
theorem areBytes_iff {bs : Bytes} {raws : List Raw} : areBytes bs raws = true ↔ raws = [.bytes bs] := by
  unfold areBytes
  split
  · simp
  · rename_i hother
    simp only [Bool.false_eq_true, false_iff]
    exact hother bs

instance (number : Nat) (bs : Bytes) (options : Fields) : Decidable (Carries number bs options) :=
  decidable_of_iff
    (areBytes bs (Fields.values options number) = true ∧ (openOptionsOf options).isEmpty = true) <| by
    rw [areBytes_iff, List.isEmpty_iff, Carries]

/-- Options can be settled with bytes under a number wherever they can without them. -/
def TakesBytes (s : Settler) (owner : OptionOwner) (number : Nat) (bs : Bytes) : Prop :=
  ∀ scope before after others, Fields.values (before ++ after) number = [] →
    openOptionsOf (before ++ after) = [] → s.options owner scope (before ++ after) = .ok others →
      ∃ settled, s.options owner scope (before ++ (number, .bytes bs) :: after) = .ok settled

/-- Options carry a rule, in which messages nest no deeper than they can be read. -/
def CarriesRule (number : Nat) (rule : HttpRule) (options : Fields) : Prop :=
  rule.nesting < maxDepth ∧ Carries number rule.write options

instance (number : Nat) (rule : HttpRule) (options : Fields) :
    Decidable (CarriesRule number rule options) := inferInstanceAs (Decidable (_ ∧ _))

/-- Options carry the annotation of an error, with numbers that the schema language has. -/
def CarriesError (number : Nat) (e : ErrorOptions) (options : Fields) : Prop :=
  e.FitsInt32 ∧ Carries number e.write options

instance (number : Nat) (e : ErrorOptions) (options : Fields) :
    Decidable (CarriesError number e options) := inferInstanceAs (Decidable (_ ∧ _))

end ProtoRest.Schema
