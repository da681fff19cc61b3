import Mathlib.Tactic.SplitIfs
import ProtoRest.ErrorSet.Accessors
import ProtoRest.ErrorSet.Legible
import ProtoRest.Proofs.Code.Identifiers

/-! # Names of variants
The name of a variant is an identifier exactly when it starts with a letter (`decides_parse`). The
letter is a capital, so no reserved word that cannot stand after a path is in its way
(`cannotFollow_variantName`). -/

namespace ProtoRest.ErrorSet

open ProtoRest.Code ProtoRest.Schema ProtoRest.Text

/-! ## What is left of a name -/

/-- A name keeps its start, or loses it before a capital. -/
theorem stripEnumName_cases (start name : String) :
    stripEnumName start name = name ∨
      ∃ c cs, (stripEnumName start name).toList = c :: cs ∧ isUpper c = true ∧
        c :: cs = name.toList.drop start.toList.length := by
  rw [stripEnumName]
  split_ifs
  · cases hdrop : name.toList.drop start.toList.length with
    | nil => exact .inl rfl
    | cons c cs =>
      show (if isUpper c then String.ofList (c :: cs) else name) = name ∨ ∃ d ds,
        (if isUpper c then String.ofList (c :: cs) else name).toList = d :: ds ∧ _
      split_ifs with hupper
      · exact .inr ⟨c, cs, String.toList_ofList, hupper, rfl⟩
      · exact .inl rfl
  · exact .inl rfl

/-- A capital or a digit. -/
def IsVariantStart (c : Char) : Prop := c.isAlpha = c.isUpper ∧ c.isUpper = !c.isDigit

instance (c : Char) : Decidable (IsVariantStart c) :=
  inferInstanceAs (Decidable (c.isAlpha = c.isUpper ∧ c.isUpper = !c.isDigit))

/-- A capital among the characters of names starts a variant. -/
theorem isVariantStart_of_isUpper {c : Char} (hc : isNameChar c = true) :
    isUpper c = true → IsVariantStart c :=
  forall_isNameChar (fun c => isUpper c = true → IsVariantStart c) (by decide) hc

/-- The capital form of a character of names, other than the underscore, starts a variant. -/
theorem isVariantStart_toUpper {c : Char} (hc : isNameChar c = true) :
    c ≠ '_' → IsVariantStart c.toUpper :=
  forall_isNameChar (fun c => c ≠ '_' → IsVariantStart c.toUpper) (by decide) hc

section Names

variable {enum value : String} (hvalue : HasNameChars value)

include hvalue

/-- A variant is written in characters of names. -/
theorem hasNameChars_variantName : HasNameChars (variantName enum value) := by
  have hname : HasNameChars (upperCamelCase value) := isNameChar_upperCamelCase hvalue
  rw [variantName]
  obtain h | ⟨c, cs, h, -, hdrop⟩ := stripEnumName_cases (upperCamelCase enum) (upperCamelCase value)
  · rwa [h]
  · intro d hd
    rw [h, hdrop] at hd
    exact hname d (List.mem_of_mem_drop hd)

/-- A variant starts with a capital or a digit. -/
theorem head?_variantName {c : Char} (h : (variantName enum value).toList.head? = some c) :
    IsVariantStart c := by
  have hchars : HasNameChars (variantName enum value) := hasNameChars_variantName hvalue
  rw [variantName] at h hchars
  obtain hcase | ⟨d, ds, hcase, hupper, -⟩ :=
    stripEnumName_cases (upperCamelCase enum) (upperCamelCase value)
  · rw [hcase, head?_upperCamelCase hvalue] at h
    obtain ⟨d, hlead, rfl⟩ := Option.map_eq_some_iff.mp h
    obtain ⟨hd, hne⟩ := lead?_cases hvalue hlead
    exact isVariantStart_toUpper hd hne
  · rw [hcase, List.head?_cons, Option.some.injEq] at h
    subst h
    exact isVariantStart_of_isUpper (hchars d (by rw [hcase]; exact List.mem_cons_self)) hupper

/-- A variant is an identifier exactly when it starts with a letter. -/
theorem isIdentText_variantName : isIdentText (variantName enum value).toList = true ↔
    startsWithLetter (variantName enum value) = true := by
  rw [isIdentText_iff (hasNameChars_variantName hvalue), startsWithLetter]
  cases hhead : (variantName enum value).toList.head? with
  | none => simp
  | some c =>
    obtain ⟨halpha, hupper⟩ := head?_variantName hvalue hhead
    simp [halpha, hupper]

/-- No reserved word in the way of a path starts with a capital. -/
theorem cannotFollow_variantName (h : startsWithLetter (variantName enum value) = true) :
    cannotFollow (variantName enum value) = false := by
  -- of the reserved words only one begins with a capital, and it may stand in a path
  have hwords : ∀ w ∈ reservedWords, w.toList.head?.any Char.isUpper = true → w ∈ pathWords := by
    decide
  have hcapital : (variantName enum value).toList.head?.any Char.isUpper = true := by
    rw [startsWithLetter] at h
    cases hhead : (variantName enum value).toList.head? with
    | none => rw [hhead] at h; cases h
    | some c =>
      rw [hhead] at h
      exact (head?_variantName hvalue hhead).1.symm.trans h
  rw [cannotFollow, Bool.and_eq_false_iff, Bool.not_eq_false']
  cases hword : reservedWords.contains (variantName enum value) with
  | false => exact .inl rfl
  | true =>
    have hmem := hwords _ (List.contains_iff_mem.mp hword) hcapital
    exact .inr (List.contains_iff_mem.mpr hmem)

/-- A letter at its start decides whether a name can be that of a variant. -/
theorem decides_parse : Decides (startsWithLetter (variantName enum value) = true) (fun _ => True)
    (Ident.parse (variantName enum value)) := by
  have hchars : HasNameChars (variantName enum value) := hasNameChars_variantName hvalue
  have hparse : Ident.parse (variantName enum value) = Ident.make (variantName enum value) := by
    rw [Ident.parse]
    split
    case h_1 rest hraw =>
      have hmark : '#' ∈ (variantName enum value).toList := by
        rw [hraw]
        exact List.mem_cons_of_mem _ List.mem_cons_self
      exact absurd (hchars '#' hmark) (by decide)
    case h_2 => rfl
  rw [hparse]
  exact ((decides_make _).imp fun _ _ => trivial).congr (isIdentText_variantName hvalue)

end Names

end ProtoRest.ErrorSet
