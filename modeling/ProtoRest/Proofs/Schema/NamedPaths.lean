import Mathlib.Tactic.SplitIfs
import ProtoRest.Proofs.Code.TypeTexts
import ProtoRest.Proofs.Code.Identifiers
import ProtoRest.Schema.TypePath

/-! # Paths of names
The path of a type is made of names when its full name and the packages are names with dots between
them (`isNamedText_typePath`). -/

namespace ProtoRest.Schema

open ProtoRest.Code ProtoRest.Text

/-- A text has only characters of names and dots. -/
def HasDottedChars (text : List Char) : Prop := ∀ c ∈ text, isNameChar c = true ∨ c = '.'

/-! ## Joining steps -/

/-- The characters of joined steps are the joined characters of the steps. -/
theorem toList_intercalate (sep : String) (steps : List String) :
    (sep.intercalate steps).toList = joinWith sep.toList (steps.map String.toList) := by
  induction steps with
  | nil => rw [String.intercalate_nil]; rfl
  | cons s ss ih =>
    cases ss with
    | nil => rw [String.intercalate_singleton]; rfl
    | cons t ts =>
      rw [String.intercalate_cons_cons, String.toList_append, String.toList_append, ih]
      rfl

/-- A step of names that is no lone underscore. -/
structure IsNamedStep (step : String) : Prop where
  /-- It has only characters of names. -/
  chars : HasNameChars step
  /-- It does not leave the type open. -/
  closed : step ≠ "_"

/-- Named steps, joined by double colons, form a named text. -/
theorem isNamedText_intercalate {steps : List String} (hne : steps ≠ [])
    (h : ∀ step ∈ steps, IsNamedStep step) : IsNamedText ("::".intercalate steps) := by
  obtain ⟨first, rest, rfl⟩ := List.exists_cons_of_ne_nil hne
  refine .inr ⟨first.toList, rest.map String.toList, ?_, fun hfirst => ?_, ?_⟩
  · intro w hw
    rw [← List.map_cons] at hw
    obtain ⟨step, hstep, rfl⟩ := List.mem_map.mp hw
    exact (h step hstep).chars
  · exact (h first List.mem_cons_self).closed (String.toList_inj.mp hfirst)
  · rw [toList_intercalate]
    rfl

/-- The snake case form of a name is a named step. -/
theorem isNamedStep_snakeCase {name : String} (h : HasNameChars name) :
    IsNamedStep (snakeCase name) :=
  ⟨isNameChar_snakeCase h, snakeCase_ne_underscore h⟩

/-- The camel case form of a name is a named step. -/
theorem isNamedStep_upperCamelCase {name : String} (h : HasNameChars name) :
    IsNamedStep (upperCamelCase name) :=
  ⟨isNameChar_upperCamelCase h, upperCamelCase_ne_underscore h⟩

/-! ## Parts of names -/

section Parts

variable {text : List Char} (htext : HasDottedChars text)

include htext

/-- The parts between the dots are made of names. -/
theorem isNameChar_of_mem_splitAt {part : List Char} (h : part ∈ splitAt '.' text) :
    ∀ c ∈ part, isNameChar c = true := by
  intro c hc
  have hmem : c ∈ (splitAt '.' text).flatten := List.mem_flatten_of_mem h hc
  rw [splitAt, flatten_splitWhere, List.mem_filter] at hmem
  obtain ⟨hmem, hdot⟩ := hmem
  refine (htext c hmem).resolve_right ?_
  rintro rfl
  cases hdot

/-- The parts of a dotted name are written in characters of names. -/
theorem hasNameChars_of_mem_parts {name : String}
    (h : name ∈ (splitAt '.' text).map String.ofList) : HasNameChars name := by
  obtain ⟨part, hpart, rfl⟩ := List.mem_map.mp h
  intro c hc
  rw [String.toList_ofList] at hc
  exact isNameChar_of_mem_splitAt htext hpart c hc

/-- What is left of a dotted text after leaving characters out is dotted. -/
theorem HasDottedChars.sublist {part : List Char} (h : part.Sublist text) : HasDottedChars part :=
  fun c hc => htext c (h.subset hc)

/-- A dotted name without its package is dotted. -/
theorem HasDottedChars.nameInPackage (package : List Char) :
    HasDottedChars (nameInPackage package text) := by
  refine htext.sublist ?_
  rw [Schema.nameInPackage]
  split_ifs
  · exact .refl text
  · exact (List.dropWhile_sublist _).trans (List.drop_sublist _ _)
  · exact .refl text

/-- A dotted text without the copies of its start is dotted. -/
theorem HasDottedChars.dropCopies (start : List Char) (n : Nat) :
    HasDottedChars (dropCopies start n text) := by
  induction n generalizing text with
  | zero => exact htext
  | succ n ih =>
    rw [Schema.dropCopies]
    split_ifs
    · exact ih (htext.sublist (List.drop_sublist _ _))
    · exact htext

/-- The parts of a package are written in characters of names. -/
theorem hasNameChars_of_mem_packageParts {package : String} (hpackage : package.toList = text)
    {name : String} (h : name ∈ packageParts package) : HasNameChars name := by
  subst hpackage
  rw [packageParts] at h
  obtain ⟨part, hpart, rfl⟩ := List.mem_map.mp h
  exact hasNameChars_of_mem_parts htext (List.mem_map_of_mem (List.mem_of_mem_filter hpart))

/-- The path of a well-known type is made of names. -/
theorem isNamedText_wellKnownPath : IsNamedText (wellKnownPath text) := by
  rw [wellKnownPath]
  split_ifs
  · exact .inl rfl
  · have hname := htext.dropCopies "google.protobuf.".toList text.length
    generalize dropCopies "google.protobuf.".toList text.length text = name at hname ⊢
    -- the path starts from the root, so its first step is empty
    refine .inr ⟨[], "prost_types".toList :: splitAt '.' name, ?_, by decide, ?_⟩
    · intro w hw
      simp only [List.mem_cons] at hw
      obtain rfl | rfl | hw := hw
      · intro c hc
        cases hc
      · exact List.all_eq_true.mp rfl
      · exact isNameChar_of_mem_splitAt hname hw
    · obtain ⟨part, parts, hparts⟩ : ∃ part parts, splitAt '.' name = part :: parts :=
        List.exists_cons_of_ne_nil (splitWhere_ne_nil _ name)
      rw [String.toList_append, String.toList_ofList, String.toList_ofList, hparts]
      rfl

end Parts

/-! ## Paths of types -/

/-- The path of a type is made of names. -/
theorem isNamedText_typePath {fromPackage package fullName : String}
    (hpackage : HasDottedChars package.toList) (hname : HasDottedChars fullName.toList) :
    IsNamedText (typePath fromPackage package fullName) := by
  have hname : HasDottedChars (fullName.toList.dropWhile (· == '.')) :=
    hname.sublist (List.dropWhile_sublist _)
  rw [typePath]
  split_ifs
  · exact isNamedText_wellKnownPath hname
  · have hparts := hname.nameInPackage package.toList
    refine isNamedText_intercalate (by simp) fun step hstep => ?_
    simp only [List.mem_append, List.mem_replicate, List.mem_map, List.mem_singleton] at hstep
    -- steps up to the root, then modules in snake case, then the name of the type
    obtain (⟨-, rfl⟩ | ⟨name, hmem, rfl⟩) | rfl := hstep
    · exact ⟨by decide, by decide⟩
    · refine isNamedStep_snakeCase ?_
      obtain hmem | hmem := hmem
      · exact hasNameChars_of_mem_packageParts hpackage rfl (List.mem_of_mem_drop hmem)
      · exact hasNameChars_of_mem_parts hparts ((List.dropLast_sublist _).subset hmem)
    · refine isNamedStep_upperCamelCase ?_
      cases hlast : ((splitAt '.' (nameInPackage package.toList
          (fullName.toList.dropWhile (· == '.')))).map String.ofList).getLast? with
      | none => decide
      | some name => exact hasNameChars_of_mem_parts hparts (List.mem_of_getLast? hlast)

end ProtoRest.Schema
