import ProtoRest.Proofs.Schema.ModulePaths

/-! # Reserved words in paths
The names of fields are escaped when they are reserved words, the steps of paths are not. So the
path of a type is the escaped one when none of the steps that name the type is reserved, and then
generated code can hold it (`paths_are_escaped_iff`). -/

namespace ProtoRest.Schema

open ProtoRest.Code ProtoRest.Text

/-! ## Escaped steps -/

section Step

variable {step : String} (hstep : isIdentText step.toList = true)

include hstep

/-- An identifier stays as it is, and a reserved word gets an underscore behind or a mark in front. -/
theorem ofField_of_isIdentText :
    Ident.ofField step = .ok ⟨escapedStep step⟩ ∧
      (escapedStep step = step ∧ isKeyword step = false ∨
        (escapedStep step = step ++ "_" ∨ escapedStep step = "r#" ++ step) ∧
          isKeyword step = true) := by
  rw [escapedStep]
  by_cases hunrawable : step ∈ Ident.unrawableFields
  · -- the few words that no mark makes a name, each on its own
    have hall : ∀ w ∈ Ident.unrawableFields,
        (Ident.ofField w).toOption = some ⟨w ++ "_"⟩ ∧ isKeyword w = true := by decide
    obtain ⟨hfield, hkeyword⟩ := hall step hunrawable
    rw [Result.toOption_eq_some_iff.mp hfield]
    exact ⟨rfl, .inr ⟨.inl rfl, hkeyword⟩⟩
  · cases hkeyword : isKeyword step with
    | true =>
      have hfield : Ident.ofField step = .ok ⟨"r#" ++ step⟩ := by
        rw [Ident.ofField, if_neg hunrawable, if_pos hkeyword]
      rw [hfield]
      exact ⟨rfl, .inr ⟨.inr rfl, rfl⟩⟩
    | false =>
      have hfield : Ident.ofField step = .ok ⟨step⟩ := by
        rw [Ident.ofField, if_neg hunrawable, if_neg (by simp [hkeyword]), Ident.make, if_pos hstep]
      rw [hfield]
      exact ⟨rfl, .inl ⟨rfl, rfl⟩⟩

/-- Escaping changes exactly the keywords. -/
theorem escapedStep_eq_self_iff : escapedStep step = step ↔ isKeyword step = false := by
  obtain ⟨-, ⟨hself, hword⟩ | ⟨hescaped, hword⟩⟩ := ofField_of_isIdentText hstep
  · exact iff_of_true hself hword
  · refine iff_of_false (fun hself => ?_) (by simp [hword])
    have hlength := congrArg String.length hself
    obtain hescaped | hescaped := hescaped <;>
      simp [hescaped, String.length_append] at hlength

/-- An escaped step holds no colon. -/
theorem colon_notMem_escapedStep (hchars : HasNameChars step) : ':' ∉ (escapedStep step).toList := by
  have hcolon := colon_notMem hchars
  obtain ⟨-, ⟨hself, -⟩ | ⟨hescaped | hescaped, -⟩⟩ := ofField_of_isIdentText hstep
  · rwa [hself]
  · simp [hescaped, hcolon]
  · simp [hescaped, hcolon]

/-- An identifier can be any step of a path. -/
theorem isStep_of_isIdentText (hword : isKeyword step = false) (hclosed : step ≠ "_") :
    isStep step.toList = true ∧ isFirstWord step = true := by
  have hall : ∀ w ∈ reservedWords, w = "_" ∨ isKeyword w = true := by decide
  have hfree : reservedWords.contains step = false := by
    rw [Bool.eq_false_iff]
    intro hreserved
    obtain hopen | hreserved := hall step (List.contains_iff_mem.mp hreserved)
    · exact hclosed hopen
    · rw [hword] at hreserved
      cases hreserved
  rw [isStep, isStepWord, isFirstWord, String.ofList_toList, hstep, hfree]
  exact ⟨rfl, rfl⟩

end Step

/-- Steps that may each begin a path form the path of a type. -/
theorem isTypePath_of_forall {steps : List String} (hne : steps ≠ [])
    (hsteps : ∀ step ∈ steps, isStep step.toList = true ∧ isFirstWord step = true) :
    isTypePath (steps.map String.toList) = true := by
  obtain ⟨first, rest, rfl⟩ := List.exists_cons_of_ne_nil hne
  rw [List.forall_mem_cons] at hsteps
  obtain ⟨⟨hfirst, hword⟩, hrest⟩ := hsteps
  have hident : isIdentText first.toList = true := by
    rw [isStep, Bool.and_eq_true] at hfirst
    exact hfirst.1
  have hall : (rest.map String.toList).all isStep = true := by
    rw [List.all_map, List.all_eq_true]
    exact fun step hstep => (hrest step hstep).1
  rw [List.map_cons, isTypePath, hall, hident, String.ofList_toList, hword]
  rfl

/-- A text that is no type is reported with the template. -/
theorem tyOfText_error {text : String} {failure : Failure} (h : tyOfText text = .error failure) :
    ∃ message, tyOfText text = .error (.fault (.template message)) := by
  rw [tyOfText] at h ⊢
  cases hty : Ty.ofText text with
  | ok ty =>
    rw [hty] at h
    cases h
  | error fault => exact ⟨_, rfl⟩

/-! ## Steps that name a type -/

namespace NamedType

section Words

variable {t : NamedType} {fromPackage : String} (hwords : t.HasWords)

include hwords

/-- A name that is a word in some case is no underscore. -/
theorem isWord_of_mem_wayIn {step : String} (hstep : step ∈ t.wayIn fromPackage) :
    isIdentText step.toList = true ∧ step ≠ "_" := by
  rw [wayIn] at hstep
  split_ifs at hstep
  · -- a well-known type goes by its declared names, and `_` has no word in it
    refine ⟨isIdentText_of_isName (t.isName_of_mem_withoutHome step hstep), ?_⟩
    rintro rfl
    obtain hparent | hname := List.mem_append.mp hstep
    · have hmem : "_" ∈ packageParts t.package ++ t.parents :=
        List.mem_append_right _ ((withoutHome_suffix t.parents).subset hparent)
      exact absurd (hwords.modules "_" hmem) (by decide)
    · have htype := hwords.type
      rw [← List.mem_singleton.mp hname] at htype
      exact absurd htype (by decide)
  · rw [List.mem_append, List.mem_singleton] at hstep
    obtain hmodule | rfl := hstep
    · obtain ⟨part, hpart, rfl⟩ := List.mem_map.mp hmodule
      have hmem : part ∈ packageParts t.package ++ t.parents :=
        ((List.drop_sublist _ _).append_right _).subset hpart
      have hname : isName part = true :=
        (List.mem_append.mp hmem).elim (t.isName_of_mem_packageParts part) (t.named_parents part)
      exact ⟨hwords.modules part hmem, snakeCase_ne_underscore (hasNameChars_of_isName hname)⟩
    · exact ⟨hwords.type, upperCamelCase_ne_underscore (hasNameChars_of_isName t.named_type)⟩

/-- The path of a type, out of one package and into another, is a named text. -/
theorem isNamedText_path :
    IsNamedText ("::".intercalate (t.wayOut fromPackage ++ t.wayIn fromPackage)) := by
  refine isNamedText_intercalate (by simp [wayIn_ne_nil]) fun step hstep => ?_
  obtain hout | hin := List.mem_append.mp hstep
  · refine ⟨hasNameChars_of_mem_wayOut step hout, ?_⟩
    rintro rfl
    rw [wayOut] at hout
    split_ifs at hout
    · simp at hout
    · exact absurd (List.eq_of_mem_replicate hout) (by decide)
  · exact ⟨hasNameChars_of_mem_wayIn step hin, (isWord_of_mem_wayIn hwords hin).2⟩

/-- The steps of a path decide whether generated code can hold it. -/
theorem decides_path (fromPackage : String) : Decides
    (isTypePath ((t.wayOut fromPackage ++ t.wayIn fromPackage).map String.toList) = true)
    Ty.IsPlain (tyOfText ("::".intercalate (t.wayOut fromPackage ++ t.wayIn fromPackage))) := by
  refine (isNamedText_path hwords).decides_tyOfText.congr ?_
  have hne : "::".intercalate (t.wayOut fromPackage ++ t.wayIn fromPackage) ≠ "()" := by
    intro hunit
    have hsteps := pathSteps_ways fromPackage t
    rw [hunit] at hsteps
    obtain ⟨step, hin⟩ := List.exists_mem_of_ne_nil _ (wayIn_ne_nil fromPackage t)
    have htext : step.toList ∈ pathSteps "()".toList := by
      rw [hsteps]
      exact List.mem_map_of_mem (List.mem_append_right _ hin)
    obtain rfl : step = "()" := String.toList_inj.mp (List.mem_singleton.mp htext)
    exact absurd (hasNameChars_of_mem_wayIn _ hin) (by decide)
  rw [isTypeText, pathSteps_ways, beq_eq_false_iff_ne.mpr hne, Bool.false_or]

/-- A path without reserved words can be held by generated code. -/
theorem isTypePath_of_words
    (hfree : ∀ step ∈ t.wayIn fromPackage, isKeyword step = false) :
    isTypePath ((t.wayOut fromPackage ++ t.wayIn fromPackage).map String.toList) = true := by
  have hin : ∀ step ∈ t.wayIn fromPackage,
      isStep step.toList = true ∧ isFirstWord step = true := fun step hstep =>
    have hword := isWord_of_mem_wayIn hwords hstep
    isStep_of_isIdentText hword.1 (hfree step hstep) hword.2
  -- a path from the root has no word in front, any other starts with a step
  by_cases hhome : t.IsWellKnown fromPackage
  · have hall : (t.wayIn fromPackage).all (isStep ·.toList) = true :=
      List.all_eq_true.mpr fun step hstep => (hin step hstep).1
    have hout : t.wayOut fromPackage = ["", "prost_types"] := if_pos hhome
    have hroot : isStep "prost_types".toList = true := by decide
    rw [hout, List.map_append, List.map_cons, List.map_cons, List.map_nil, List.cons_append,
      isTypePath, List.cons_append, List.all_cons, hroot, List.nil_append, List.all_map]
    simp only [Function.comp_def, hall]
    rfl
  · refine isTypePath_of_forall (by simp [wayIn_ne_nil]) fun step hstep => ?_
    obtain hout | hstep := List.mem_append.mp hstep
    · rw [wayOut, if_neg hhome] at hout
      rw [List.eq_of_mem_replicate hout]
      decide
    · exact hin step hstep

/-- Escaping changes nothing exactly when no step that names the type is a reserved word. -/
theorem escaped_path_eq_iff :
    "::".intercalate (t.wayOut fromPackage ++ t.wayIn fromPackage) =
        "::".intercalate (t.wayOut fromPackage ++ (t.wayIn fromPackage).map escapedStep) ↔
      ∀ step ∈ t.wayIn fromPackage, isKeyword step = false := by
  have hout : ∀ step ∈ t.wayOut fromPackage, ':' ∉ step.toList := fun step hstep =>
    colon_notMem (hasNameChars_of_mem_wayOut step hstep)
  have hin : ∀ step ∈ t.wayIn fromPackage, ':' ∉ step.toList := fun step hstep =>
    colon_notMem (hasNameChars_of_mem_wayIn step hstep)
  have hescaped : ∀ step ∈ (t.wayIn fromPackage).map escapedStep, ':' ∉ step.toList := by
    intro step hstep
    obtain ⟨plain, hplain, rfl⟩ := List.mem_map.mp hstep
    exact colon_notMem_escapedStep (isWord_of_mem_wayIn hwords hplain).1
      (hasNameChars_of_mem_wayIn plain hplain)
  have hmap : (t.wayIn fromPackage).map escapedStep = t.wayIn fromPackage ↔
      ∀ step ∈ t.wayIn fromPackage, escapedStep step = step := by
    rw [← List.map_inj_left, List.map_id']
  -- no step holds a colon, so paths with one text have the same steps
  rw [intercalate_inj (by simp [wayIn_ne_nil]) (by simp [wayIn_ne_nil])
    (List.forall_mem_append.mpr ⟨hout, hin⟩) (List.forall_mem_append.mpr ⟨hout, hescaped⟩),
    List.append_cancel_left_eq, eq_comm, hmap]
  exact forall₂_congr fun step hstep =>
    escapedStep_eq_self_iff (isWord_of_mem_wayIn hwords hstep).1

/-- A path without reserved words leads to the module of the type where reserved words are escaped. -/
theorem resolve_escaped (hnative : ¬t.IsWellKnown fromPackage)
    (hfree : ∀ step ∈ t.wayIn fromPackage, isKeyword step = false) :
    resolve ((moduleOfPackage fromPackage).map escapedStep)
        ("::".intercalate (t.wayOut fromPackage ++ t.wayIn fromPackage)) =
      some (t.place.map escapedStep, escapedStep (upperCamelCase t.name)) := by
  have hself {step : String} (hstep : step ∈ t.wayIn fromPackage) : escapedStep step = step :=
    (escapedStep_eq_self_iff (isWord_of_mem_wayIn hwords hstep).1).mpr (hfree step hstep)
  have hway : t.wayIn fromPackage =
      ((packageParts t.package).drop (t.common fromPackage) ++ t.parents).map snakeCase ++
        [upperCamelCase t.name] := if_neg hnative
  have hname : escapedStep (upperCamelCase t.name) = upperCamelCase t.name :=
    hself (by simp [hway])
  have hresolve := resolve_path (fun part => escapedStep (snakeCase part)) hnative
  rw [hname, place, moduleOfPackage, moduleOfPackage, List.map_map, ← List.map_append, List.map_map]
  refine hresolve fun part hpart => ?_
  have hstep : snakeCase part ∈ t.wayIn fromPackage := by
    rw [hway]
    exact List.mem_append_left _ (List.mem_map_of_mem hpart)
  -- a step that is not reserved does not lead out again
  refine ⟨(hself hstep).symm, fun hsuper => ?_, fun hempty => ?_⟩
  · have hword := hfree _ hstep
    rw [hsuper] at hword
    exact absurd hword (by decide)
  · have hword := (isWord_of_mem_wayIn hwords hstep).1
    rw [hempty] at hword
    exact absurd hword (by decide)

end Words

/-- The path of a type is the one with its reserved words escaped exactly when no step that names the
type is reserved. Then generated code can hold it, and it leads to the module of the type among the
escaped modules. In any case the steps decide whether generated code can hold the path, and the whole
run ends when it cannot. -/
theorem paths_are_escaped_iff (fromPackage : String) (t : NamedType) (dots : Nat)
    (hwords : t.HasWords) :
    (t.HasNoPath fromPackage →
      typePath fromPackage t.package (t.reference dots) = "()" ∧ ∃ ty, tyOfText "()" = .ok ty) ∧
    (¬t.HasNoPath fromPackage →
      typePath fromPackage t.package (t.reference dots) =
        "::".intercalate (t.wayOut fromPackage ++ t.wayIn fromPackage) ∧
      (∀ step ∈ t.wayIn fromPackage, Ident.ofField step = .ok ⟨escapedStep step⟩) ∧
      (typePath fromPackage t.package (t.reference dots) =
          "::".intercalate (t.wayOut fromPackage ++ (t.wayIn fromPackage).map escapedStep) ↔
        ∀ step ∈ t.wayIn fromPackage, isKeyword step = false) ∧
      ((∀ step ∈ t.wayIn fromPackage, isKeyword step = false) →
        isTypePath ((t.wayOut fromPackage ++ t.wayIn fromPackage).map String.toList) = true ∧
        (¬t.IsWellKnown fromPackage →
          resolve ((moduleOfPackage fromPackage).map escapedStep)
              (typePath fromPackage t.package (t.reference dots)) =
            some (t.place.map escapedStep, escapedStep (upperCamelCase t.name)))) ∧
      (isTypePath ((t.wayOut fromPackage ++ t.wayIn fromPackage).map String.toList) = true →
        ∃ ty, tyOfText (typePath fromPackage t.package (t.reference dots)) = .ok ty) ∧
      (isTypePath ((t.wayOut fromPackage ++ t.wayIn fromPackage).map String.toList) = false →
        ∃ message, tyOfText (typePath fromPackage t.package (t.reference dots)) =
          .error (.fault (.template message)))) := by
  refine ⟨fun hunit => ⟨typePath_of_hasNoPath hunit dots, ?_⟩, fun hpath => ?_⟩
  · obtain ⟨ty, hty, -⟩ := IsNamedText.decides_tyOfText (.inl rfl : IsNamedText "()") |>.ok rfl
    exact ⟨ty, hty⟩
  · -- every path is a named text, for which the check decides whether it is a type
    have hdecides := decides_path hwords fromPackage
    rw [typePath_reference hpath]
    refine ⟨rfl, fun step hstep => ?_, escaped_path_eq_iff hwords, fun hfree => ?_, fun htype => ?_,
      fun htype => ?_⟩
    · exact (ofField_of_isIdentText (isWord_of_mem_wayIn hwords hstep).1).1
    · exact ⟨isTypePath_of_words hwords hfree, fun hnative => resolve_escaped hwords hnative hfree⟩
    · obtain ⟨ty, hty, -⟩ := hdecides.ok htype
      exact ⟨ty, hty⟩
    · obtain ⟨failure, hfailure, -⟩ := hdecides.fatal (Bool.eq_false_iff.mp htype)
      exact tyOfText_error hfailure

/-- A type whose package and parent are called by reserved words. -/
def kindOfMatch : NamedType where
  package := "shared.type"
  parents := ["Match"]
  name := "Kind"
  named_package := by decide
  named_parents := by decide
  named_type := by decide

/-- The type that shows an escaped path has words in all its steps. -/
theorem hasWords_kindOfMatch : kindOfMatch.HasWords where
  modules := by decide +kernel
  type := by decide +kernel

/-- A path with reserved words is not escaped, and generated code cannot hold it. -/
theorem path_of_kindOfMatch :
    typePath "shared.v1" "shared.type" ".shared.type.Match.Kind" = "super::type::match::Kind" ∧
    ∃ message, tyOfText "super::type::match::Kind" = .error (.fault (.template message)) := by
  have hreference : kindOfMatch.reference 1 = ".shared.type.Match.Kind" := by decide +kernel
  obtain ⟨hpath, -, -, -, -, hfails⟩ :=
    (paths_are_escaped_iff "shared.v1" kindOfMatch 1 hasWords_kindOfMatch).2 (by decide)
  have htext : "::".intercalate (kindOfMatch.wayOut "shared.v1" ++ kindOfMatch.wayIn "shared.v1") =
      "super::type::match::Kind" := by decide +kernel
  rw [hreference, htext] at hpath
  obtain ⟨message, hmessage⟩ := hfails (by decide +kernel)
  rw [hreference] at hmessage
  exact ⟨hpath, message, hpath ▸ hmessage⟩

/-- Not every path is escaped. -/
theorem paths_can_hold_reserved_words :
    ¬∀ (fromPackage : String) (t : NamedType) (dots : Nat), t.HasWords → ¬t.HasNoPath fromPackage →
      typePath fromPackage t.package (t.reference dots) =
        "::".intercalate (t.wayOut fromPackage ++ (t.wayIn fromPackage).map escapedStep) := by
  intro h
  have hpath := h "shared.v1" kindOfMatch 1 hasWords_kindOfMatch (by decide)
  exact absurd hpath (by decide +kernel)

end NamedType

end ProtoRest.Schema
