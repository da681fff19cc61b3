import ProtoRest.Proofs.Code.TypeTexts
import ProtoRest.Proofs.ErrorSet.CompleteAccessors
import ProtoRest.Proofs.ErrorSet.Statuses
import ProtoRest.Proofs.ErrorSet.VariantNames

/-! # When the error sets of a file can be generated
Code is generated for a table exactly when every error set of its file is legible
(`decides_render`). -/

namespace ProtoRest.ErrorSet

open ProtoRest.Code ProtoRest.Schema ProtoRest.Result

/-- An enum whose names and path are made of names. -/
structure IsNamedEnum (e : Enum) : Prop where
  /-- Its path. -/
  path : IsNamedText e.path
  /-- The names of its values. -/
  values : ∀ v ∈ e.values, HasNameChars v.name

/-! ## Entries -/

/-- The distinct values of an enum are among its values. -/
theorem mem_of_mem_distinctValues {e : Enum} {v : EnumValue} (h : v ∈ distinctValues [] e.values) :
    v ∈ e.values := by
  obtain ⟨_, hfirst⟩ := mem_distinctValues_iff.mp h
  exact List.mem_of_find?_eq_some hfirst

/-- The entry of a value bears the variant named after it. -/
theorem variant_of_entryOfValue {file : String} {e : Enum} {enumStatus : Option Nat}
    {v : EnumValue} {entry : Entry} (h : entryOfValue file e enumStatus v = .ok entry) :
    entry.variant = variantName e.name v.name := by
  rw [entryOfValue_eq] at h
  obtain ⟨status, -, rfl⟩ := map_eq_ok_iff.mp h
  rw [entryWith]

/-- An error set stands for an enum: it has its path, and one error for each distinct value. -/
structure StandsFor (e : Enum) (set : ErrorEnum) : Prop where
  /-- The path is the same. -/
  path : set.path = e.path
  /-- The errors are named after the values. -/
  errors : List.Forall₂ (fun v (entry : Entry) => entry.variant = variantName e.name v.name)
    (distinctValues [] e.values) set.errors

/-- The error set made of an enum stands for it. -/
theorem standsFor_of_errorEnum {file : String} {e : Enum} {set : ErrorEnum}
    (h : errorEnum file e = .ok set) : StandsFor e set := by
  rw [errorEnum] at h
  obtain ⟨status, -, h⟩ := bind_eq_ok_iff.mp h
  obtain ⟨errors, herrors, h⟩ := bind_eq_ok_iff.mp h
  cases h
  exact ⟨rfl, (mapM_eq_ok_iff.mp herrors).imp fun _ _ => variant_of_entryOfValue⟩

/-! ## Statuses -/

/-- An enum whose statuses were checked. -/
structure HasStatuses (e : Enum) : Prop where
  /-- The status of values without one. -/
  default : ∀ n ∈ e.defaultStatus, isStatus n = true
  /-- The statuses of the values. -/
  values : ∀ v ∈ e.values, ∀ options ∈ v.error, ∀ n ∈ options.status, isStatus n = true

/-- An enum whose statuses were checked is not refused. -/
theorem HasStatuses.not_isRefused {e : Enum} (h : HasStatuses e) : ¬IsRefused e := by
  rintro (⟨n, hn, hout⟩ | ⟨number, v, hv, n, hn, hout⟩)
  · exact hout (isStatus_iff.mp (h.default n hn))
  · obtain ⟨options, hoptions, hn⟩ := Option.bind_eq_some_iff.mp hn
    have hvalue := h.values v (List.mem_of_find?_eq_some hv) options hoptions n hn
    exact hout (isStatus_iff.mp hvalue)

/-- A file whose statuses were checked has a table. -/
theorem exists_table {file : File} (h : ∀ e ∈ file.enums, HasStatuses e) :
    ∃ table, Table.ofFile file = .ok table := by
  exact ⟨_, ofFile_eq_ok fun ⟨e, he, _, hout⟩ => (h e he).not_isRefused hout⟩

/-! ## Code of a table -/

section Enums

variable {e : Enum} (he : IsNamedEnum e) {set : ErrorEnum} (h : StandsFor e set)

include he h

/-- The variants of an error set are made exactly when all its values are legible. -/
theorem decides_variants :
    Decides (∀ v ∈ distinctValues [] e.values, isLegibleValue e v = true) (fun _ => True)
      (set.errors.mapM Variant.ofEntry) := by
  refine (Decides.mapM_of_forall₂ (R := fun _ _ => True) h.errors fun v hv entry hentry => ?_).imp
    fun _ _ => trivial
  rw [Variant.ofEntry, hentry]
  exact (decides_parse (he.values v (mem_of_mem_distinctValues hv))).map fun _ _ => trivial

/-- Legible names decide whether an error set is generated. -/
theorem decides_enumItems :
    Decides (isLegible e = true) (fun items => items.all (isComplete ·.pieces) = true) (do
      let ty ← tyOfText set.path
      let variants ← set.errors.mapM Variant.ofEntry
      return enumItems ty set variants) := by
  rw [h.path]
  refine (he.path.decides_tyOfText.bind fun _ ty hty =>
    (decides_variants he h).map fun variants _ => isComplete_enumItems hty set variants).congr ?_
  rw [isLegible, Bool.and_eq_true, List.all_eq_true]

/-- No variant of a legible error set is in the way of a path. -/
theorem cannotFollow_eq_false (hlegible : isLegible e = true) :
    ∀ entry ∈ set.errors, cannotFollow entry.variant = false := by
  rw [isLegible, Bool.and_eq_true, List.all_eq_true] at hlegible
  intro entry hentry
  obtain ⟨v, hv, hvariant⟩ := exists_left_of_forall₂ h.errors entry hentry
  rw [hvariant]
  exact cannotFollow_variantName (he.values v (mem_of_mem_distinctValues hv)) (hlegible.2 v hv)

end Enums

section Tables

variable {file : File} (hfile : ∀ e ∈ file.enums, IsNamedEnum e) {table : Table}
  (h : Table.ofFile file = .ok table)

include h

/-- The error sets of a table stand for the error sets of the file, in order. -/
theorem forall₂_enums :
    List.Forall₂ StandsFor (file.enums.filter (·.isErrorSet)) table.enums := by
  rw [Table.ofFile] at h
  obtain ⟨enums, henums, h⟩ := bind_eq_ok_iff.mp h
  cases h
  exact (mapM_eq_ok_iff.mp henums).imp fun _ _ => standsFor_of_errorEnum

include hfile

/-- The items of a table are made exactly when all error sets of the file are legible. -/
theorem decides_items :
    Decides (∀ e ∈ file.enums.filter (·.isErrorSet), isLegible e = true)
      (fun items => items.all (isComplete ·.pieces) = true) table.items := by
  have hnamed (e : Enum) (he : e ∈ file.enums.filter (·.isErrorSet)) : IsNamedEnum e :=
    hfile e (List.mem_of_mem_filter he)
  have hsets := forall₂_enums h
  rw [Table.items]
  refine ((Decides.mapM_of_forall₂ (R := fun _ items => items.all (isComplete ·.pieces) = true)
    hsets fun e he set hset => decides_enumItems (hnamed e he) hset).bind (d := True)
      fun hlegible items hitems => ?_).congr (by rw [and_true])
  -- once all sets are legible, every variant can follow the name of its enum
  have hnone : (table.enums.flatMap fun set => set.errors.map (·.variant)).find? cannotFollow =
      none := by
    rw [List.find?_eq_none]
    intro name hname
    obtain ⟨set, hset, hname⟩ := List.mem_flatMap.mp hname
    obtain ⟨entry, hentry, rfl⟩ := List.mem_map.mp hname
    obtain ⟨e, he, hstands⟩ := exists_left_of_forall₂ hsets set hset
    rw [cannotFollow_eq_false (hnamed e he) hstands (hlegible e he) entry hentry]
    exact Bool.false_ne_true
  rw [hnone]
  refine .of_eq_ok rfl ?_
  rw [List.all_flatten, List.all_eq_true]
  intro part hpart
  obtain ⟨_, -, hcomplete⟩ := exists_left_of_forall₂ hitems part hpart
  exact hcomplete

/-- Legible error sets decide whether code is generated for a table. -/
theorem decides_render (header : String) :
    Decides (∀ e ∈ file.enums.filter (·.isErrorSet), isLegible e = true) (fun _ => True)
      (table.render header) := by
  rw [Table.render]
  refine ((decides_items hfile h).bind (d := True) fun _ items hitems => ?_).congr (by rw [and_true])
  rw [render_eq_ok hitems]
  exact .of_eq_ok rfl trivial

end Tables

end ProtoRest.ErrorSet
