import Mathlib.Tactic.SplitIfs
import ProtoRest.ErrorSet.Table
import ProtoRest.Proofs.Related
import ProtoRest.Proofs.Result

/-! # Statuses and values of error sets
What the error sets of a file are, said without building them: `Table.expected` has one error for
each number of an annotated enum, that of the value declared first with it, and an enum `IsRefused`
when a status that one of its errors would have to be checked for lies outside 100 to 599. Building a
table follows both (`table_follows_values`). -/

namespace ProtoRest.ErrorSet

open ProtoRest.Schema Result

/-! ## What is expected -/

/-- The value that an enum declares first with a number. -/
def firstValue? (e : Enum) (number : Int) : Option EnumValue :=
  e.values.find? (·.number == number)

/-- The status that is set for a value itself. -/
def ownStatus? (v : EnumValue) : Option Int := v.error.bind (·.status)

/-- The status of a value: its own, else that of its enum, else 500. -/
def statusOf (e : Enum) (v : EnumValue) : Int := ((ownStatus? v).or e.defaultStatus).getD 500

/-- The error that stands for a value, with a status. -/
def entryWith (e : Enum) (v : EnumValue) (status : Nat) : Entry where
  name := v.name
  number := v.number
  variant := variantName e.name v.name
  status := status
  code := v.error.bind (·.code)
  reason := v.error.bind (·.reason)
  message := v.error.bind (·.message)

/-- The errors of an enum: one for each of its numbers, in the order in which these are first used. -/
def expectedErrors (e : Enum) : List Entry :=
  (e.values.map (·.number)).eraseDups.filterMap fun number =>
    (firstValue? e number).map fun v => entryWith e v (statusOf e v).toNat

/-- The error set of an enum. -/
def ErrorEnum.expected (e : Enum) : ErrorEnum where
  name := e.name
  path := e.path
  comment := e.comment
  errors := expectedErrors e

/-- The error sets of a file: those of the enums with a status or with a value that is annotated. -/
def Table.expected (file : File) : Table where
  file := file.name
  package := file.package
  enums :=
    (file.enums.filter fun e => e.defaultStatus.isSome || e.values.any (·.error.isSome)).map
      ErrorEnum.expected

/-- A status that is set lies outside 100 to 599. -/
def IsOutside (status : Option Int) : Prop := ∃ n ∈ status, ¬(100 ≤ n ∧ n ≤ 599)

/-- A status of an enum is out of bounds: its own, or that of a value that no earlier value shares its
number with. -/
def IsRefused (e : Enum) : Prop :=
  IsOutside e.defaultStatus ∨ ∃ number, ∃ v ∈ firstValue? e number, IsOutside (ownStatus? v)

/-! ## Values without repeated numbers -/

/-- The values that are kept are the first ones of the numbers that were not used before. -/
theorem distinctValues_eq (used : List Int) (values : List EnumValue) :
    distinctValues used values =
      ((values.map (·.number)).filter (· ∉ used)).eraseDups.filterMap fun number =>
        values.find? (·.number == number) := by
  induction values generalizing used with
  | nil => rfl
  | cons v vs ih =>
    -- what is found under another number does not depend on the first value
    have hothers {numbers : List Int} (h : v.number ∉ numbers) :
        (numbers.filterMap fun number => (v :: vs).find? (·.number == number)) =
          numbers.filterMap fun number => vs.find? (·.number == number) := by
      refine List.filterMap_congr fun number hnumber => List.find?_cons_of_neg ?_
      have hne : v.number ≠ number := fun heq => h (heq ▸ hnumber)
      simpa using hne
    rw [distinctValues, List.map_cons]
    by_cases hv : v.number ∈ used
    · rw [if_pos hv, ih, List.filter_cons_of_neg (by simpa using hv), hothers]
      rw [List.mem_eraseDups]
      exact fun hmem => absurd (List.mem_filter.mp hmem).2 (by simpa using hv)
    · have hrest : ((vs.map (·.number)).filter (· ∉ used)).filter (!· == v.number) =
          (vs.map (·.number)).filter (· ∉ v.number :: used) := by
        rw [List.filter_filter]
        refine List.filter_congr fun number _ => ?_
        by_cases hnumber : number = v.number <;> simp [hnumber]
      have hfirst : (v :: vs).find? (·.number == v.number) = some v :=
        List.find?_cons_of_pos (beq_self_eq_true v.number)
      rw [if_neg hv, ih, List.filter_cons_of_pos (by simpa using hv), List.eraseDups_cons, hrest,
        List.filterMap_cons, hothers]
      · simp only [hfirst]
      · rw [List.mem_eraseDups]
        exact fun hmem => absurd (List.mem_filter.mp hmem).2 (by simp)

/-- The distinct values are the first ones of each number, in the order of the numbers. -/
theorem distinctValues_nil_eq (values : List EnumValue) :
    distinctValues [] values =
      (values.map (·.number)).eraseDups.filterMap fun number =>
        values.find? (·.number == number) := by
  rw [distinctValues_eq]
  simp

/-- The values that are kept are those that are declared first with some number. -/
theorem mem_distinctValues_iff {e : Enum} {v : EnumValue} :
    v ∈ distinctValues [] e.values ↔ ∃ number, v ∈ firstValue? e number := by
  rw [distinctValues_nil_eq, List.mem_filterMap]
  refine exists_congr fun number => ⟨fun h => h.2, fun h => ⟨?_, h⟩⟩
  have hnumber : v.number = number := by simpa using List.find?_some h
  rw [List.mem_eraseDups, ← hnumber]
  exact List.mem_map_of_mem (List.mem_of_find?_eq_some h)

/-! ## Checked statuses -/

section Statuses

variable {file owner : String} {n : Int}

/-- A status between 100 and 599 passes the check. -/
theorem checkedStatus_eq_ok (h : 100 ≤ n ∧ n ≤ 599) :
    checkedStatus file owner n = .ok n.toNat := by
  rw [checkedStatus, if_pos (isStatus_iff.mpr h)]

/-- Every other status is a fault of the file's options. -/
theorem checkedStatus_eq_error (h : ¬(100 ≤ n ∧ n ≤ 599)) :
    checkedStatus file owner n = .error (.options file (statusMessage owner n)) := by
  rw [checkedStatus, if_neg fun hn => h (isStatus_iff.mp hn)]

/-- A status that is not outside lies between 100 and 599. -/
theorem inside_of_not_isOutside {status : Option Int} (h : ¬IsOutside status) :
    ∀ n ∈ status, 100 ≤ n ∧ n ≤ 599 := by
  intro n hn
  by_contra hout
  exact h ⟨n, hn, hout⟩

end Statuses

/-! ## Errors -/

section Enums

variable {file : String} {e : Enum}

/-- The error of a value has the status that is set for the value and checked, or the one that is
passed on to it. -/
theorem entryOfValue_eq (enumStatus : Option Nat) (v : EnumValue) :
    entryOfValue file e enumStatus v =
      ((ownStatus? v).elim (.ok (enumStatus.getD fallbackStatus))
        (checkedStatus file e.fullName)).map (entryWith e v) := by
  rw [entryOfValue, ownStatus?]
  cases herror : v.error with
  | none => simp [entryWith, herror, pure, Except.pure, bind, Except.bind, Except.map]
  | some options =>
    cases hstatus : options.status with
    | none => simp [entryWith, herror, hstatus, pure, Except.pure, bind, Except.bind, Except.map]
    | some n =>
      cases hchecked : checkedStatus file e.fullName n <;>
        simp [entryWith, herror, hstatus, hchecked, pure, Except.pure, bind, Except.bind, Except.map]

/-- A value whose own status is not outside gives its entry. -/
theorem entryOfValue_eq_ok {v : EnumValue} (h : ¬IsOutside (ownStatus? v)) :
    entryOfValue file e (e.defaultStatus.map Int.toNat) v =
      .ok (entryWith e v (statusOf e v).toNat) := by
  rw [entryOfValue_eq, statusOf]
  cases hown : ownStatus? v with
  | none => cases e.defaultStatus <;> rfl
  | some n =>
    have hn := inside_of_not_isOutside h n hown
    rw [Option.elim_some, checkedStatus_eq_ok hn]
    rfl

/-- A value whose own status is outside gives a fault of the file's options. -/
theorem entryOfValue_eq_error {v : EnumValue} (h : IsOutside (ownStatus? v))
    (enumStatus : Option Nat) :
    ∃ message, entryOfValue file e enumStatus v = .error (.options file message) := by
  obtain ⟨n, hn, hout⟩ := h
  rw [entryOfValue_eq, Option.mem_def.mp hn, Option.elim_some, checkedStatus_eq_error hout]
  exact ⟨_, rfl⟩

/-- The errors of an enum are those of the values that are kept. -/
theorem expectedErrors_eq (e : Enum) :
    expectedErrors e =
      (distinctValues [] e.values).map fun v => entryWith e v (statusOf e v).toNat := by
  rw [expectedErrors, distinctValues_nil_eq, List.map_filterMap]
  rfl

/-- A default status that is not outside passes the check. -/
theorem mapM_defaultStatus (h : ¬IsOutside e.defaultStatus) :
    e.defaultStatus.mapM (checkedStatus file e.fullName) = .ok (e.defaultStatus.map Int.toNat) := by
  cases hset : e.defaultStatus with
  | none => rfl
  | some n =>
    rw [Option.mapM_some, checkedStatus_eq_ok (inside_of_not_isOutside h n hset)]
    rfl

/-- An enum whose statuses lie within the bounds has its error set. -/
theorem errorEnum_eq_ok (h : ¬IsRefused e) : errorEnum file e = .ok (.expected e) := by
  have hvalues (v : EnumValue) (hv : v ∈ distinctValues [] e.values) :
      ¬IsOutside (ownStatus? v) := by
    obtain ⟨number, hnumber⟩ := mem_distinctValues_iff.mp hv
    exact fun hout => h (.inr ⟨number, v, hnumber, hout⟩)
  have herrors : (distinctValues [] e.values).mapM
      (entryOfValue file e (e.defaultStatus.map Int.toNat)) = .ok (expectedErrors e) := by
    rw [expectedErrors_eq]
    exact mapM_eq_map fun v hv => entryOfValue_eq_ok (hvalues v hv)
  rw [errorEnum, mapM_defaultStatus fun hout => h (.inl hout)]
  exact bind_eq_ok_iff.mpr ⟨_, rfl, bind_eq_ok_iff.mpr ⟨_, herrors, rfl⟩⟩

/-- An enum with a status out of bounds has a fault in the options of its file. -/
theorem errorEnum_eq_error (h : IsRefused e) :
    ∃ message, errorEnum file e = .error (.options file message) := by
  rw [errorEnum]
  by_cases hdefault : IsOutside e.defaultStatus
  · obtain ⟨n, hn, hout⟩ := hdefault
    rw [Option.mem_def.mp hn, Option.mapM_some, checkedStatus_eq_error hout]
    exact ⟨_, rfl⟩
  · -- the enum passes, so the first value at fault is the one that is reported
    obtain ⟨number, v, hv, hout⟩ := h.resolve_left hdefault
    obtain ⟨message, hmessage⟩ : ∃ message, entryOfValue file e
        (e.defaultStatus.map Int.toNat) v = .error (.options file message) :=
      entryOfValue_eq_error hout _
    obtain ⟨v', -, fault, hfault, herrors⟩ :=
      exists_mapM_eq_error (mem_distinctValues_iff.mpr ⟨number, hv⟩) hmessage
    obtain ⟨message, rfl⟩ : ∃ message, fault = .options file message := by
      by_cases hv' : IsOutside (ownStatus? v')
      · obtain ⟨message, hmessage⟩ := entryOfValue_eq_error hv' (e.defaultStatus.map Int.toNat)
        exact ⟨message, Except.error.inj (hfault.symm.trans hmessage)⟩
      · rw [entryOfValue_eq_ok hv'] at hfault
        cases hfault
    rw [mapM_defaultStatus hdefault]
    exact ⟨message, bind_eq_error_iff.mpr (.inr ⟨_, rfl, bind_eq_error_iff.mpr (.inl herrors)⟩)⟩

end Enums

/-! ## Bounds and distinct numbers -/

section Expected

variable {e : Enum}

/-- Every status lies within the bounds when those that are set do. -/
theorem statusOf_inside (h : ¬IsRefused e) {v : EnumValue} (hv : v ∈ distinctValues [] e.values) :
    100 ≤ statusOf e v ∧ statusOf e v ≤ 599 := by
  have hown : ¬IsOutside (ownStatus? v) := by
    obtain ⟨number, hnumber⟩ := mem_distinctValues_iff.mp hv
    exact fun hout => h (.inr ⟨number, v, hnumber, hout⟩)
  rw [statusOf]
  cases hset : (ownStatus? v).or e.defaultStatus with
  | none => decide
  | some n =>
    obtain hn | ⟨-, hn⟩ := Option.or_eq_some_iff.mp hset
    · exact inside_of_not_isOutside hown n hn
    · exact inside_of_not_isOutside (fun hout => h (.inl hout)) n hn

/-- The errors of an enum have its numbers, each once. -/
theorem numbers_expectedErrors (e : Enum) :
    (expectedErrors e).map (·.number) = (e.values.map (·.number)).eraseDups := by
  have hnumber (number : Int) (h : number ∈ (e.values.map (·.number)).eraseDups) :
      ((firstValue? e number).map fun v => (entryWith e v (statusOf e v).toNat).number) =
        some number := by
    obtain ⟨v, hv, rfl⟩ := List.mem_map.mp (List.mem_eraseDups.mp h)
    have hsome : (firstValue? e v.number).isSome = true :=
      List.find?_isSome.mpr ⟨v, hv, beq_self_eq_true v.number⟩
    obtain ⟨w, hw⟩ := Option.isSome_iff_exists.mp hsome
    have heq : w.number = v.number := by simpa using List.find?_some hw
    rw [hw, Option.map_some, entryWith, heq]
  rw [expectedErrors, List.map_filterMap]
  simp only [Option.map_map]
  exact (List.filterMap_congr hnumber).trans (by rw [List.filterMap_some])

/-- The numbers of the expected errors are distinct, and their statuses lie within the bounds. -/
theorem expectedErrors_sound (h : ¬IsRefused e) :
    ((expectedErrors e).map (·.number)).Nodup ∧
      ∀ entry ∈ expectedErrors e, 100 ≤ entry.status ∧ entry.status ≤ 599 := by
  constructor
  · rw [numbers_expectedErrors]
    exact nodup_eraseDups _
  · rw [expectedErrors_eq, List.forall_mem_map]
    intro v hv
    have hinside := statusOf_inside h hv
    show 100 ≤ (statusOf e v).toNat ∧ (statusOf e v).toNat ≤ 599
    omega

end Expected

/-! ## Tables -/

section Tables

variable (file : File)

/-- An annotated enum of a file is refused. -/
def HasRefused : Prop := ∃ e ∈ file.enums, e.isErrorSet = true ∧ IsRefused e

variable {file}

/-- A file without a refused enum gives the expected table. -/
theorem ofFile_eq_ok (h : ¬HasRefused file) : Table.ofFile file = .ok (.expected file) := by
  have henums : (file.enums.filter (·.isErrorSet)).mapM (errorEnum file.name) =
      .ok ((file.enums.filter (·.isErrorSet)).map ErrorEnum.expected) := by
    refine mapM_eq_map fun e he => errorEnum_eq_ok fun hout => h ?_
    exact ⟨e, (List.mem_filter.mp he).1, (List.mem_filter.mp he).2, hout⟩
  exact bind_eq_ok_iff.mpr ⟨_, henums, rfl⟩

/-- A file with a refused enum gives a fault of its options. -/
theorem ofFile_eq_error (h : HasRefused file) :
    ∃ message, Table.ofFile file = .error (.options file.name message) := by
  obtain ⟨e, he, hset, hout⟩ := h
  obtain ⟨message, hmessage⟩ : ∃ message, errorEnum file.name e = .error (.options file.name message) :=
    errorEnum_eq_error hout
  -- the first enum that is refused is the one that is reported
  obtain ⟨e', -, fault, hfault, henums⟩ :=
    exists_mapM_eq_error (List.mem_filter.mpr ⟨he, hset⟩) hmessage
  have hfails : Table.ofFile file = .error fault := bind_eq_error_iff.mpr (.inl henums)
  by_cases hout' : IsRefused e'
  · obtain ⟨message', h'⟩ :
        ∃ message, errorEnum file.name e' = .error (.options file.name message) :=
      errorEnum_eq_error hout'
    obtain rfl := Except.error.inj (hfault.symm.trans h')
    exact ⟨message', hfails⟩
  · rw [errorEnum_eq_ok hout'] at hfault
    cases hfault

end Tables

/-! ## Main statement -/

/-- The error sets of a file are those that are expected, unless one of its annotated enums is refused:
then there is a fault in the options of the file, which does not end the run. -/
theorem table_follows_values (file : File) :
    ((∃ fault, Table.ofFile file = .error fault) ↔
      ∃ e ∈ file.enums, (e.defaultStatus.isSome ∨ ∃ v ∈ e.values, v.error.isSome) ∧ IsRefused e) ∧
    (∀ fault, Table.ofFile file = .error fault →
      fault.isFatal = false ∧ ∃ message, fault = .options file.name message) ∧
    ∀ table, Table.ofFile file = .ok table →
      table = .expected file ∧
      ∀ set ∈ table.enums, (set.errors.map (·.number)).Nodup ∧
        ∀ entry ∈ set.errors, 100 ≤ entry.status ∧ entry.status ≤ 599 := by
  have hrefused : HasRefused file ↔
      ∃ e ∈ file.enums, (e.defaultStatus.isSome ∨ ∃ v ∈ e.values, v.error.isSome) ∧ IsRefused e := by
    simp only [HasRefused, Enum.isErrorSet, Bool.or_eq_true, List.any_eq_true]
  rw [← hrefused]
  by_cases h : HasRefused file
  · obtain ⟨message, hfails⟩ := ofFile_eq_error h
    rw [hfails]
    refine ⟨⟨fun _ => h, fun _ => ⟨_, rfl⟩⟩, ?_, ?_⟩
    · rintro _ ⟨⟩
      exact ⟨rfl, message, rfl⟩
    · rintro _ ⟨⟩
  · -- no enum is refused, so the table is the expected one, and each of its sets is in order
    rw [ofFile_eq_ok h]
    refine ⟨⟨?_, fun hout => absurd hout h⟩, ?_, ?_⟩
    · rintro ⟨_, ⟨⟩⟩
    · rintro _ ⟨⟩
    · rintro _ ⟨⟩
      refine ⟨rfl, ?_⟩
      rw [Table.expected, List.forall_mem_map]
      intro e he
      refine expectedErrors_sound fun hout => h ?_
      exact ⟨e, (List.mem_filter.mp he).1, (List.mem_filter.mp he).2, hout⟩

end ProtoRest.ErrorSet
