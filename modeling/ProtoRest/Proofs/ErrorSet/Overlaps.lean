import ProtoRest.ErrorSet.Dispatch
import ProtoRest.Proofs.ErrorSet.TableVerdict

/-! # Variants that overlap
Two values of an enum have one variant when their names have one form in capitals, or when the form of
one is the name of the enum followed by that of the other (`variantName_eq_iff`). The functions of an
error set have an arm for each error, so they give back for each what was set for it as long as no two
names overlap (`accessors_follow_variants`). -/

namespace ProtoRest.ErrorSet

open ProtoRest.Code ProtoRest.Schema ProtoRest.Text Result

/-! ## Forms of names -/

/-- What is left of a form after the name of an enum, which goes when a capital follows it. -/
def IsRest (start form rest : String) : Prop :=
  form = start ++ rest ∧ ∃ c ∈ rest.toList.head?, isUpper c = true

/-- A form that keeps the name of the enum, and the longer form that becomes the same without it. -/
def IsShortFor (start short long : String) : Prop :=
  (∀ rest, ¬IsRest start short rest) ∧ IsRest start long short

section Forms

variable {start a b rest : String}

/-- The name of the enum is taken off where a capital follows it. -/
theorem stripEnumName_of_isRest (h : IsRest start a rest) : stripEnumName start a = rest := by
  obtain ⟨rfl, c, hc, hupper⟩ := h
  have hprefix : start.toList.isPrefixOf (start ++ rest).toList = true := by
    rw [List.isPrefixOf_iff_prefix, String.toList_append]
    exact List.prefix_append _ _
  rw [stripEnumName, if_pos hprefix, String.toList_append, List.drop_left]
  cases hrest : rest.toList with
  | nil =>
    rw [hrest] at hc
    cases hc
  | cons d ds =>
    rw [hrest] at hc
    obtain rfl := Option.some.inj hc
    show (if isUpper d then String.ofList (d :: ds) else start ++ rest) = rest
    rw [if_pos hupper, ← hrest, String.ofList_toList]

/-- A form that does not go on behind the name of the enum is kept. -/
theorem stripEnumName_of_no_rest (h : ∀ rest, ¬IsRest start a rest) : stripEnumName start a = a := by
  rw [stripEnumName]
  split_ifs with hprefix
  · obtain ⟨tail, htail⟩ := List.isPrefixOf_iff_prefix.mp hprefix
    rw [← htail, List.drop_left]
    cases tail with
    | nil => rfl
    | cons c cs =>
      show (if isUpper c then String.ofList (c :: cs) else a) = a
      refine if_neg fun hupper => h (String.ofList (c :: cs)) ⟨?_, c, ?_, hupper⟩
      · rw [← String.toList_inj, String.toList_append, String.toList_ofList, htail]
      · rw [String.toList_ofList]
        rfl
  · rfl

/-- Two forms are left alike when they are equal or one of them is short for the other. -/
theorem stripEnumName_eq_iff : stripEnumName start a = stripEnumName start b ↔
    a = b ∨ IsShortFor start a b ∨ IsShortFor start b a := by
  by_cases ha : ∃ r, IsRest start a r <;> by_cases hb : ∃ r, IsRest start b r
  · -- both lose the start, so neither is short for the other
    obtain ⟨r, hr⟩ := ha
    obtain ⟨s, hs⟩ := hb
    rw [stripEnumName_of_isRest hr, stripEnumName_of_isRest hs]
    refine ⟨fun h => .inl ?_, ?_⟩
    · rw [hr.1, hs.1, h]
    · rintro (rfl | ⟨hnone, -⟩ | ⟨hnone, -⟩)
      · exact (String.append_right_inj start).mp (hr.1.symm.trans hs.1)
      · exact absurd hr (hnone r)
      · exact absurd hs (hnone s)
  · -- only the first loses it, so they are left alike if the second is what is left of the first
    obtain ⟨r, hr⟩ := ha
    rw [not_exists] at hb
    rw [stripEnumName_of_isRest hr, stripEnumName_of_no_rest hb]
    refine ⟨fun h => .inr (.inr ⟨hb, h ▸ hr⟩), ?_⟩
    rintro (rfl | ⟨hnone, -⟩ | ⟨-, hrest⟩)
    · exact absurd hr (hb r)
    · exact absurd hr (hnone r)
    · exact (String.append_right_inj start).mp (hr.1.symm.trans hrest.1)
  · obtain ⟨s, hs⟩ := hb
    rw [not_exists] at ha
    rw [stripEnumName_of_no_rest ha, stripEnumName_of_isRest hs]
    refine ⟨fun h => .inr (.inl ⟨ha, h ▸ hs⟩), ?_⟩
    rintro (rfl | ⟨-, hrest⟩ | ⟨hnone, -⟩)
    · exact absurd hs (ha s)
    · exact (String.append_right_inj start).mp (hrest.1.symm.trans hs.1)
    · exact absurd hs (hnone s)
  · -- both stay as they are
    rw [not_exists] at ha hb
    rw [stripEnumName_of_no_rest ha, stripEnumName_of_no_rest hb]
    refine ⟨.inl, ?_⟩
    rintro (rfl | ⟨-, hrest⟩ | ⟨-, hrest⟩)
    · rfl
    · exact absurd hrest (hb a)
    · exact absurd hrest (ha b)

end Forms

/-- The names of two values overlap in an enum: they have one form, or one of the forms is short for the
other. -/
def Overlap (enum value value' : String) : Prop :=
  upperCamelCase value = upperCamelCase value' ∨
    IsShortFor (upperCamelCase enum) (upperCamelCase value) (upperCamelCase value') ∨
    IsShortFor (upperCamelCase enum) (upperCamelCase value') (upperCamelCase value)

/-- Two values of an enum share a variant exactly when their names overlap. -/
theorem variantName_eq_iff {enum value value' : String} :
    variantName enum value = variantName enum value' ↔ Overlap enum value value' := by
  rw [variantName, variantName, stripEnumName_eq_iff, Overlap]

instance (enum value value' : String) : Decidable (Overlap enum value value') :=
  decidable_of_iff (variantName enum value = variantName enum value') variantName_eq_iff

/-! ## Arms -/

/-- The functions of an error set with the properties that they give back, as literals. -/
def properties : List (String × (Entry → String)) :=
  [("status", (toString ·.status)), ("code", (toString ·.shownCode)),
   ("reason", (Text.literal ·.shownReason)), ("message", (Text.literal ·.shownMessage))]

section Arms

variable {variants : List Variant} {property : String × (Entry → String)}

/-- An accessor has an arm for each variant, in order. -/
theorem armsOf?_accessor (doc name : String) (ty : Ty) (f : Entry → String)
    (variants : List Variant) :
    armsOf? (accessor doc name ty f variants) =
      some (variants.map fun v => (v.name.text, f v.entry)) := by
  show (variants.map fun v => Arm.make [] (.path v.path) none (.literal (f v.entry))).mapM armOf? = _
  induction variants with
  | nil => rfl
  | cons v vs ih =>
    rw [List.map_cons, List.mapM_cons, ih]
    rfl

/-- The block of accessors has, for every property, an arm for each variant, in order. -/
theorem arms?_inherent (attrs : List Attr) (ty : Ty) (h : property ∈ properties) :
    arms? property.1 (.inherent attrs ty (accessors variants)) =
      some (variants.map fun v => (v.name.text, property.2 v.entry)) := by
  have hfind : ∃ doc ty, (accessors variants).find? (isFunction property.1) =
      some (accessor doc property.1 ty property.2 variants) := by
    simp only [properties, List.mem_cons, List.not_mem_nil, or_false] at h
    obtain rfl | rfl | rfl | rfl := h <;> exact ⟨_, _, rfl⟩
  obtain ⟨doc, ty', hfind⟩ := hfind
  show ((accessors variants).find? (isFunction property.1)).bind armsOf? = _
  rw [hfind, Option.bind_some, armsOf?_accessor]

/-- An identifier is parsed to its own text. -/
theorem text_of_parse {text : String} {ident : Ident} (h : Ident.parse text = .ok ident) :
    ident.text = text := by
  rw [Ident.parse] at h
  split at h
  · split_ifs at h
    obtain rfl := Except.ok.inj h
    rfl
  · rw [Ident.make] at h
    split_ifs at h
    obtain rfl := Except.ok.inj h
    rfl

/-- The variants of a table are named and filled as its entries, in order. -/
theorem variants_eq {errors : List Entry} (h : errors.mapM Variant.ofEntry = .ok variants)
    (f : Entry → String) :
    (variants.map fun v => (v.name.text, f v.entry)) = errors.map fun a => (a.variant, f a) := by
  refine map_eq_of_forall₂ (mapM_eq_ok_iff.mp h) fun a v hv => ?_
  obtain ⟨ident, hident, hv⟩ := bind_eq_ok_iff.mp hv
  obtain rfl := pure_eq_ok_iff.mp hv
  rw [text_of_parse hident]

/-- A look-up among arms finds the first error with the variant. -/
theorem lookup_arms (errors : List Entry) (f : Entry → String) (variant : String) :
    (errors.map fun a => (a.variant, f a)).lookup variant =
      (errors.find? (·.variant == variant)).map f := by
  induction errors with
  | nil => rfl
  | cons a errors ih =>
    rw [List.map_cons, List.lookup_cons, List.find?_cons, ih, BEq.comm]
    cases a.variant == variant <;> rfl

end Arms

/-! ## Items -/

/-- The functions of an implementation have an arm for each of some errors. -/
def Dispatches (errors : List Entry) (item : Item) : Prop :=
  ∀ property ∈ properties,
    arms? property.1 item = some (errors.map fun a => (a.variant, property.2 a))

/-- Of the items of an error set, the first is what its type has of its own. -/
theorem exists_inherent {set : ErrorEnum} {ty : Ty} {variants : List Variant}
    (h : set.errors.mapM Variant.ofEntry = .ok variants) :
    ∃ item, (enumItems ty set variants).filter isInherent = [item] ∧ Dispatches set.errors item := by
  refine ⟨_, rfl, fun property hproperty => ?_⟩
  rw [arms?_inherent _ _ hproperty, variants_eq h]

/-- The implementations that the types of error sets have of their own dispatch on their errors. -/
theorem dispatches_of_items {table : Table} {items : List Item} (h : table.items = .ok items) :
    List.Forall₂ (fun set => Dispatches set.errors) table.enums (items.filter isInherent) := by
  rw [Table.items] at h
  obtain ⟨parts, hparts, hitems⟩ := bind_eq_ok_iff.mp h
  rw [mapM_eq_ok_iff] at hparts
  split at hitems
  · cases hitems
  · obtain rfl := pure_eq_ok_iff.mp hitems
    clear h hitems
    generalize table.enums = sets at hparts ⊢
    induction hparts with
    | nil => exact .nil
    | cons hpart _ ih =>
      obtain ⟨ty, -, hpart⟩ := bind_eq_ok_iff.mp hpart
      obtain ⟨variants, hvariants, hpart⟩ := bind_eq_ok_iff.mp hpart
      obtain rfl := pure_eq_ok_iff.mp hpart
      -- of the items of a set one is its block of accessors
      obtain ⟨item, hitem, hdispatches⟩ := exists_inherent hvariants
      rw [List.flatten_cons, List.filter_append, hitem]
      exact .cons hdispatches ih

/-- A table that a file gives is the expected one. -/
theorem eq_expected_of_ofFile {file : File} {table : Table} (h : Table.ofFile file = .ok table) :
    table = .expected file := by
  by_cases hrefused : HasRefused file
  · obtain ⟨_, herror⟩ := ofFile_eq_error hrefused
    rw [herror] at h
    cases h
  · exact Except.ok.inj (h.symm.trans (ofFile_eq_ok hrefused))

/-! ## Main statement -/

section Errors

variable {e : Enum} {item : Item} (h : Dispatches (expectedErrors e) item)

/-- Two errors of an enum share a variant exactly when their names overlap. -/
theorem variant_eq_iff {a b : Entry} (ha : a ∈ expectedErrors e) (hb : b ∈ expectedErrors e) :
    a.variant = b.variant ↔ Overlap e.name a.name b.name := by
  rw [expectedErrors_eq] at ha hb
  obtain ⟨v, -, rfl⟩ := List.mem_map.mp ha
  obtain ⟨w, -, rfl⟩ := List.mem_map.mp hb
  simp only [entryWith, variantName_eq_iff]

/-- Errors of which no two overlap have different variants. -/
theorem nodup_variants
    (hoverlap : (expectedErrors e).Pairwise fun a b => ¬Overlap e.name a.name b.name) :
    ((expectedErrors e).map (·.variant)).Nodup :=
  List.pairwise_map.mpr (hoverlap.imp_of_mem fun ha hb hnot heq =>
    hnot ((variant_eq_iff ha hb).mp heq))

include h

/-- A rendered accessor returns, for a variant, the property of the first error with that variant.
-/
theorem returned?_eq {property : String × (Entry → String)} (hproperty : property ∈ properties)
    (variant : String) : returned? property.1 variant item =
      ((expectedErrors e).find? (·.variant == variant)).map property.2 := by
  rw [returned?, h property hproperty, Option.bind_some, lookup_arms]

end Errors

/-- The variants of two errors of an enum are the same exactly when the names of their values overlap.
Each function of the error set has an arm for each error, in order, and gives back for a variant what
the first error with the variant has. So when no two names overlap, no two arms have the same pattern,
and the functions give back for every error what was set for it. -/
theorem accessors_follow_variants {file : File} {table : Table} (h : Table.ofFile file = .ok table)
    {items : List Item} (hitems : table.items = .ok items) :
    List.Forall₂ (fun e item =>
      (∀ a ∈ expectedErrors e, ∀ b ∈ expectedErrors e,
        a.variant = b.variant ↔ Overlap e.name a.name b.name) ∧
      (∀ property ∈ properties,
        arms? property.1 item =
          some ((expectedErrors e).map fun a => (a.variant, property.2 a)) ∧
        ∀ variant, returned? property.1 variant item =
          ((expectedErrors e).find? (·.variant == variant)).map property.2) ∧
      ((expectedErrors e).Pairwise (fun a b => ¬Overlap e.name a.name b.name) →
        ((expectedErrors e).map (·.variant)).Nodup ∧
        ∀ property ∈ properties, ∀ a ∈ expectedErrors e,
          returned? property.1 a.variant item = some (property.2 a)))
      (file.enums.filter (·.isErrorSet)) (items.filter isInherent) := by
  -- the items are rendered from the expected table, one block for each error set
  obtain rfl := eq_expected_of_ofFile h
  have hdispatches := dispatches_of_items hitems
  rw [Table.expected, List.forall₂_map_left_iff] at hdispatches
  refine hdispatches.imp fun e item hitem => ⟨fun a ha b hb => variant_eq_iff ha hb,
    fun property hproperty => ⟨hitem property hproperty, returned?_eq hitem hproperty⟩,
    fun hoverlap => ⟨nodup_variants hoverlap, fun property hproperty a ha => ?_⟩⟩
  rw [returned?_eq hitem hproperty, find?_of_nodup (nodup_variants hoverlap) ha, Option.map_some]

/-- An enum with values that have statuses, numbered from one. -/
def reasonEnum (name : String) (values : List (String × Int)) : Enum where
  name := name
  fullName := "loans." ++ name
  path := name
  comment := ""
  defaultStatus := some 400
  values := values.zipIdx.map fun (v, i) => ⟨v.1, i + 1, some { status := some v.2 }⟩

/-- A file with an enum of which two values overlap, and one without such values. -/
def loanErrors : File where
  name := "loans.proto"
  package := "loans"
  services := []
  enums :=
    [reasonEnum "Reason" [("LATE", 404), ("REASON_LATE", 409), ("LOST", 410)],
     reasonEnum "Trouble" [("LATE", 404), ("TROUBLE_LOST", 410)]]

/-- The value that overlaps with an earlier one has the status of the earlier one. -/
theorem statuses_of_loanErrors :
    ∃ table items, Table.ofFile loanErrors = .ok table ∧ table.items = .ok items ∧
      ∃ reason trouble, items.filter isInherent = [reason, trouble] ∧
        returned? "status" "Late" reason = some "404" ∧
        (arms? "status" reason).map (·.map Prod.fst) = some ["Late", "Late", "Lost"] ∧
        returned? "status" "Late" trouble = some "404" ∧
        returned? "status" "Lost" trouble = some "410" := by
  have hparts : ((Table.ofFile loanErrors).toOption.bind fun table =>
      table.items.toOption.map fun items => items.length) = some 6 := by
    decide +kernel
  obtain ⟨table, htable, hparts⟩ := Option.bind_eq_some_iff.mp hparts
  obtain ⟨items, hitems, -⟩ := Option.map_eq_some_iff.mp hparts
  rw [toOption_eq_some_iff] at htable hitems
  have hall := accessors_follow_variants htable hitems
  have hsets : loanErrors.enums.filter (·.isErrorSet) = loanErrors.enums := by decide +kernel
  rw [hsets] at hall
  -- the two enums have one block of accessors each
  generalize hfound : items.filter isInherent = found at hall
  obtain _ | ⟨⟨-, hreason, -⟩, _ | ⟨⟨-, -, htrouble⟩, _ | _⟩⟩ := hall
  have hstatus : ("status", fun entry : Entry => toString entry.status) ∈ properties :=
    List.mem_cons_self
  -- only the second enum is free of overlaps
  obtain ⟨-, htrouble⟩ := htrouble (by decide +kernel)
  refine ⟨table, items, htable, hitems, _, _, hfound, ?_, ?_, ?_, ?_⟩
  · rw [(hreason _ hstatus).2]
    decide +kernel
  · rw [(hreason _ hstatus).1]
    decide +kernel
  · exact htrouble _ hstatus ⟨"LATE", 1, "Late", 404, none, none, none⟩ (by decide +kernel)
  · exact htrouble _ hstatus ⟨"TROUBLE_LOST", 2, "Lost", 410, none, none, none⟩ (by decide +kernel)

/-- Values with different names can have one variant. -/
theorem variants_can_repeat :
    ¬ ∀ (file : File) (table : Table), (∀ e ∈ file.enums, (e.values.map (·.name)).Nodup) →
      Table.ofFile file = .ok table → ∀ set ∈ table.enums, ∀ a ∈ set.errors, ∀ b ∈ set.errors,
        a.number ≠ b.number → a.variant ≠ b.variant := by
  intro h
  have htable : ((Table.ofFile loanErrors).toOption.bind fun table => table.enums.head?.map (·.errors)) =
      some [⟨"LATE", 1, "Late", 404, none, none, none⟩,
        ⟨"REASON_LATE", 2, "Late", 409, none, none, none⟩,
        ⟨"LOST", 3, "Lost", 410, none, none, none⟩] := by
    decide +kernel
  obtain ⟨table, htable, herrors⟩ := Option.bind_eq_some_iff.mp htable
  obtain ⟨set, hset, herrors⟩ := Option.map_eq_some_iff.mp herrors
  have hset := h loanErrors table (by decide) (toOption_eq_some_iff.mp htable) set
    (List.mem_of_head? hset)
  rw [herrors] at hset
  -- the name of the enum is taken off one of the two
  exact hset ⟨"LATE", 1, "Late", 404, none, none, none⟩ (by decide)
    ⟨"REASON_LATE", 2, "Late", 409, none, none, none⟩ (by decide) (by decide) rfl

end ProtoRest.ErrorSet
