import ProtoRest.Proofs.Descriptor.TidyMessages
import ProtoRest.Proofs.Wire.WrittenValues
import ProtoRest.Schema.OptionForm

/-! # Written rules
The fields of a rule are a tidy message of any pool that has the fields of rules (`tidyAt_fields`), and
the rule is read back from them, also when they were rearranged (`read_of_rearranged`). The inductions
are on the rule: further rules are rules in it. -/

namespace ProtoRest.Schema.HttpRule

open ProtoRest.Descriptor ProtoRest.Wire

/-! ## Fields of a rule -/

/-- The numbers of the patterns. -/
def patternNumbers : List Nat := [2, 3, 4, 5, 6, 8]

/-- Every pattern is written under one of the numbers of the oneof. -/
theorem mem_patternNumbers (pattern : Pattern) : (patternField pattern).1 ∈ patternNumbers := by
  cases pattern <;> simp [patternField, patternNumbers]

/-- A text is written as one field, and left out when it is empty. -/
theorem mem_textField {number : Nat} {s : String} {a : Nat × Raw} :
    a ∈ textField number s ↔ a = (number, .text s) ∧ s ≠ "" := by
  rw [textField]
  split_ifs with hs <;> simp [hs]

/-- The fields of the additional rules are their messages under number 11. -/
theorem mem_additionalFields {rules : List HttpRule} {a : Nat × Raw} :
    a ∈ additionalFields rules ↔ ∃ rule ∈ rules, a = (11, .message rule.fields) := by
  induction rules with
  | nil => simp [additionalFields]
  | cons rule rules ih => simp [additionalFields, ih]

/-- A rule is written as its selector, its pattern, its body, its additional rules and its response
body, in this order. -/
theorem fields_eq (rule : HttpRule) : rule.fields =
    textField 1 rule.selector ++ rule.pattern.toList.map patternField ++ textField 7 rule.body ++
      additionalFields rule.additional ++ textField 12 rule.responseBody := by
  obtain ⟨selector, pattern, body, responseBody, additional⟩ := rule
  rw [fields]
  rfl

/-- A text that is not empty is the one value of its number, and no other number holds one. -/
theorem values_textField (number k : Nat) (s : String) :
    Fields.values (textField number s) k = if k = number ∧ s ≠ "" then [.text s] else [] := by
  rw [textField]
  by_cases hs : s = ""
  · simp [hs]
  · by_cases hk : number = k
    · simp [hs, hk]
    · rw [if_neg hs, Fields.values_cons_of_ne hk, if_neg fun h => hk h.1.symm]
      rfl

/-- The additional rules are the values of number 11, in order. -/
theorem values_additionalFields (rules : List HttpRule) (k : Nat) :
    Fields.values (additionalFields rules) k =
      if k = 11 then rules.map fun rule => .message rule.fields else [] := by
  induction rules with
  | nil => simp [additionalFields]
  | cons rule rules ih =>
    rw [additionalFields]
    by_cases hk : 11 = k
    · subst hk
      rw [Fields.values_cons_self, ih, if_pos rfl, if_pos rfl, List.map_cons]
    · rw [Fields.values_cons_of_ne hk, ih, if_neg (Ne.symm hk), if_neg (Ne.symm hk)]

/-- A pattern leaves the numbers outside of the oneof without values. -/
theorem values_pattern_eq_nil {k : Nat} (hk : k ∉ patternNumbers) (pattern : Option Pattern) :
    Fields.values (pattern.toList.map patternField) k = [] := by
  refine Fields.values_eq_nil fun a ha hnumber => hk ?_
  obtain ⟨found, -, rfl⟩ := List.mem_map.mp ha
  exact hnumber ▸ mem_patternNumbers found

/-- The values of every number in a rule. -/
theorem values_fields (rule : HttpRule) (k : Nat) : Fields.values rule.fields k =
    (if k = 1 ∧ rule.selector ≠ "" then [.text rule.selector] else []) ++
      Fields.values (rule.pattern.toList.map patternField) k ++
      (if k = 7 ∧ rule.body ≠ "" then [.text rule.body] else []) ++
      (if k = 11 then rule.additional.map fun further => .message further.fields else []) ++
      (if k = 12 ∧ rule.responseBody ≠ "" then [.text rule.responseBody] else []) := by
  simp only [fields_eq, Fields.values_append, values_textField, values_additionalFields]

/-- The pattern is the only value of its number. -/
theorem values_fields_of_pattern {rule : HttpRule} {found : Pattern} (h : rule.pattern = some found) :
    Fields.values rule.fields (patternField found).1 = [(patternField found).2] := by
  rw [values_fields, h]
  cases found <;> simp [patternField, Fields.values]

/-- The further rules are the only values of their number. -/
theorem values_fields_eleven (rule : HttpRule) :
    Fields.values rule.fields 11 = rule.additional.map fun further => .message further.fields := by
  simp [values_fields, values_pattern_eq_nil, patternNumbers]

/-- Every number of a written rule but 11 holds one value at most. -/
theorem length_values_fields (rule : HttpRule) {k : Nat} (hk : k ≠ 11) :
    (Fields.values rule.fields k).length ≤ 1 := by
  have htext (number : Nat) (s : String) :
      (if k = number ∧ s ≠ "" then [Raw.text s] else []).length ≤ 1 ∧
        (k = number ∨ (if k = number ∧ s ≠ "" then [Raw.text s] else []).length = 0) := by
    by_cases hnumber : k = number
    · refine ⟨?_, .inl hnumber⟩
      split_ifs <;> simp
    · simp [hnumber]
  have hpattern : (Fields.values (rule.pattern.toList.map patternField) k).length ≤ 1 ∧
      (k ∈ patternNumbers ∨ (Fields.values (rule.pattern.toList.map patternField) k).length = 0) := by
    constructor
    · refine Nat.le_trans (List.length_filterMap_le _ _) ?_
      rw [List.length_map]
      cases rule.pattern <;> simp
    · by_cases hnumber : k ∈ patternNumbers
      · exact .inl hnumber
      · exact .inr (by rw [values_pattern_eq_nil hnumber, List.length_nil])
  -- each part has one value at most, and no two of them share a number
  have hselector := htext 1 rule.selector
  have hbody := htext 7 rule.body
  have hresponse := htext 12 rule.responseBody
  simp only [patternNumbers, List.mem_cons, List.not_mem_nil, or_false] at hpattern
  rw [values_fields, if_neg hk]
  simp only [List.length_append, List.length_nil]
  omega

/-- A field of a rule is a text of its own, the pattern or a further rule. -/
theorem mem_fields {rule : HttpRule} {a : Nat × Raw} (h : a ∈ rule.fields) :
    (∃ number s, number ∈ [1, 7, 12] ∧ s ≠ "" ∧ a = (number, .text s)) ∨
      (∃ found, rule.pattern = some found ∧ a = patternField found) ∨
        ∃ further ∈ rule.additional, a = (11, .message further.fields) := by
  rw [fields_eq] at h
  simp only [List.mem_append, mem_textField, mem_additionalFields, List.mem_map,
    Option.mem_toList] at h
  obtain (((⟨rfl, hs⟩ | ⟨found, hfound, rfl⟩) | ⟨rfl, hs⟩) | hfurther) | ⟨rfl, hs⟩ := h
  · exact .inl ⟨1, _, by simp, hs, rfl⟩
  · exact .inr (.inl ⟨found, hfound, rfl⟩)
  · exact .inl ⟨7, _, by simp, hs, rfl⟩
  · exact .inr (.inr hfurther)
  · exact .inl ⟨12, _, by simp, hs, rfl⟩

/-- A field with a number of patterns is the pattern. -/
theorem eq_patternField_of_mem {rule : HttpRule} {a : Nat × Raw} (h : a ∈ rule.fields)
    (hnumber : a.1 ∈ patternNumbers) : ∃ found, rule.pattern = some found ∧ a = patternField found := by
  obtain ⟨number, s, htext, -, rfl⟩ | hpattern | ⟨further, -, rfl⟩ := mem_fields h
  · have hother : ∀ number ∈ [1, 7, 12], number ∉ patternNumbers := by decide
    exact absurd hnumber (hother number htext)
  · exact hpattern
  · revert hnumber
    simp [patternNumbers]

/-! ## Nesting -/

/-- A further rule is nested less deeply than the list it stands in. -/
theorem nesting_lt_of_mem_additional {further : HttpRule} {rules : List HttpRule}
    (h : further ∈ rules) : further.nesting < additionalNesting rules := by
  induction rules with
  | nil => cases h
  | cons rule rules ih =>
    rw [additionalNesting]
    obtain _ | ⟨_, h⟩ := h
    · omega
    · have hmore := ih h
      omega

/-- A further rule is nested less deep than the rule. -/
theorem nesting_lt {rule further : HttpRule} (h : further ∈ rule.additional) :
    further.nesting < rule.nesting := by
  obtain ⟨selector, pattern, body, responseBody, additional⟩ := rule
  have hlt := nesting_lt_of_mem_additional h
  rw [nesting]
  exact Nat.lt_of_lt_of_le hlt (Nat.le_max_right _ _)

/-- A pattern with a verb of its own is a message in the rule. -/
theorem nesting_pos {rule : HttpRule} {kind path : String}
    (h : rule.pattern = some (.custom kind path)) : 0 < rule.nesting := by
  obtain ⟨selector, pattern, body, responseBody, additional⟩ := rule
  obtain rfl : pattern = some (.custom kind path) := h
  rw [nesting]
  exact Nat.lt_of_lt_of_le Nat.one_pos (Nat.le_max_left _ _)

/-! ## Rules in a pool -/

section Pool

variable {p : Pool} (hp : HasRuleForms p)
  (hentry : ∀ type ∈ p.message? ruleMessage, type.mapEntry = false)

include hp

/-- A pool with the forms of a rule knows its message. -/
theorem exists_ruleType : ∃ type, p.message? ruleMessage = some type := by
  obtain ⟨type, -, htype, -⟩ :=
    Pool.formOf?_eq_some_iff.mp (hp.1 (textForm 1 none) (by simp [ruleForms]))
  exact ⟨type, htype⟩

/-- A pattern with a verb of its own is a tidy message. -/
theorem tidyAt_custom (depth : Nat) (kind path : String) :
    TidyAt p depth customMessage (textField 1 kind ++ textField 2 path) := by
  obtain ⟨type, -, htype, -⟩ :=
    Pool.formOf?_eq_some_iff.mp (hp.2 (textForm 1 none) (by simp [customForms]))
  -- both fields are texts of the form, and not empty
  have hmem : ∀ a ∈ textField 1 kind ++ textField 2 path, ∃ number s,
      textForm number none ∈ customForms ∧ IsFieldNumber number ∧ s ≠ "" ∧ a = (number, .text s) := by
    intro a ha
    rw [List.mem_append, mem_textField, mem_textField] at ha
    obtain ⟨rfl, hs⟩ | ⟨rfl, hs⟩ := ha
    · exact ⟨1, kind, by simp [customForms], by decide, hs, rfl⟩
    · exact ⟨2, path, by simp [customForms], by decide, hs, rfl⟩
  -- no form belongs to a oneof
  have hfree : ∀ form ∈ customForms, form.oneof = none := by decide
  refine .of_inner (tidyBy_of_forms hp.2 htype ?_ ?_ ?_ ?_)
  · intro a ha
    obtain ⟨number, s, hform, hnumber, hs, rfl⟩ := hmem a ha
    exact isKept_text htype (hp.2 _ hform) hnumber rfl rfl (.inr hs)
  · intro a ha
    obtain ⟨number, s, hform, -, -, rfl⟩ := hmem a ha
    exact ⟨_, hform, rfl⟩
  · intro form _ _
    refine Fields.length_values_of_nodup ?_ _
    rw [textField, textField]
    split_ifs <;> simp
  · intro a _ b _ _ form hform rival _ _ _ hsome
    rw [hfree form hform] at hsome
    cases hsome

include hentry

/-- A field of a rule is kept by the field of rules with its number, given the messages inside. -/
theorem isKept_of_mem_fields {inner : String → Fields → Prop} {type : MessageType}
    (htype : p.message? ruleMessage = some type) {rule : HttpRule}
    (hcustom : ∀ {kind path}, rule.pattern = some (.custom kind path) →
      inner customMessage (textField 1 kind ++ textField 2 path))
    (hfurther : ∀ further ∈ rule.additional, inner ruleMessage further.fields) {a : Nat × Raw}
    (ha : a ∈ rule.fields) :
    IsKept p inner type a ∧ ∃ form ∈ ruleForms, form.number = a.1 := by
  have htext {number : Nat} {oneof : Option String} {s : String}
      (hform : textForm number oneof ∈ ruleForms) (hnumber : IsFieldNumber number)
      (hseen : oneof.isSome = true ∨ s ≠ "") :
      IsKept p inner type (number, .text s) ∧ ∃ form ∈ ruleForms, form.number = number :=
    ⟨isKept_text htype (hp.1 _ hform) hnumber rfl rfl hseen, _, hform, rfl⟩
  obtain ⟨number, s, hnumber, hs, rfl⟩ | ⟨found, hfound, rfl⟩ | ⟨further, hmem, rfl⟩ := mem_fields ha
  · -- the selector and the bodies are texts without presence, left out when empty
    have hown : ∀ number ∈ [1, 7, 12], textForm number none ∈ ruleForms ∧ IsFieldNumber number := by
      decide
    exact htext (hown number hnumber).1 (hown number hnumber).2 (.inr hs)
  · -- a pattern is a member of the oneof, so that an empty path is seen too
    have hchoice : ∀ number ∈ [2, 3, 4, 5, 6],
        textForm number (some patternChoice) ∈ ruleForms ∧ IsFieldNumber number := by decide
    have hpath {number : Nat} (hnumber : number ∈ [2, 3, 4, 5, 6]) (path : String) :
        IsKept p inner type (number, .text path) ∧ ∃ form ∈ ruleForms, form.number = number :=
      htext (hchoice number hnumber).1 (hchoice number hnumber).2 (.inl rfl)
    cases found with
    | get path => exact hpath (by decide) path
    | put path => exact hpath (by decide) path
    | post path => exact hpath (by decide) path
    | delete path => exact hpath (by decide) path
    | patch path => exact hpath (by decide) path
    | custom kind path =>
      have hform : FieldForm.mk 8 (.message customMessage false) false true (some patternChoice) false ∈
          ruleForms := by simp [ruleForms]
      exact ⟨isKept_message htype (hp.1 _ hform) (by decide) rfl rfl nofun (hcustom hfound), _, hform,
        rfl⟩
  · -- a further rule is a repeated message
    have hform : FieldForm.mk 11 (.message ruleMessage false) true false none false ∈ ruleForms := by
      simp [ruleForms]
    exact ⟨isKept_message htype (hp.1 _ hform) (by decide) rfl rfl (fun _ => hentry)
      (hfurther further hmem), _, hform, rfl⟩

/-- The fields of a rule are a tidy message, as deep as the rules in it are nested. -/
theorem tidyAt_fields {depth : Nat} {rule : HttpRule} (h : rule.nesting ≤ depth) :
    TidyAt p depth ruleMessage rule.fields := by
  induction depth using Nat.strongRecOn generalizing rule with
  | ind depth ih =>
    obtain ⟨type, htype⟩ := exists_ruleType hp
    have hcustom {kind path : String} (hpattern : rule.pattern = some (.custom kind path)) :
        ∃ d, depth = d + 1 ∧ TidyAt p d customMessage (textField 1 kind ++ textField 2 path) := by
      have hpos := nesting_pos hpattern
      exact ⟨depth - 1, by omega, tidyAt_custom hp _ kind path⟩
    have hfurther : ∀ further ∈ rule.additional,
        ∃ d, depth = d + 1 ∧ TidyAt p d ruleMessage further.fields := by
      intro further hmem
      have hlt := nesting_lt hmem
      exact ⟨depth - 1, by omega, ih (depth - 1) (by omega) (by omega)⟩
    have hkept (a : Nat × Raw) (ha : a ∈ rule.fields) :
        IsKept p (fun name own => ∃ d, depth = d + 1 ∧ TidyAt p d name own) type a ∧
          ∃ form ∈ ruleForms, form.number = a.1 :=
      isKept_of_mem_fields hp hentry htype hcustom hfurther ha
    refine .of_inner (tidyBy_of_forms hp.1 htype (fun a ha => (hkept a ha).1)
      (fun a ha => (hkept a ha).2) ?_ ?_)
    · intro form hform hsingle
      refine length_values_fields rule ?_
      revert form
      decide
    · intro a ha b hb hne form hform rival hrival hnumber hrivalNumber hsome hsame
      have hchoice : ∀ form ∈ ruleForms, form.oneof.isSome → form.number ∈ patternNumbers := by
        decide
      -- both would be the pattern
      obtain ⟨found, hfound, rfl⟩ :=
        eq_patternField_of_mem ha (hnumber ▸ hchoice form hform hsome)
      obtain ⟨found', hfound', rfl⟩ :=
        eq_patternField_of_mem hb (hrivalNumber ▸ hchoice rival hrival (hsame ▸ hsome))
      rw [hfound, Option.some.injEq] at hfound'
      exact hne (by rw [hfound'])

end Pool

/-! ## Reading a rule -/

/-- The fields of a rule are those of the grammar of rules. -/
theorem conforms_fields {depth : Nat} {rule : HttpRule} (h : rule.nesting ≤ depth) :
    Conforms grammar depth .rule rule.fields := by
  -- further rules stand one level deeper, where the hypothesis of induction applies
  induction depth using Nat.strongRecOn generalizing rule with
  | ind depth ih =>
    rw [conforms_iff]
    intro a ha
    obtain ⟨number, s, hnumber, -, rfl⟩ | ⟨found, hfound, rfl⟩ | ⟨further, hmem, rfl⟩ := mem_fields ha
    · have hown : ∀ number ∈ [1, 7, 12], IsFieldNumber number ∧
          ∃ spec, grammar .rule number = some spec ∧ spec.shape = .text := by
        simp [grammar, IsFieldNumber, maxKey]
      obtain ⟨hfield, spec, hspec, hshape⟩ := hown number hnumber
      exact .text hfield hspec hshape .nil
    · cases found with
      | get path | put path | post path | delete path | patch path =>
        exact .text (by decide) rfl rfl .nil
      | custom kind path =>
        obtain ⟨d, rfl⟩ := Nat.exists_eq_add_one_of_ne_zero
          (Nat.ne_of_gt (Nat.lt_of_lt_of_le (nesting_pos hfound) h))
        refine .message (by decide) rfl rfl (conforms_iff.mpr fun b hb => ?_) .nil
        rw [List.mem_append, mem_textField, mem_textField] at hb
        obtain ⟨rfl, -⟩ | ⟨rfl, -⟩ := hb
        · exact .text (by decide) rfl rfl .nil
        · exact .text (by decide) rfl rfl .nil
    · have hlt := nesting_lt hmem
      obtain ⟨d, rfl⟩ := Nat.exists_eq_add_one_of_ne_zero (show depth ≠ 0 by omega)
      exact .message (by decide) rfl rfl (ih d (by omega) (by omega)) .nil

/-- A text that is written unless it is empty is read back. -/
theorem text?_of_values {fs : Fields} {number : Nat} {s : String}
    (h : Fields.values fs number = if s ≠ "" then [.text s] else []) :
    (Fields.text? fs number).getD "" = s := by
  rw [Fields.text?, Fields.texts, h]
  by_cases hs : s = "" <;> simp [hs, Raw.text?]

/-- The selector and the two bodies of a written rule are read back, an empty one by default. -/
theorem text?_fields (rule : HttpRule) {number : Nat} {s : String}
    (h : (number, s) ∈ [(1, rule.selector), (7, rule.body), (12, rule.responseBody)]) :
    (Fields.text? rule.fields number).getD "" = s := by
  refine text?_of_values ?_
  simp only [List.mem_cons, Prod.mk.injEq, List.not_mem_nil, or_false] at h
  obtain ⟨rfl, rfl⟩ | ⟨rfl, rfl⟩ | ⟨rfl, rfl⟩ := h <;>
    simp [values_fields, values_pattern_eq_nil, patternNumbers]

/-- The kind and the path of a custom pattern are read back, an empty one by default. -/
theorem text?_custom {kind path s : String} {number : Nat}
    (h : (number, s) ∈ [(1, kind), (2, path)]) :
    (Fields.text? (textField 1 kind ++ textField 2 path) number).getD "" = s := by
  have hvalues : Fields.values (textField 1 kind ++ textField 2 path) number =
      if s ≠ "" then [.text s] else [] := by
    simp only [List.mem_cons, Prod.mk.injEq, List.not_mem_nil, or_false] at h
    obtain ⟨rfl, rfl⟩ | ⟨rfl, rfl⟩ := h <;> simp [Fields.values_append, values_textField]
  exact text?_of_values hvalues

/-- The rule in a value of the field for further rules. -/
def further? : Raw → Option HttpRule
  | .message own => some (ofFields own)
  | _ => none

/-- The additional rules read off a message are those its values of number 11 hold. -/
theorem additionalOf_eq (fs : Fields) : additionalOf fs = (Fields.values fs 11).filterMap further? := by
  induction fs with
  | nil =>
    rw [additionalOf]
    rfl
  | cons f fs ih =>
    obtain ⟨number, value⟩ := f
    -- only a message under number 11 is a further rule
    have hvalues : (Fields.values ((number, value) :: fs) 11).filterMap further? =
        if number = 11 then (further? value).toList ++ (Fields.values fs 11).filterMap further?
        else (Fields.values fs 11).filterMap further? := by
      split_ifs with hnumber
      · rw [hnumber, Fields.values_cons_self, List.filterMap_cons]
        cases further? value <;> rfl
      · rw [Fields.values_cons_of_ne hnumber]
    rw [hvalues, ← ih]
    cases value with
    | message own =>
      rw [additionalOf]
      rfl
    | varint _ | fixed64 _ | fixed32 _ | bytes _ | text _ | group _ | packed _ =>
      rw [additionalOf]
      · simp [further?]
      · intro n own h
        cases h

/-- Fields outside of the oneof leave the pattern read so far alone. -/
theorem foldl_patternStep_of_no_pattern {fs : Fields} (h : ∀ f ∈ fs, f.1 ∉ patternNumbers)
    (pattern : Option Pattern) : fs.foldl patternStep pattern = pattern := by
  induction fs generalizing pattern with
  | nil => rfl
  | cons f fs ih =>
    rw [List.forall_mem_cons] at h
    have hstep : patternStep pattern f = pattern := by
      obtain ⟨number, value⟩ := f
      have hnumber := h.1
      simp only [patternNumbers, List.mem_cons, List.not_mem_nil, or_false, not_or] at hnumber
      unfold patternStep
      split <;> simp_all
    rw [List.foldl_cons, hstep, ih h.2]

section Rearranged

variable {inner : Fields → Fields → Prop} {fs : Fields}

/-- The pattern of a rule is read from what may become of its field. -/
theorem patternStep_of_sameValue
    (hinner : ∀ own own', inner own own' → ∀ number, Fields.text? own' number = Fields.text? own number)
    (found : Pattern) {value : Raw} (h : SameValue inner (patternField found).2 value) :
    patternStep none ((patternField found).1, value) = some found := by
  cases found with
  | get path | put path | post path | delete path | patch path =>
    cases h
    rfl
  | custom kind path =>
    -- the two fields of a custom pattern may change places, and are read by number
    have hkind : (Fields.text? (textField 1 kind ++ textField 2 path) 1).getD "" = kind :=
      text?_custom (by simp)
    have hpath : (Fields.text? (textField 1 kind ++ textField 2 path) 2).getD "" = path :=
      text?_custom (by simp)
    cases h with
    | refl =>
      simp only [patternField, patternStep, hkind, hpath]
    | message hown =>
      simp only [patternField, patternStep, hinner _ _ hown, hkind, hpath]

/-- The pattern of a rule is read from its fields when they were rearranged: it is the only field with a
number of patterns. -/
theorem foldl_patternStep_of_rearranged
    (hinner : ∀ own own', inner own own' → ∀ number, Fields.text? own' number = Fields.text? own number)
    {rule : HttpRule} (h : RearrangedBy inner rule.fields fs) :
    fs.foldl patternStep none = rule.pattern := by
  cases hpattern : rule.pattern with
  | none =>
    refine foldl_patternStep_of_no_pattern (fun a ha hnumber => ?_) none
    obtain ⟨old, hold, -⟩ := h.exists_left ha
    obtain ⟨found, hfound, -⟩ := eq_patternField_of_mem hold hnumber
    rw [hpattern] at hfound
    cases hfound
  | some found =>
    have hnumber := mem_patternNumbers found
    -- no other number of the rule is one of patterns
    have honly : ∀ a ∈ fs, a.1 ∈ patternNumbers → a.1 = (patternField found).1 := by
      intro a ha hnumber
      obtain ⟨old, hold, -⟩ := h.exists_left ha
      obtain ⟨found', hfound', hsame⟩ := eq_patternField_of_mem hold hnumber
      rw [hpattern, Option.some.injEq] at hfound'
      rw [hfound', ← hsame]
    have hvalues := h (patternField found).1
    rw [values_fields_of_pattern hpattern] at hvalues
    generalize hfs : Fields.values fs (patternField found).1 = values at hvalues
    obtain _ | ⟨hsame, hnil⟩ := hvalues
    cases hnil
    rename_i value
    obtain ⟨before, after, rfl, hbefore, hafter⟩ := Fields.exists_split_of_values hfs
    have hother {part : Fields}
        (hpart : ∀ a ∈ part, a ∈ before ++ ((patternField found).1, value) :: after)
        (hnil : Fields.values part (patternField found).1 = []) :
        ∀ a ∈ part, a.1 ∉ patternNumbers := by
      rintro ⟨n, own⟩ ha hn
      obtain rfl := honly _ (hpart _ ha) hn
      rw [← Fields.mem_values, hnil] at ha
      cases ha
    have hstep := patternStep_of_sameValue hinner found hsame
    rw [List.foldl_append, foldl_patternStep_of_no_pattern (hother (by simp_all) hbefore),
      List.foldl_cons, hstep, foldl_patternStep_of_no_pattern (hother (by simp_all) hafter)]

/-- Rearranged fields of a rule are those of the rule. -/
theorem ofFields_of_rearranged {depth : Nat} {rule : HttpRule}
    (h : RearrangedAt depth rule.fields fs) : ofFields fs = rule := by
  -- by induction on the nesting: the further rules of a rule are nested less deeply
  induction hnesting : rule.nesting using Nat.strongRecOn generalizing depth rule fs with
  | ind nesting ih =>
    have hlevel := h.exists_inner
    -- the texts of a pattern are read by number, so their order does not matter
    have htext (own own' : Fields) (hown : ∃ d, RearrangedAt d own own') (number : Nat) :
        Fields.text? own' number = Fields.text? own number := by
      obtain ⟨d, hown⟩ := hown
      exact hown.exists_inner.text?_eq number
    have hfurther : (Fields.values fs 11).filterMap further? = rule.additional := by
      have hvalues := hlevel 11
      rw [values_fields_eleven, List.forall₂_map_left_iff] at hvalues
      have hrules := (List.forall₂_and_left _ _).mpr ⟨fun further hmem => nesting_lt hmem, hvalues⟩
      rw [filterMap_eq_of_forall₂ (hrules.imp fun further value hmade => ?_), List.filterMap_some]
      obtain ⟨hlt, hsame⟩ := hmade
      cases hsame with
      | refl => exact congrArg some (ih _ (hnesting ▸ hlt) (.refl 0 _) rfl)
      | message hown =>
        obtain ⟨d, hown⟩ := hown
        exact congrArg some (ih _ (hnesting ▸ hlt) hown rfl)
    rw [ofFields, foldl_patternStep_of_rearranged htext hlevel, additionalOf_eq, hfurther,
      hlevel.text?_eq, hlevel.text?_eq, hlevel.text?_eq,
      text?_fields rule (s := rule.selector) (by simp), text?_fields rule (s := rule.body) (by simp),
      text?_fields rule (s := rule.responseBody) (by simp)]
    cases rule
    rfl

end Rearranged

/-- A rule is read from what is written for its fields when they were rearranged. -/
theorem read_of_rearranged {depth : Nat} {rule : HttpRule} {fs : Fields}
    (h : RearrangedAt depth rule.fields fs) (hnesting : rule.nesting ≤ maxDepth)
    (hsize : (writeFields rule.fields).length < 2 ^ 64) : read (writeFields fs) = .ok rule := by
  have hread := readAt_writeFields ((conforms_fields hnesting).of_rearranged h)
    (by rwa [length_of_rearranged h])
  rw [read, Grammar.read, hread]
  exact congrArg Except.ok (ofFields_of_rearranged h)

end ProtoRest.Schema.HttpRule
