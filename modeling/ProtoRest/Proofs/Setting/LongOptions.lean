import ProtoRest.Proofs.Related
import ProtoRest.Proofs.Text.Pieces
import ProtoRest.Setting.Parameter

/-! # Options of a parameter
Each part of a parameter that is not blank becomes one long option, `--key` or `--key=value`, with all
characters of the part but blanks and dashes around the key and the value (`isOf_partOption`). Dashes
are dropped once and before blanks are, so what is written as a key is one only if the part goes on with
it behind its dashes (`HasKey`). A key that blanks had kept from losing its dashes would lose them when
the arguments are read as a parameter again (`partArgument_text_iff`). -/

namespace ProtoRest.Setting

open ProtoRest.Text

/-! ## Long options -/

/-- An argument with a key and a value, or a key alone. -/
structure LongOption where
  /-- What stands behind the two dashes. -/
  key : List Char
  /-- What stands behind the equals sign. -/
  value : Option (List Char)

/-- The text of an option. -/
def LongOption.text (o : LongOption) : List Char :=
  '-' :: '-' :: (o.key ++ (o.value.map ('=' :: ·)).getD [])

/-- A key has a name: it is not empty, starts with no dash and has no blanks around it. -/
structure IsProperKey (key : List Char) : Prop where
  /-- There is a first character. -/
  ne_nil : key ≠ []
  /-- It is no dash. -/
  head_ne : key.head? ≠ some '-'
  /-- No blank is at an end. -/
  trimmed : IsTrimmed key

/-! ## Parts of a parameter -/

/-- The parts of a parameter that are not blank. -/
def parameterParts (parameter : String) : List (List Char) :=
  (splitAt ',' parameter.toList).filter (·.any (!isBlank ·))

/-- A part behind the dashes at its start. -/
def behindDashes (part : List Char) : List Char := (trim part).dropWhile (· == '-')

/-- Behind its dashes a part has a key: it goes on with a character of a key, or, when an equals sign
follows, with blanks and such a character. -/
def HasKey (part : List Char) : Prop :=
  ∃ gap c rest, behindDashes part = gap ++ c :: rest ∧ (∀ d ∈ gap, isBlank d = true) ∧
    isBlank c = false ∧ c ≠ '-' ∧ c ≠ '=' ∧ (gap = [] ∨ '=' ∈ rest)

/-- Behind its dashes a part has blanks, another dash and later an equals sign. -/
def HidesDash (part : List Char) : Prop :=
  ∃ gap rest, behindDashes part = gap ++ '-' :: rest ∧ (∀ d ∈ gap, isBlank d = true) ∧ '=' ∈ rest

/-- The option that a part stands for. -/
def partOption (part : List Char) : LongOption :=
  match splitOnce '=' (behindDashes part) with
  | some (key, value) => ⟨trim key, some (trim value)⟩
  | none => ⟨behindDashes part, none⟩

/-- A part is a key alone, or a key and a value around its first equals sign. -/
theorem partOption_cases (part : List Char) :
    ('=' ∉ behindDashes part ∧ partOption part = ⟨behindDashes part, none⟩) ∨
      ∃ key value, behindDashes part = key ++ '=' :: value ∧ '=' ∉ key ∧
        partOption part = ⟨trim key, some (trim value)⟩ := by
  cases hsplit : splitOnce '=' (behindDashes part) with
  | none => exact .inl ⟨splitOnce_eq_none_iff.mp hsplit, by simp only [partOption, hsplit]⟩
  | some both =>
    obtain ⟨hbehind, hequals⟩ := splitOnce_eq_some_iff.mp hsplit
    exact .inr ⟨both.1, both.2, hbehind, hequals, by simp only [partOption, hsplit]⟩

/-- The argument made of a part is the text of its option. -/
theorem partArgument_trim (part : List Char) : partArgument (trim part) = (partOption part).text := by
  rw [partArgument, partOption, ← behindDashes]
  cases splitOnce '=' (behindDashes part) <;> simp [LongOption.text]

/-- A text is blank exactly when trimming leaves nothing of it. -/
theorem trim_ne_nil_iff (cs : List Char) : trim cs ≠ [] ↔ cs.any (!isBlank ·) = true := by
  rw [List.any_eq_true]
  constructor
  · intro hne
    obtain ⟨c, rest, htrim⟩ := List.exists_cons_of_ne_nil hne
    have hc := (isTrimmed_trim cs).head c (by rw [htrim]; rfl)
    exact ⟨c, mem_of_mem_trim (by rw [htrim]; exact List.mem_cons_self), by rw [hc]; rfl⟩
  · rintro ⟨c, hc, hblank⟩ hnil
    obtain hmem | hc := mem_trim_or_isBlank hc
    · rw [hnil] at hmem
      cases hmem
    · rw [hc] at hblank
      cases hblank

/-- The arguments of a parameter are the texts of its parts' options, in order. -/
theorem parameterArguments_eq (parameter : String) :
    parameterArguments parameter =
      (parameterParts parameter).map fun part => String.ofList (partOption part).text := by
  have hparts : ((splitAt ',' parameter.toList).map trim).filter (· ≠ []) =
      (parameterParts parameter).map trim := by
    rw [List.filter_map, parameterParts]
    refine congrArg _ (List.filter_congr fun part _ => ?_)
    rw [Function.comp_apply, ← Bool.decide_coe (part.any _)]
    exact decide_eq_decide.mpr (trim_ne_nil_iff part)
  rw [parameterArguments, hparts, List.map_map]
  exact List.map_congr_left fun part _ => congrArg String.ofList (partArgument_trim part)

/-! ## What is behind the dashes -/

section Behind

variable {part : List Char}

/-- What stands behind the dashes begins with no dash. -/
theorem head?_behindDashes_ne : (behindDashes part).head? ≠ some '-' := by
  intro hdash
  exact absurd (of_mem_head?_dropWhile hdash) (by decide)

/-- What stands behind the dashes ends the trimmed part. -/
theorem isSuffix_behindDashes (part : List Char) : behindDashes part <:+ trim part :=
  List.dropWhile_suffix _

/-- What stands behind the dashes ends in no blank. -/
theorem isBlank_getLast?_behindDashes : ∀ c ∈ (behindDashes part).getLast?, isBlank c = false := by
  obtain ⟨front, hfront⟩ := isSuffix_behindDashes part
  intro c hc
  refine (isTrimmed_trim part).last c ?_
  rw [← hfront]
  exact List.mem_getLast?_append_of_mem_getLast? hc

end Behind

section Key

variable {part key value : List Char} (hsplit : behindDashes part = key ++ '=' :: value)
  (hequals : '=' ∉ key)

include hsplit hequals

/-- The key before an equals sign starts with the first character that is no blank. -/
theorem head?_trim_key_iff {c : Char} (hblank : isBlank c = false) (hne : c ≠ '=') :
    (trim key).head? = some c ↔
      ∃ gap rest, behindDashes part = gap ++ c :: rest ∧ (∀ d ∈ gap, isBlank d = true) ∧
        '=' ∈ rest := by
  rw [hsplit]
  constructor
  · intro hhead
    obtain ⟨rest, hrest⟩ := List.head?_eq_some_iff.mp hhead
    obtain ⟨gap, back, hkey, hgap, -⟩ := exists_trim key
    refine ⟨gap, rest ++ back ++ '=' :: value, ?_, hgap, by simp⟩
    rw [hkey, hrest]
    simp only [List.append_assoc, List.cons_append]
  · rintro ⟨gap, rest, heq, hgap, -⟩
    -- the blanks end before the equals sign, so the character is one of the key
    obtain ⟨more, rfl, hmore⟩ | ⟨more, rfl, hmore⟩ := List.append_eq_append_iff.mp heq
    · cases more with
      | nil => exact absurd (List.cons.inj hmore).1.symm hne
      | cons d more =>
        obtain ⟨rfl, -⟩ := List.cons.inj hmore
        exact absurd (hgap '=' (by simp)) (by decide)
    · cases more with
      | nil => exact absurd (List.cons.inj hmore).1 hne
      | cons d more =>
        obtain ⟨rfl, -⟩ := List.cons.inj hmore
        have hone : IsTrimmed [c] := ⟨by simpa using hblank, by simpa using hblank⟩
        rw [trim_blanks_append hgap, ← List.singleton_append,
          hone.trim_append (List.cons_ne_nil _ _)]
        rfl

end Key

/-- A part without an equals sign is a key as a whole. -/
theorem isProperKey_behindDashes_iff {part : List Char} (hequals : '=' ∉ behindDashes part) :
    IsProperKey (behindDashes part) ↔ HasKey part := by
  constructor
  · rintro ⟨hne, hdash, htrimmed⟩
    obtain ⟨c, rest, hkey⟩ := List.exists_cons_of_ne_nil hne
    rw [hkey] at hequals hdash htrimmed
    refine ⟨[], c, rest, hkey, by simp, htrimmed.head c rfl, ?_, ?_, .inl rfl⟩
    · rintro rfl
      exact hdash rfl
    · rintro rfl
      exact hequals List.mem_cons_self
  · rintro ⟨gap, c, rest, hkey, -, hblank, -, -, hgap⟩
    -- without an equals sign nothing is trimmed, so no blank may come first
    obtain rfl := hgap.resolve_right fun hrest => hequals (by rw [hkey]; simp [hrest])
    rw [List.nil_append] at hkey
    refine ⟨by simp [hkey], head?_behindDashes_ne, ?_, isBlank_getLast?_behindDashes⟩
    rw [hkey]
    rintro _ ⟨⟩
    exact hblank

/-- In a part with an equals sign the key is before the first one, without the blanks around it. -/
theorem isProperKey_trim_iff {part key value : List Char}
    (hsplit : behindDashes part = key ++ '=' :: value) (hequals : '=' ∉ key) :
    IsProperKey (trim key) ↔ HasKey part := by
  constructor
  · rintro ⟨hne, hdash, htrimmed⟩
    obtain ⟨c, rest, hkey⟩ := List.exists_cons_of_ne_nil hne
    have hhead : (trim key).head? = some c := by rw [hkey]; rfl
    have hc : c ∈ key := mem_of_mem_trim (by rw [hkey]; exact List.mem_cons_self)
    have hblank := htrimmed.head c hhead
    have hcequals : c ≠ '=' := fun h => hequals (h ▸ hc)
    obtain ⟨gap, more, hbehind, hgap, hmore⟩ :=
      (head?_trim_key_iff hsplit hequals hblank hcequals).mp hhead
    exact ⟨gap, c, more, hbehind, hgap, hblank, fun h => hdash (h ▸ hhead), hcequals, .inr hmore⟩
  · rintro ⟨gap, c, rest, hbehind, hgap, hblank, hdash, hcequals, -⟩
    have hrest : '=' ∈ rest := by
      -- neither the blanks nor the first character of the key is an equals sign
      have hmem : '=' ∈ behindDashes part := by rw [hsplit]; simp
      rw [hbehind, List.mem_append, List.mem_cons] at hmem
      obtain hmem | rfl | hmem := hmem
      · exact absurd (hgap '=' hmem) (by decide)
      · exact absurd rfl hcequals
      · exact hmem
    have hhead := (head?_trim_key_iff hsplit hequals hblank hcequals).mpr
      ⟨gap, rest, hbehind, hgap, hrest⟩
    refine ⟨?_, ?_, isTrimmed_trim key⟩
    · rintro hnil
      rw [hnil] at hhead
      cases hhead
    · rw [hhead]
      exact fun h => hdash (Option.some.inj h)

/-- The key of a part is a proper one exactly when the part has a key behind its dashes. -/
theorem isProperKey_iff (part : List Char) : IsProperKey (partOption part).key ↔ HasKey part := by
  obtain ⟨hequals, hoption⟩ | ⟨key, value, hsplit, hequals, hoption⟩ := partOption_cases part
  · rw [hoption]
    exact isProperKey_behindDashes_iff hequals
  · rw [hoption]
    exact isProperKey_trim_iff hsplit hequals

/-- The key of a part starts with a dash exactly when the part hides one. -/
theorem head?_key_iff (part : List Char) :
    (partOption part).key.head? = some '-' ↔ HidesDash part := by
  obtain ⟨hequals, hoption⟩ | ⟨key, value, hsplit, hequals, hoption⟩ := partOption_cases part
  · rw [hoption]
    refine iff_of_false head?_behindDashes_ne ?_
    rintro ⟨gap, rest, hbehind, -, hrest⟩
    rw [hbehind] at hequals
    exact hequals (by simp [hrest])
  · rw [hoption]
    exact head?_trim_key_iff hsplit hequals (by decide) (by decide)

/-! ## The option of a part -/

/-- The characters of a text but its blanks and dashes. -/
def namedChars (cs : List Char) : List Char := cs.filter fun c => !isBlank c && c != '-'

/-- The named characters of two texts in a row are those of the first and those of the second. -/
theorem namedChars_append (cs ds : List Char) :
    namedChars (cs ++ ds) = namedChars cs ++ namedChars ds := List.filter_append cs ds

/-- A text of blanks and dashes has no named characters. -/
theorem namedChars_eq_nil {cs : List Char} (h : ∀ c ∈ cs, isBlank c = true ∨ c = '-') :
    namedChars cs = [] := by
  rw [namedChars, List.filter_eq_nil_iff]
  intro c hc
  obtain hblank | rfl := h c hc
  · simp [hblank]
  · simp

/-- Trimming loses no named character. -/
theorem namedChars_trim (cs : List Char) : namedChars (trim cs) = namedChars cs := by
  obtain ⟨front, back, hsplit, hfront, hback⟩ := exists_trim cs
  conv_rhs => rw [hsplit]
  rw [namedChars_append, namedChars_append, namedChars_eq_nil fun c hc => .inl (hfront c hc),
    namedChars_eq_nil fun c hc => .inl (hback c hc), List.nil_append, List.append_nil]

/-- Taking off the dashes loses no named character. -/
theorem namedChars_behindDashes (part : List Char) :
    namedChars (behindDashes part) = namedChars part := by
  have hdashes := congrArg namedChars
    (List.takeWhile_append_dropWhile (p := (· == '-')) (l := trim part))
  rw [namedChars_append, namedChars_eq_nil, List.nil_append, namedChars_trim] at hdashes
  · exact hdashes
  · exact fun c hc => .inr (by simpa using List.mem_takeWhile_imp hc)

/-- An option is written from a part of a parameter. -/
structure LongOption.IsOf (part : List Char) (o : LongOption) : Prop where
  /-- The key stands in the part. -/
  key : o.key <:+: part
  /-- The value stands in the part. -/
  value : ∀ v ∈ o.value, v <:+: part
  /-- Nothing else than blanks and dashes is lost. -/
  kept : namedChars o.text = namedChars part
  /-- There is a value exactly when the part has an equals sign. -/
  isSome_value : o.value.isSome = true ↔ '=' ∈ part
  /-- The key ends before the first one. -/
  notMem_key : '=' ∉ o.key
  /-- The value has no blanks around it. -/
  trimmed : ∀ v ∈ o.value, IsTrimmed v
  /-- The key is a proper one exactly when the part has one behind its dashes. -/
  isProperKey : IsProperKey o.key ↔ HasKey part

/-- A trimmed text stands in the text it was trimmed from. -/
theorem trim_isInfix (cs : List Char) : trim cs <:+: cs := by
  obtain ⟨front, back, hsplit, -, -⟩ := exists_trim cs
  exact ⟨front, back, hsplit.symm⟩

/-- The option that a part stands for is written from the part. -/
theorem isOf_partOption (part : List Char) : (partOption part).IsOf part := by
  have hproper := isProperKey_iff part
  have hinfix : behindDashes part <:+: part :=
    (isSuffix_behindDashes part).isInfix.trans (trim_isInfix part)
  have hnamed := namedChars_behindDashes part
  have hmem : '=' ∈ part ↔ '=' ∈ behindDashes part := by
    have hiff (cs : List Char) : '=' ∈ namedChars cs ↔ '=' ∈ cs := by
      rw [namedChars, List.mem_filter]
      exact and_iff_left (by decide)
    rw [← hiff part, ← hnamed, hiff]
  obtain ⟨hequals, hoption⟩ | ⟨key, value, hsplit, hequals, hoption⟩ := partOption_cases part
  · -- without an equals sign all of it is the key
    rw [hoption] at hproper ⊢
    exact {
      key := hinfix
      value := by simp
      kept := by
        rw [← hnamed]
        simp [LongOption.text, namedChars]
      isSome_value := by simpa [hmem] using hequals
      notMem_key := hequals
      trimmed := by simp
      isProperKey := hproper }
  · -- the first equals sign divides it, and both sides lose their blanks
    rw [hoption] at hproper ⊢
    have hkey : key <:+: behindDashes part := ⟨[], '=' :: value, by simp [hsplit]⟩
    have hvalue : value <:+: behindDashes part := ⟨key ++ ['='], [], by simp [hsplit]⟩
    exact {
      key := (trim_isInfix key).trans (hkey.trans hinfix)
      value := by
        rintro _ ⟨⟩
        exact (trim_isInfix value).trans (hvalue.trans hinfix)
      kept := by
        have htext : LongOption.text ⟨trim key, some (trim value)⟩ =
            ['-', '-'] ++ (trim key ++ (['='] ++ trim value)) := rfl
        have hdashes : namedChars ['-', '-'] = [] := by decide
        have hvalue : namedChars ('=' :: value) = namedChars ['='] ++ namedChars value :=
          namedChars_append ['='] value
        simp only [← hnamed, hsplit, htext, namedChars_append, hdashes, namedChars_trim, hvalue,
          List.nil_append]
      isSome_value := by simp [hmem, hsplit]
      notMem_key := fun h => hequals (mem_of_mem_trim h)
      trimmed := by
        rintro _ ⟨⟩
        exact isTrimmed_trim value
      isProperKey := hproper }

/-! ## Reading the arguments again -/

/-- The text of an option has no blanks around it. -/
theorem isTrimmed_text (part : List Char) : IsTrimmed (partOption part).text := by
  refine ⟨by rintro _ ⟨⟩; decide, fun c hc => ?_⟩
  obtain ⟨-, hoption⟩ | ⟨key, value, -, -, hoption⟩ := partOption_cases part
  · -- an empty key leaves the dashes at the end
    have htext : (partOption part).text = ['-', '-'] ++ behindDashes part := by
      simp [hoption, LongOption.text]
    rw [htext, List.getLast?_append, Option.mem_def, Option.or_eq_some_iff] at hc
    obtain hc | ⟨-, hc⟩ := hc
    · exact isBlank_getLast?_behindDashes c hc
    · obtain rfl := Option.some.inj hc
      decide
  · -- an empty value leaves the equals sign
    have htext : (partOption part).text = ('-' :: '-' :: trim key ++ ['=']) ++ trim value := by
      simp [hoption, LongOption.text]
    rw [htext, List.getLast?_append, List.getLast?_concat, Option.mem_def,
      Option.or_eq_some_iff] at hc
    obtain hc | ⟨-, hc⟩ := hc
    · exact (isTrimmed_trim value).last c hc
    · obtain rfl := Option.some.inj hc
      decide

/-- The option of a part without commas is written without commas. -/
theorem comma_notMem_text {part : List Char} (h : ',' ∉ part) : ',' ∉ (partOption part).text := by
  intro hmem
  have hnamed : ',' ∈ namedChars (partOption part).text := List.mem_filter.mpr ⟨hmem, by decide⟩
  rw [(isOf_partOption part).kept] at hnamed
  exact h (List.mem_filter.mp hnamed).1

/-- A key with a value loses the dashes at its start. -/
theorem partArgument_valued {key value : List Char} (hequals : '=' ∉ key) :
    partArgument (LongOption.text ⟨key, some value⟩) =
      LongOption.text ⟨trim (key.dropWhile (· == '-')), some (trim value)⟩ := by
  have hdrop : (LongOption.text ⟨key, some value⟩).dropWhile (· == '-') =
      key.dropWhile (· == '-') ++ '=' :: value := by
    have hkey : (LongOption.text ⟨key, some value⟩).dropWhile (· == '-') =
        (key ++ '=' :: value).dropWhile (· == '-') := rfl
    rw [hkey, List.dropWhile_append]
    split_ifs with hnil
    · rw [List.isEmpty_iff.mp hnil]
      rfl
    · rfl
  have hsplit : splitOnce '=' (key.dropWhile (· == '-') ++ '=' :: value) =
      some (key.dropWhile (· == '-'), value) :=
    splitOnce_eq_some_iff.mpr ⟨rfl, fun h => hequals ((List.dropWhile_sublist _).mem h)⟩
  simp only [partArgument, hdrop, hsplit]
  rfl

/-- A key that starts with no dash is left alone. -/
theorem partArgument_bare {key : List Char} (hequals : '=' ∉ key) (hdash : key.head? ≠ some '-') :
    partArgument (LongOption.text ⟨key, none⟩) = LongOption.text ⟨key, none⟩ := by
  have htext : LongOption.text ⟨key, none⟩ = '-' :: '-' :: key := by simp [LongOption.text]
  have hdrop : ('-' :: '-' :: key).dropWhile (· == '-') = key := by
    have hkey : ('-' :: '-' :: key).dropWhile (· == '-') = key.dropWhile (· == '-') := rfl
    rw [hkey, dropWhile_of_head?]
    intro c hc
    rw [beq_eq_false_iff_ne]
    exact fun h => hdash (h ▸ hc)
  rw [htext]
  simp only [partArgument, hdrop, splitOnce_eq_none_iff.mpr hequals]
  rfl

/-- An option is its own argument exactly when its part hides no dash. -/
theorem partArgument_text_iff (part : List Char) :
    partArgument (partOption part).text = (partOption part).text ↔ ¬HidesDash part := by
  rw [← head?_key_iff]
  obtain ⟨hequals, hoption⟩ | ⟨key, value, -, hequals, hoption⟩ := partOption_cases part
  · rw [hoption]
    exact iff_of_true (partArgument_bare hequals head?_behindDashes_ne) head?_behindDashes_ne
  · rw [hoption, partArgument_valued fun h => hequals (mem_of_mem_trim h),
      (isTrimmed_trim value).trim_eq]
    dsimp only
    constructor
    · intro hsame hdash
      -- a dash would go, and trimming puts nothing back
      obtain ⟨rest, hrest⟩ := List.head?_eq_some_iff.mp hdash
      have hdrop : (trim key).dropWhile (· == '-') = rest.dropWhile (· == '-') := by
        rw [hrest]
        rfl
      have hlength := congrArg List.length hsame
      have htrim := length_trim_le (rest.dropWhile (· == '-'))
      have hsuffix := (List.dropWhile_suffix (l := rest) (· == '-')).length_le
      rw [hdrop, hrest] at hlength
      simp only [LongOption.text, List.length_cons, List.length_append] at hlength
      omega
    · intro hdash
      rw [dropWhile_of_head?, (isTrimmed_trim key).trim_eq]
      intro c hc
      rw [beq_eq_false_iff_ne]
      exact fun h => hdash (h ▸ hc)

/-! ## Main statement -/

/-- The parameter that has the arguments as its parts. -/
def joinedArguments (arguments : List String) : String :=
  String.ofList (joinWith [','] (arguments.map String.toList))

/-- Trimmed texts without commas are the parts of what they are joined to. -/
theorem parameterArguments_joinWith {texts : List (List Char)} (hcomma : ∀ t ∈ texts, ',' ∉ t)
    (htrimmed : ∀ t ∈ texts, IsTrimmed t) (hne : ∀ t ∈ texts, t ≠ []) :
    parameterArguments (String.ofList (joinWith [','] texts)) =
      texts.map fun t => String.ofList (partArgument t) := by
  by_cases hnil : texts = []
  · rw [hnil]
    rfl
  · have htrim : texts.map trim = texts :=
      (List.map_congr_left fun t ht => (htrimmed t ht).trim_eq).trans (List.map_id' texts)
    have hfilter : texts.filter (· ≠ []) = texts :=
      List.filter_eq_self.mpr fun t ht => by simpa using hne t ht
    rw [parameterArguments, String.toList_ofList, splitAt_joinWith hnil hcomma, htrim, hfilter]

/-- The arguments of a parameter are those of the parameter that they are joined to exactly when no part
hides a dash. -/
theorem parameterArguments_joined_iff (parameter : String) :
    parameterArguments (joinedArguments (parameterArguments parameter)) =
        parameterArguments parameter ↔
      ∀ part ∈ parameterParts parameter, ¬HidesDash part := by
  have hcomma : ∀ part ∈ parameterParts parameter, ',' ∉ part := by
    intro part hpart hmem
    exact (mem_of_mem_splitAt (List.mem_filter.mp hpart).1 hmem).2 rfl
  have hjoined : joinedArguments (parameterArguments parameter) =
      String.ofList (joinWith [','] ((parameterParts parameter).map fun part =>
        (partOption part).text)) := by
    rw [joinedArguments, parameterArguments_eq, List.map_map]
    simp only [Function.comp_def, String.toList_ofList]
  rw [hjoined, parameterArguments_joinWith, parameterArguments_eq, List.map_map, List.map_inj_left]
  · simp only [Function.comp_apply, String.ofList_inj, partArgument_text_iff]
  · exact List.forall_mem_map.mpr fun part hpart => comma_notMem_text (hcomma part hpart)
  · exact List.forall_mem_map.mpr fun part _ => isTrimmed_text part
  · exact List.forall_mem_map.mpr fun part _ => List.cons_ne_nil _ _

/-- Every part of a parameter that is not blank becomes one argument, in order: a key, or a key and a
value without blanks around it, with all characters of the part but blanks and dashes. The key is a
proper one exactly when the part goes on with it behind its dashes, and the arguments stand for
themselves as a parameter exactly when no part hides a dash behind blanks that come after its dashes. -/
theorem parameter_parts_become_options (parameter : String) :
    List.Forall₂ (fun part argument => ∃ o : LongOption, o.IsOf part ∧ argument.toList = o.text)
      (parameterParts parameter) (parameterArguments parameter) ∧
    (parameterArguments (joinedArguments (parameterArguments parameter)) =
        parameterArguments parameter ↔
      ∀ part ∈ parameterParts parameter, ¬HidesDash part) := by
  refine ⟨?_, parameterArguments_joined_iff parameter⟩
  rw [parameterArguments_eq, List.forall₂_map_right_iff, List.forall₂_same]
  exact fun part _ => ⟨partOption part, isOf_partOption part, String.toList_ofList⟩

/-- The arguments of three parts are no options with a name: dashes alone have no key, a key keeps a blank
behind its dashes, and one with a value keeps a dash behind the blank, so that it is another argument
when it is read again. -/
theorem parameter_keys_can_be_improper :
    (¬ ∀ parameter, ∀ argument ∈ parameterArguments parameter, ∀ o : LongOption,
      argument.toList = o.text → '=' ∉ o.key → o.key ≠ []) ∧
    (¬ ∀ parameter, ∀ argument ∈ parameterArguments parameter, ∀ o : LongOption,
      argument.toList = o.text → '=' ∉ o.key → IsTrimmed o.key) ∧
    (¬ ∀ parameter, ∀ argument ∈ parameterArguments parameter, ∀ o : LongOption,
      argument.toList = o.text → '=' ∉ o.key → o.key.head? ≠ some '-') ∧
    ¬ ∀ parameter, parameterArguments (joinedArguments (parameterArguments parameter)) =
      parameterArguments parameter := by
  have hbare : parameterArguments "--" = ["--"] := by decide +kernel
  have hblank : parameterArguments "- omitempty" = ["-- omitempty"] := by decide +kernel
  have hdash : parameterArguments "- -omitempty_prefix=/v1" = ["---omitempty_prefix=/v1"] := by
    decide +kernel
  have hagain : parameterArguments "---omitempty_prefix=/v1" = ["--omitempty_prefix=/v1"] := by
    decide +kernel
  refine ⟨fun h => ?_, fun h => ?_, fun h => ?_, fun h => ?_⟩
  · -- a key may be empty
    exact h "--" "--" (by rw [hbare]; exact List.mem_cons_self) ⟨[], none⟩ rfl (by simp) rfl
  · -- a key may begin with a blank
    have htrimmed := h "- omitempty" "-- omitempty" (by rw [hblank]; exact List.mem_cons_self)
      ⟨" omitempty".toList, none⟩ (by decide +kernel) (by decide)
    exact absurd htrimmed (by decide)
  · -- a key may begin with a dash
    have hhead := h "- -omitempty_prefix=/v1" "---omitempty_prefix=/v1"
      (by rw [hdash]; exact List.mem_cons_self)
      ⟨"-omitempty_prefix".toList, some "/v1".toList⟩ (by decide +kernel) (by decide)
    exact hhead rfl
  · -- the arguments may give others when they are a parameter again
    have hsame := h "- -omitempty_prefix=/v1"
    have hjoined : joinedArguments ["---omitempty_prefix=/v1"] = "---omitempty_prefix=/v1" := by
      decide +kernel
    rw [hdash, hjoined, hagain] at hsame
    exact absurd hsame (by decide)

end ProtoRest.Setting
