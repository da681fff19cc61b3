import ProtoRest.Code.Ident
import ProtoRest.Proofs.Text.Words
import ProtoRest.Proofs.Verdict

/-! # Identifiers of names
A text of name characters is an identifier unless it is empty or starts with a digit
(`isIdentText_iff`), and what a name becomes in lower case depends on how the name leads
(`decides_ofField`). -/

namespace ProtoRest.Code

open ProtoRest.Text ProtoRest.Schema

/-- A text has only characters of names. -/
def HasNameChars (s : String) : Prop := ∀ c ∈ s.toList, isNameChar c = true

instance (s : String) : Decidable (HasNameChars s) :=
  decidable_of_iff (s.toList.all isNameChar = true) List.all_eq_true

/-- Two texts in characters of names are joined to one. -/
theorem HasNameChars.append {s t : String} (hs : HasNameChars s) (ht : HasNameChars t) :
    HasNameChars (s ++ t) := by
  intro c hc
  rw [String.toList_append, List.mem_append] at hc
  exact hc.elim (hs c) (ht c)

/-- A name is written in characters of names. -/
theorem hasNameChars_of_isName {s : String} (h : isName s = true) : HasNameChars s := by
  intro c hc
  rw [isName] at h
  cases hs : s.toList with
  | nil => rw [hs] at hc; cases hc
  | cons d ds =>
    rw [hs] at h hc
    simp only [Bool.and_eq_true, List.all_eq_true] at h
    obtain rfl | hc := List.mem_cons.mp hc
    · obtain ⟨hstart, -⟩ := h
      rw [Bool.or_eq_true] at hstart
      rw [isNameChar, Char.isAlphanum, Bool.or_eq_true, Bool.or_eq_true]
      exact hstart.imp_left Or.inl
    · exact h.2 c hc

/-- A name starts with a character of names that is no digit. -/
theorem exists_cons_of_isName {s : String} (h : isName s = true) :
    ∃ c cs, s.toList = c :: cs ∧ isNameChar c = true ∧ c.isDigit = false := by
  have hchars := hasNameChars_of_isName h
  rw [isName] at h
  cases hs : s.toList with
  | nil =>
    rw [hs] at h
    cases h
  | cons c cs =>
    have hc : isNameChar c = true := hchars c (by simp [hs])
    have hdigit : (c.isAlpha || c == '_') = true → c.isDigit = false :=
      forall_isNameChar (fun c => (c.isAlpha || c == '_') = true → c.isDigit = false) (by decide) hc
    simp only [hs, Bool.and_eq_true] at h
    exact ⟨c, cs, rfl, hc, hdigit h.1⟩

/-- A number is written in characters of names. -/
theorem hasNameChars_toString (n : Nat) : HasNameChars (toString n) := by
  intro c hc
  have hdigit : c.isDigit = true := by
    rw [Nat.toString_eq_repr, Nat.toList_repr] at hc
    exact Nat.isDigit_of_mem_toDigits (b := 10) (by decide) (by decide) hc
  rw [isNameChar, Char.isAlphanum, hdigit, Bool.or_true, Bool.true_or]

section Names

variable {s : String}

/-- A text in characters of names is an identifier exactly when it begins with something other than
a digit. -/
theorem isIdentText_iff (hs : HasNameChars s) :
    isIdentText s.toList = true ↔ ∃ c, s.toList.head? = some c ∧ c.isDigit = false := by
  cases hcs : s.toList with
  | nil => simp [isIdentText]
  | cons c cs =>
    have hname : ∀ d ∈ c :: cs, isNameChar d = true := fun d hd => hs d (hcs ▸ hd)
    have hrest : cs.all isIdentifierContinue = true := List.all_eq_true.mpr fun d hd =>
      isIdentifierContinue_of_isNameChar (hname d (List.mem_cons_of_mem c hd))
    simp [isIdentText, isIdentifierStart_of_isNameChar (hname c List.mem_cons_self), hrest]

/-- A name is an identifier. -/
theorem isIdentText_of_isName (h : isName s = true) : isIdentText s.toList = true := by
  obtain ⟨c, cs, hs, -, hdigit⟩ := exists_cons_of_isName h
  rw [isIdentText_iff (hasNameChars_of_isName h)]
  exact ⟨c, by rw [hs, List.head?_cons], hdigit⟩

/-- The first character of a name that is not an underscore is a letter or a digit. -/
theorem lead?_cases (hs : HasNameChars s) {c : Char} (h : lead? s = some c) :
    isNameChar c = true ∧ c ≠ '_' :=
  ⟨hs c (List.mem_of_find?_eq_some h), by simpa using List.find?_some h⟩

/-- A character of a name that is no underscore is a letter or a digit. -/
theorem isAlpha_of_isNameChar {c : Char} (hc : isNameChar c = true) :
    c ≠ '_' → c.isAlpha = !c.isDigit :=
  forall_isNameChar (fun c => c ≠ '_' → c.isAlpha = !c.isDigit) (by decide) hc

/-- A text in characters of names leads with a letter exactly when something other than a digit
follows its underscores. -/
theorem leadsWithLetter_iff (hs : HasNameChars s) :
    leadsWithLetter s = true ↔ ∃ c, lead? s = some c ∧ c.isDigit = false := by
  rw [leadsWithLetter]
  cases h : lead? s with
  | none => simp
  | some c =>
    obtain ⟨hc, hne⟩ := lead?_cases hs h
    simp [isAlpha_of_isNameChar hc hne]

/-- An identifier is made exactly when its text is one, and bears that text. -/
theorem decides_make (text : String) :
    Decides (isIdentText text.toList = true) (fun ident => ident.text = text) (Ident.make text) := by
  refine ⟨fun h => ⟨⟨text⟩, ?_, rfl⟩, fun h => ⟨.crash, ?_, rfl⟩⟩
  · rw [Ident.make, if_pos h]
  · rw [Ident.make, if_neg h]

/-- An identifier is always made of a text that is one. -/
theorem decides_make_of_isIdentText {text : String} (h : isIdentText text.toList = true) :
    Decides True (fun ident => ident.text = text) (Ident.make text) :=
  (decides_make text).congr (iff_true_intro h)

/-! ## Fields and methods -/

/-- A snake case form is an identifier exactly when the name leads with a letter. -/
theorem isIdentText_snakeCase (hs : HasNameChars s) :
    isIdentText (snakeCase s).toList = true ↔ leadsWithLetter s = true := by
  rw [isIdentText_iff (isNameChar_snakeCase hs), leadsWithLetter_iff hs, head?_snakeCase hs]
  cases h : lead? s with
  | none => simp
  | some c => simp [(isNameChar_toLower (lead?_cases hs h).1).2]

/-- A name in any case is never an underscore. -/
theorem ne_underscore {cased : String} {case : Char → Char}
    (hcase : ∀ c, isNameChar c = true → c ≠ '_' → case c ≠ '_') (hs : HasNameChars s)
    (hhead : cased.toList.head? = (lead? s).map case) : cased ≠ "_" := by
  rintro rfl
  obtain ⟨c, hlead, hc⟩ := Option.map_eq_some_iff.mp hhead.symm
  obtain ⟨hname, hne⟩ := lead?_cases hs hlead
  exact hcase c hname hne hc

/-- No snake case form is a lone underscore. -/
theorem snakeCase_ne_underscore (hs : HasNameChars s) : snakeCase s ≠ "_" :=
  ne_underscore (fun _ => forall_isNameChar (fun c => c ≠ '_' → c.toLower ≠ '_') (by decide)) hs
    (head?_snakeCase hs)

/-- No camel case form is a lone underscore. -/
theorem upperCamelCase_ne_underscore (hs : HasNameChars s) : upperCamelCase s ≠ "_" :=
  ne_underscore (fun _ => forall_isNameChar (fun c => c ≠ '_' → c.toUpper ≠ '_') (by decide)) hs
    (head?_upperCamelCase hs)

/-- How a name leads decides whether it can be a field or a method. -/
theorem decides_ofField (hs : HasNameChars s) :
    Decides (leadsWithLetter s = true) (fun _ => True) (Ident.ofField (snakeCase s)) := by
  have hletter (h : isIdentText (snakeCase s).toList = true) : True ↔ leadsWithLetter s = true :=
    (iff_true_intro ((isIdentText_snakeCase hs).mp h)).symm
  rw [Ident.ofField]
  split
  case isTrue hmem =>
    refine ((decides_make_of_isIdentText ?_).imp fun _ _ => trivial).congr (hletter ?_)
    -- only a few words are meant here, and both texts of each are identifiers
    all_goals
      revert hmem
      generalize snakeCase s = name
      simp only [Ident.unrawableFields, List.mem_cons, List.not_mem_nil, or_false]
      rintro (rfl | rfl | rfl | rfl) <;> decide
  case isFalse =>
    split
    case isTrue hkeyword =>
      refine (Decides.of_eq_ok rfl trivial).congr (hletter ?_)
      have hall : ∀ w ∈ keywords, isIdentText w.toList = true := by decide
      exact hall _ (isKeyword_iff.mp hkeyword)
    case isFalse =>
      exact ((decides_make _).imp fun _ _ => trivial).congr (isIdentText_snakeCase hs)

/-- The identifier of a field is raw, or it is the text, perhaps with an underscore. -/
theorem ofField_cases {ident : Ident} (h : Ident.ofField s = .ok ident) :
    ident.text = "r#" ++ s ∨
      isIdentText ident.text.toList = true ∧ (ident.text = s ∨ ident.text = s ++ "_") := by
  have hmake {text : String} (h : Ident.make text = .ok ident) :
      isIdentText ident.text.toList = true ∧ ident.text = text := by
    rw [Ident.make] at h
    split_ifs at h with htext
    obtain rfl := Except.ok.inj h
    exact ⟨htext, rfl⟩
  rw [Ident.ofField] at h
  split_ifs at h
  · exact .inr ((hmake h).imp_right .inr)
  · obtain rfl := Except.ok.inj h
    exact .inl rfl
  · exact .inr ((hmake h).imp_right .inl)

/-- No identifier holds a number sign. -/
theorem notMem_of_isIdentText {cs : List Char} (h : isIdentText cs = true) : '#' ∉ cs := by
  cases cs with
  | nil => simp
  | cons c cs =>
    rw [isIdentText, Bool.and_eq_true, List.all_eq_true] at h
    rw [List.mem_cons, not_or]
    constructor
    · rintro rfl
      exact absurd h.1 (by decide)
    · exact fun hmem => absurd (h.2 '#' hmem) (by decide)

/-- Texts in snake case that make one identifier are one text. -/
theorem snakeCase_eq_of_ofField {t : String} {ident : Ident}
    (hs : Ident.ofField (snakeCase s) = .ok ident) (ht : Ident.ofField (snakeCase t) = .ok ident) :
    snakeCase s = snakeCase t := by
  have hraw {a b : String} (h : ident.text = "r#" ++ a) :
      ¬(isIdentText ident.text.toList = true ∧ (ident.text = b ∨ ident.text = b ++ "_")) := by
    rintro ⟨hident, -⟩
    refine notMem_of_isIdentText hident ?_
    simp [h]
  -- no text in snake case ends in the underscore that escapes a reserved word
  have hescaped (a b : String) : snakeCase a ≠ b ++ "_" := by
    intro h
    refine getLast?_snakeCase a ?_
    simp [h]
  obtain hs | hs := ofField_cases hs <;> obtain ht | ht := ofField_cases ht
  · exact (String.append_right_inj _).mp (hs.symm.trans ht)
  · exact absurd ht (hraw hs)
  · exact absurd hs (hraw ht)
  · obtain ⟨-, hs | hs⟩ := hs <;> obtain ⟨-, ht | ht⟩ := ht
    · exact hs.symm.trans ht
    · exact absurd (hs.symm.trans ht) (hescaped s _)
    · exact absurd (ht.symm.trans hs) (hescaped t _)
    · exact (String.append_left_inj _).mp (hs.symm.trans ht)

end Names

end ProtoRest.Code
