import Mathlib.Data.List.Basic
import Mathlib.Data.List.Find
import ProtoRest.Schema.Name
import ProtoRest.Text.IdentifierChars
import ProtoRest.Text.Words

/-! # Words of names
The words of a text are never empty and together hold its letters and numbers in order
(`flatten_identifierWords`). Names are written in ASCII, so in every case a name keeps to the
characters of names, and its first character that is not an underscore leads it (`head?_snakeCase`,
`head?_upperCamelCase`). -/

namespace ProtoRest.Text

open ProtoRest.Schema

/-! ## Words of any text -/

/-- The pieces of a text are the text without the characters between them. -/
theorem flatten_splitWhere (p : Char → Bool) (cs : List Char) :
    (splitWhere p cs).flatten = cs.filter (! p ·) := by
  induction cs with
  | nil => rfl
  | cons c cs ih =>
    rw [splitWhere]
    cases hp : p c with
    | true =>
      rw [if_pos rfl, List.flatten_cons, List.nil_append, ih, List.filter_cons_of_neg (by simp [hp])]
    | false =>
      rw [if_neg (by simp), List.filter_cons_of_pos (by simp [hp]), ← ih]
      cases hsplit : splitWhere p cs with
      | nil => exact absurd hsplit (splitWhere_ne_nil p cs)
      | cons piece pieces => rfl

/-- The words that are cut from a text are the text again. -/
theorem flatten_cutWords (m : WordMode) (word cs : List Char) :
    (cutWords m word cs).flatten = word ++ cs := by
  fun_induction cutWords m word cs with
  | case1 => rfl
  | case2 m word hword => simp
  | case3 m word c => simp
  | case4 m word c d rest _ ih => simp [ih]
  | case5 m word c d rest _ _ ih => simp [ih]
  | case6 m word c d rest _ _ ih => simp [ih]

/-- Words are not empty. The word that is being read is not empty either when one of its letters had
a case. -/
theorem ne_nil_of_mem_cutWords {m : WordMode} {word cs : List Char} (hm : m ≠ .fresh → word ≠ [])
    {w : List Char} (hw : w ∈ cutWords m word cs) : w ≠ [] := by
  -- a word ends before a capital only after a letter with a case, which `hm` has put into it
  fun_induction cutWords m word cs with
  | case1 => cases hw
  | case2 m word hword =>
    rw [List.mem_singleton] at hw
    rw [hw]
    exact hword
  | case3 m word c =>
    rw [List.mem_singleton] at hw
    simp [hw]
  | case4 m word c d rest _ ih =>
    obtain rfl | hw := List.mem_cons.mp hw
    · simp
    · exact ih (fun h => absurd rfl h) hw
  | case5 m word c d rest _ hupper ih =>
    obtain rfl | hw := List.mem_cons.mp hw
    · exact hm (by simp [hupper.1])
    · exact ih (fun _ => List.cons_ne_nil c []) hw
  | case6 m word c d rest _ _ ih => exact ih (fun _ => by simp) hw

/-- The words of a text hold its letters and numbers in order. -/
theorem flatten_identifierWords (cs : List Char) :
    (identifierWords cs).flatten = cs.filter isAlphanumeric := by
  have hpieces : ∀ pieces : List (List Char),
      (pieces.flatMap (cutWords .fresh [])).flatten = pieces.flatten := by
    intro pieces
    induction pieces with
    | nil => rfl
    | cons piece pieces ih =>
      rw [List.flatMap_cons, List.flatten_append, ih, flatten_cutWords, List.flatten_cons,
        List.nil_append]
  rw [identifierWords, hpieces, flatten_splitWhere]
  simp only [Bool.not_not]

/-- No word is empty. -/
theorem ne_nil_of_mem_identifierWords {cs w : List Char} (hw : w ∈ identifierWords cs) : w ≠ [] := by
  rw [identifierWords, List.mem_flatMap] at hw
  obtain ⟨piece, -, hw⟩ := hw
  exact ne_nil_of_mem_cutWords (fun h => absurd rfl h) hw

/-- Words are made of the letters and digits of the text. -/
theorem mem_of_mem_identifierWords {cs w : List Char} (hw : w ∈ identifierWords cs) {c : Char}
    (hc : c ∈ w) : c ∈ cs ∧ isAlphanumeric c = true := by
  have hmem : c ∈ (identifierWords cs).flatten := List.mem_flatten_of_mem hw hc
  rw [flatten_identifierWords] at hmem
  exact List.mem_filter.mp hmem

/-- A text without letters and numbers has no words. -/
theorem identifierWords_eq_nil {cs : List Char} (h : cs.find? isAlphanumeric = none) :
    identifierWords cs = [] := by
  rw [List.eq_nil_iff_forall_not_mem]
  intro w hw
  obtain ⟨c, w', rfl⟩ := List.exists_cons_of_ne_nil (ne_nil_of_mem_identifierWords hw)
  obtain ⟨hc, halnum⟩ := mem_of_mem_identifierWords hw List.mem_cons_self
  exact List.find?_eq_none.mp h c hc halnum

/-- The first letter or number of a text leads its first word. -/
theorem identifierWords_eq_cons {cs : List Char} {c : Char}
    (h : cs.find? isAlphanumeric = some c) :
    ∃ rest words, identifierWords cs = (c :: rest) :: words := by
  have hflatten := flatten_identifierWords cs
  have hhead : (cs.filter isAlphanumeric).head? = some c := by
    rw [List.head?_filter, h]
  cases hwords : identifierWords cs with
  | nil =>
    rw [hwords, List.flatten_nil] at hflatten
    rw [← hflatten] at hhead
    cases hhead
  | cons w words =>
    have hmem : w ∈ identifierWords cs := by
      rw [hwords]
      exact List.mem_cons_self
    obtain ⟨a, rest, rfl⟩ := List.exists_cons_of_ne_nil (ne_nil_of_mem_identifierWords hmem)
    rw [hwords, List.flatten_cons, List.cons_append] at hflatten
    rw [← hflatten, List.head?_cons, Option.some.injEq] at hhead
    exact ⟨rest, words, by rw [hhead]⟩

/-! ## Lower case -/

/-- What lies outside the capitals is none. -/
theorem isUpper_eq_false {c : Char} (h : c.toNat < 65 ∨ 90 < c.toNat) : c.isUpper = false := by
  rw [Bool.eq_false_iff]
  unfold Char.isUpper
  simp only [ge_iff_le, decide_eq_true_eq, UInt32.le_iff_toNat_le, ne_eq]
  have hA : 'A'.val.toNat = 65 := rfl
  have hZ : 'Z'.val.toNat = 90 := rfl
  rw [Char.toNat] at h
  omega

/-- The characters beyond ASCII that have a lower case have it above the underscore. -/
theorem lowerShifts_bounds :
    ∀ s ∈ lowerShifts, s.run.last < 128 ∨ 95 < (s.run.first : Int) + s.distance := by
  have h : (lowerShifts.all fun s =>
      decide (s.run.last < 128 ∨ 95 < (s.run.first : Int) + s.distance)) = true := by
    decide +kernel
  simpa using List.all_eq_true.mp h

/-- No character has an empty lower case, or one with a capital or an underscore in it. -/
theorem lowerExpansions_bounds : ∀ e ∈ lowerExpansions, e.2 ≠ [] ∧ ∀ n ∈ e.2, 95 < n := by decide

/-- A number behind the underscore is the code of a character behind it, or of none. -/
theorem lt_toNat_ofNat {n : Nat} (h : 95 < n) :
    (Char.ofNat n).toNat = 0 ∨ 95 < (Char.ofNat n).toNat := by
  by_cases hvalid : n.isValidChar
  · rw [Char.ofNat, dif_pos hvalid]
    exact .inr h
  · rw [Char.ofNat, dif_neg hvalid]
    exact .inl rfl

/-- Every character has a lower case. -/
theorem toLower_ne_nil (c : Char) : toLower c ≠ [] := by
  rw [toLower]
  split_ifs
  · simp
  · rw [mapCase]
    split
    · next ns hns =>
      obtain ⟨_, _, hmem, -⟩ := List.lookup_eq_some_iff.mp hns
      simpa using (lowerExpansions_bounds (c.toNat, ns) (by simp [hmem])).1
    · split <;> simp

/-- The lower case of a character beyond ASCII is above the underscore. -/
theorem lt_of_mem_toLower {c d : Char} (hc : ¬c.toNat < 128) (h : d ∈ toLower c) :
    d.toNat = 0 ∨ 95 < d.toNat := by
  rw [toLower, if_neg hc, mapCase] at h
  split at h
  · -- the tables are checked once, for all their entries
    next ns hns =>
    obtain ⟨n, hn, rfl⟩ := List.mem_map.mp h
    obtain ⟨_, _, hmem, -⟩ := List.lookup_eq_some_iff.mp hns
    exact lt_toNat_ofNat ((lowerExpansions_bounds (c.toNat, ns) (by simp [hmem])).2 n hn)
  · split at h
    · next s hs =>
      rw [List.mem_singleton.mp h]
      have hmem := List.find?_some hs
      have hbound := lowerShifts_bounds s (List.mem_of_find?_eq_some hs)
      simp only [Run.mem, Bool.and_eq_true, decide_eq_true_eq] at hmem
      exact lt_toNat_ofNat (by omega)
    · rw [List.mem_singleton.mp h]
      exact .inr (by omega)

/-- What holds of the lower case of ASCII, and above the underscore, holds of every lower case. -/
theorem forall_mem_toLower (P : Char → Prop) {c : Char}
    (hascii : c.toNat < 128 → P c.toLower) (habove : ∀ d : Char, d.toNat = 0 ∨ 95 < d.toNat → P d) :
    ∀ d ∈ toLower c, P d := by
  intro d hd
  by_cases hc : c.toNat < 128
  · rw [toLower, if_pos hc] at hd
    rw [List.mem_singleton.mp hd]
    exact hascii hc
  · exact habove d (lt_of_mem_toLower hc hd)

/-- A lower case has no capital of ASCII. -/
theorem isUpper_of_mem_toLower {c d : Char} (h : d ∈ toLower c) : d.isUpper = false := by
  refine forall_mem_toLower (fun d => d.isUpper = false) (fun hc => ?_)
    (fun d hd => isUpper_eq_false (by omega)) d h
  have hall : ∀ n < 128, (Char.ofNat n).toLower.isUpper = false := by decide
  have hlower := hall c.toNat hc
  rwa [Char.ofNat_toNat] at hlower

/-- The lower case of a letter or a number has no underscore. -/
theorem ne_underscore_of_mem_toLower {c d : Char} (hc : isAlphanumeric c = true)
    (h : d ∈ toLower c) : d ≠ '_' := by
  refine forall_mem_toLower (fun d => d ≠ '_') (fun hascii => ?_) (fun d hd => ?_) d h
  · have hall : ∀ n < 128, (Char.ofNat n).isAlphanum = true → (Char.ofNat n).toLower ≠ '_' := by
      decide
    have hlower := hall c.toNat hascii
    rw [Char.ofNat_toNat] at hlower
    exact hlower (by rwa [isAlphanumeric, if_pos hascii] at hc)
  · rintro rfl
    exact absurd hd (by decide)

/-- A joined text is made of its parts and the separator. -/
theorem mem_joinWith {sep : List Char} {texts : List (List Char)} {c : Char}
    (h : c ∈ joinWith sep texts) : c ∈ sep ∨ ∃ t ∈ texts, c ∈ t := by
  fun_induction joinWith sep texts with
  | case1 => cases h
  | case2 t => exact .inr ⟨t, List.mem_cons_self, h⟩
  | case3 t ts _ ih =>
    rw [List.append_assoc, List.mem_append, List.mem_append] at h
    obtain h | h | h := h
    · exact .inr ⟨t, List.mem_cons_self, h⟩
    · exact .inl h
    · obtain h | ⟨u, hu, hc⟩ := ih h
      · exact .inl h
      · exact .inr ⟨u, List.mem_cons_of_mem t hu, hc⟩

/-- Texts that are joined end as the last of them. -/
theorem getLast?_joinWith {sep : List Char} {texts : List (List Char)} (h : ∀ t ∈ texts, t ≠ []) :
    (joinWith sep texts).getLast? = texts.getLast?.bind List.getLast? := by
  induction texts with
  | nil => rfl
  | cons t texts ih =>
    rw [List.forall_mem_cons] at h
    cases texts with
    | nil => rfl
    | cons u texts =>
      have hne : joinWith sep (u :: texts) ≠ [] := by
        have hu := h.2 u List.mem_cons_self
        cases texts with
        | nil => exact hu
        | cons => simp [hu]
      rw [joinWith_cons_cons, List.getLast?_append_of_ne_nil _ hne, ih h.2,
        List.getLast?_cons_cons]

/-- What holds of the lower case of each character, and of a final sigma, holds of a word. -/
theorem forall_mem_lowerWord (P : Char → Prop) {w : List Char} (hsigma : P 'ς')
    (h : ∀ c ∈ w, ∀ d ∈ toLower c, P d) : ∀ d ∈ lowerWord w, P d := by
  fun_induction lowerWord w with
  | case1 => simp
  | case2 => simpa using hsigma
  | case3 c _ => exact h c List.mem_cons_self
  | case4 c cs _ ih =>
    rw [List.forall_mem_cons] at h
    exact List.forall_mem_append.mpr ⟨h.1, ih h.2⟩

/-- A word in lower case is not empty. -/
theorem lowerWord_ne_nil {w : List Char} (hw : w ≠ []) : lowerWord w ≠ [] := by
  fun_cases lowerWord w with
  | case1 => exact absurd rfl hw
  | case2 => simp
  | case3 c _ => exact toLower_ne_nil c
  | case4 c cs _ => simp [toLower_ne_nil c]

/-- A text in snake case has no capital of ASCII. -/
theorem isUpper_of_mem_snakeCase {s : String} {d : Char} (h : d ∈ (snakeCase s).toList) :
    d.isUpper = false := by
  rw [snakeCase, String.toList_ofList] at h
  obtain h | ⟨t, ht, h⟩ := mem_joinWith h
  · rw [List.mem_singleton.mp h]
    rfl
  · obtain ⟨w, -, rfl⟩ := List.mem_map.mp ht
    exact forall_mem_lowerWord (fun d => d.isUpper = false) rfl
      (fun _ _ _ => isUpper_of_mem_toLower) d h

/-- A text in snake case does not end in an underscore. -/
theorem getLast?_snakeCase (s : String) : (snakeCase s).toList.getLast? ≠ some '_' := by
  rw [snakeCase, String.toList_ofList, getLast?_joinWith]
  · rw [ne_eq, Option.bind_eq_some_iff]
    rintro ⟨t, ht, hlast⟩
    obtain ⟨w, hw, rfl⟩ := List.mem_map.mp (List.mem_of_getLast? ht)
    have hword : ∀ c ∈ w, ∀ d ∈ toLower c, d ≠ '_' := fun c hc d hd =>
      ne_underscore_of_mem_toLower (mem_of_mem_identifierWords hw hc).2 hd
    exact forall_mem_lowerWord (fun d => d ≠ '_') (by decide) hword '_'
      (List.mem_of_getLast? hlast) rfl
  · intro t ht
    obtain ⟨w, hw, rfl⟩ := List.mem_map.mp ht
    exact lowerWord_ne_nil (ne_nil_of_mem_identifierWords hw)

/-! ## Characters of names -/

/-- The characters of names are those of ASCII. -/
theorem lt_of_isNameChar {c : Char} (h : isNameChar c = true) : c.toNat < 128 := by
  refine Nat.lt_of_not_le fun hle => ?_
  have hA : 'A'.val.toNat = 65 := rfl
  have hZ : 'Z'.val.toNat = 90 := rfl
  have ha : 'a'.val.toNat = 97 := rfl
  have hz : 'z'.val.toNat = 122 := rfl
  have h0 : '0'.val.toNat = 48 := rfl
  have h9 : '9'.val.toNat = 57 := rfl
  have hc : c ≠ '_' := by
    rintro rfl
    exact absurd hle (by decide)
  unfold isNameChar Char.isAlphanum Char.isAlpha Char.isUpper Char.isLower Char.isDigit at h
  simp only [Bool.or_eq_true, Bool.and_eq_true, decide_eq_true_eq, beq_iff_eq, ge_iff_le,
    UInt32.le_iff_toNat_le, hc, or_false] at h
  rw [Char.toNat] at hle
  omega

/-- What holds for the name characters among the first 128 holds for all of them. -/
theorem forall_isNameChar (P : Char → Prop)
    (h : ∀ n < 128, isNameChar (Char.ofNat n) = true → P (Char.ofNat n)) {c : Char}
    (hc : isNameChar c = true) : P c := by
  have hofNat : Char.ofNat c.toNat = c := Char.ofNat_toNat c
  have h := h c.toNat (lt_of_isNameChar hc)
  rw [hofNat] at h
  exact h hc

section Characters

variable {c : Char} (hc : isNameChar c = true)

include hc

/-- Of the characters of names only the underscore parts words. -/
theorem isAlphanumeric_of_isNameChar : isAlphanumeric c = (c != '_') :=
  forall_isNameChar (fun c => isAlphanumeric c = (c != '_')) (by decide) hc

/-- The lower case of a character of names is that of ASCII. -/
theorem toLower_of_isNameChar : toLower c = [c.toLower] := if_pos (lt_of_isNameChar hc)

/-- The upper case of a character of names is that of ASCII. -/
theorem toUpper_of_isNameChar : toUpper c = [c.toUpper] := if_pos (lt_of_isNameChar hc)

/-- The lower case of a character of names is one again, and a digit only if it was. -/
theorem isNameChar_toLower : isNameChar c.toLower = true ∧ c.toLower.isDigit = c.isDigit :=
  forall_isNameChar (fun c => isNameChar c.toLower = true ∧ c.toLower.isDigit = c.isDigit)
    (by decide) hc

/-- The upper case of a character of names is one again, and a digit only if it was. -/
theorem isNameChar_toUpper : isNameChar c.toUpper = true ∧ c.toUpper.isDigit = c.isDigit :=
  forall_isNameChar (fun c => isNameChar c.toUpper = true ∧ c.toUpper.isDigit = c.isDigit)
    (by decide) hc

/-- Of the characters of names all but digits can start an identifier. -/
theorem isIdentifierStart_of_isNameChar : isIdentifierStart c = !c.isDigit :=
  forall_isNameChar (fun c => isIdentifierStart c = !c.isDigit) (by decide) hc

/-- The characters of names can all go on with an identifier. -/
theorem isIdentifierContinue_of_isNameChar : isIdentifierContinue c = true :=
  forall_isNameChar (fun c => isIdentifierContinue c = true) (by decide) hc

end Characters

/-! ## Cases of names -/

/-- A word of a name is put in lower case character by character. -/
theorem lowerWord_of_isNameChar {w : List Char} (hw : ∀ c ∈ w, isNameChar c = true) :
    lowerWord w = w.map Char.toLower := by
  fun_induction lowerWord w with
  | case1 => rfl
  | case2 => exact absurd (hw 'Σ' List.mem_cons_self) (by decide)
  | case3 c _ => exact toLower_of_isNameChar (hw c List.mem_cons_self)
  | case4 c cs _ ih =>
    rw [toLower_of_isNameChar (hw c List.mem_cons_self),
      ih fun d hd => hw d (List.mem_cons_of_mem c hd)]
    rfl

/-- A word of a name is put in upper case character by character. -/
theorem upperWord_of_isNameChar {w : List Char} (hw : ∀ c ∈ w, isNameChar c = true) :
    upperWord w = w.map Char.toUpper := by
  induction w with
  | nil => rfl
  | cons c w ih =>
    rw [upperWord, List.flatMap_cons, toUpper_of_isNameChar (hw c List.mem_cons_self),
      ← upperWord, ih fun d hd => hw d (List.mem_cons_of_mem c hd)]
    rfl

/-- A word of a name gets a capital, and lower case behind it. -/
theorem capitalWord_of_isNameChar {c : Char} {w : List Char}
    (hw : ∀ d ∈ c :: w, isNameChar d = true) :
    capitalWord (c :: w) = c.toUpper :: w.map Char.toLower := by
  rw [capitalWord, toUpper_of_isNameChar (hw c List.mem_cons_self),
    lowerWord_of_isNameChar fun d hd => hw d (List.mem_cons_of_mem c hd)]
  rfl

/-! ### Characters of words -/

section Words

variable {w : List Char} (hw : ∀ c ∈ w, isNameChar c = true)

include hw

/-- A word of a name in lower case is made of the characters of names. -/
theorem isNameChar_lowerWord : ∀ c ∈ lowerWord w, isNameChar c = true := by
  rw [lowerWord_of_isNameChar hw, List.forall_mem_map]
  exact fun c hc => (isNameChar_toLower (hw c hc)).1

/-- A word of a name in upper case is made of the characters of names. -/
theorem isNameChar_upperWord : ∀ c ∈ upperWord w, isNameChar c = true := by
  rw [upperWord_of_isNameChar hw, List.forall_mem_map]
  exact fun c hc => (isNameChar_toUpper (hw c hc)).1

/-- A word of a name with a capital is made of the characters of names. -/
theorem isNameChar_capitalWord (hne : w ≠ []) : ∀ c ∈ capitalWord w, isNameChar c = true := by
  obtain ⟨d, w, rfl⟩ := List.exists_cons_of_ne_nil hne
  rw [capitalWord_of_isNameChar hw, List.forall_mem_cons, List.forall_mem_map]
  rw [List.forall_mem_cons] at hw
  exact ⟨(isNameChar_toUpper hw.1).1, fun c hc => (isNameChar_toLower (hw.2 c hc)).1⟩

end Words

section Cases

variable {s : String} (hs : ∀ c ∈ s.toList, isNameChar c = true)

include hs

/-- The words of a name are made of the characters of names. -/
theorem isNameChar_of_mem_words {w : List Char} (hw : w ∈ identifierWords s.toList) :
    ∀ c ∈ w, isNameChar c = true :=
  fun c hc => hs c (mem_of_mem_identifierWords hw hc).1

/-- The first character of the first word of a name is its lead. -/
theorem find?_isAlphanumeric : s.toList.find? isAlphanumeric = lead? s := by
  rw [lead?]
  exact List.find?_congr fun c hc => isAlphanumeric_of_isNameChar (hs c hc)

/-- Words that are changed to names are joined to a name. -/
theorem isNameChar_joinWith_words {f : List Char → List Char}
    (hf : ∀ {w : List Char}, (∀ c ∈ w, isNameChar c = true) → ∀ c ∈ f w, isNameChar c = true) :
    ∀ c ∈ joinWith ['_'] ((identifierWords s.toList).map f), isNameChar c = true := by
  intro c hc
  obtain hc | ⟨t, ht, hc⟩ := mem_joinWith hc
  · rw [List.mem_singleton.mp hc]
    rfl
  · obtain ⟨w, hw, rfl⟩ := List.mem_map.mp ht
    exact hf (isNameChar_of_mem_words hs hw) c hc

/-- A name in snake case is made of the characters of names. -/
theorem isNameChar_snakeCase : ∀ c ∈ (snakeCase s).toList, isNameChar c = true := by
  rw [snakeCase, String.toList_ofList]
  exact isNameChar_joinWith_words hs isNameChar_lowerWord

/-- A name in capitals is made of the characters of names. -/
theorem isNameChar_shoutyCase : ∀ c ∈ (shoutyCase s).toList, isNameChar c = true := by
  rw [shoutyCase, String.toList_ofList]
  exact isNameChar_joinWith_words hs isNameChar_upperWord

/-- A name in camel case is made of the characters of names. -/
theorem isNameChar_upperCamelCase : ∀ c ∈ (upperCamelCase s).toList, isNameChar c = true := by
  intro c hc
  rw [upperCamelCase, String.toList_ofList] at hc
  obtain ⟨w, hw, hc⟩ := List.mem_flatMap.mp hc
  exact isNameChar_capitalWord (isNameChar_of_mem_words hs hw) (ne_nil_of_mem_identifierWords hw) c hc

/-- The first word of a name starts with its first character that is not an underscore. -/
theorem exists_first_word {a : Char} (hlead : lead? s = some a) :
    ∃ rest words, identifierWords s.toList = (a :: rest) :: words ∧
      ∀ c ∈ a :: rest, isNameChar c = true := by
  obtain ⟨rest, words, hwords⟩ := identifierWords_eq_cons ((find?_isAlphanumeric hs).trans hlead)
  refine ⟨rest, words, hwords, isNameChar_of_mem_words hs ?_⟩
  rw [hwords]
  exact List.mem_cons_self

/-- A name in lower case starts with its first character that is not an underscore. -/
theorem head?_snakeCase : (snakeCase s).toList.head? = (lead? s).map Char.toLower := by
  rw [snakeCase, String.toList_ofList]
  cases hlead : lead? s with
  | none => rw [identifierWords_eq_nil ((find?_isAlphanumeric hs).trans hlead)]; rfl
  | some a =>
    obtain ⟨rest, words, hwords, hword⟩ := exists_first_word hs hlead
    rw [hwords, List.map_cons, lowerWord_of_isNameChar hword]
    cases words <;> rfl

/-- A name with capitals starts with its first character that is not an underscore. -/
theorem head?_upperCamelCase : (upperCamelCase s).toList.head? = (lead? s).map Char.toUpper := by
  rw [upperCamelCase, String.toList_ofList]
  cases hlead : lead? s with
  | none => rw [identifierWords_eq_nil ((find?_isAlphanumeric hs).trans hlead)]; rfl
  | some a =>
    obtain ⟨rest, words, hwords, hword⟩ := exists_first_word hs hlead
    rw [hwords, List.flatMap_cons, capitalWord_of_isNameChar hword]
    rfl

end Cases

end ProtoRest.Text
