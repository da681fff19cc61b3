import ProtoRest.Proofs.Text.CaseMaps
import ProtoRest.Proofs.Text.Pieces

/-! # Camel case of camel case
A text in camel case has lost the separators of its words, so when it is cut again only its capitals
say where words start (`StartsWord`). It is left as it is exactly when it has nothing but letters and
numbers and each of its capitals starts a word (`camel_texts_are_kept_iff`). A capital after a word
of one letter does not. -/

namespace ProtoRest.Text

open ProtoRest.Schema

/-! ## Where words start -/

/-- The case of the last letter with a case in a text. -/
def lastCase (cs : List Char) : WordMode := cs.foldl WordMode.next .fresh

/-- The case after one more character is the next one after that character. -/
@[simp] theorem lastCase_concat (cs : List Char) (c : Char) :
    lastCase (cs ++ [c]) = (lastCase cs).next c := by
  rw [lastCase, List.foldl_append]
  rfl

/-- Whether a character starts a word in a text of letters and numbers: it is a capital, and the last
letter before it is small, or that letter is a capital, too, and a small one comes next. -/
def StartsWord (before : List Char) (c : Char) (after : List Char) : Prop :=
  isUpper c = true ∧
    (lastCase before = .lower ∨ lastCase before = .upper ∧ after.head?.any isLower = true)

instance (before : List Char) (c : Char) (after : List Char) :
    Decidable (StartsWord before c after) :=
  inferInstanceAs (Decidable (isUpper c = true ∧
    (lastCase before = .lower ∨ lastCase before = .upper ∧ after.head?.any isLower = true)))

/-- Whether camel case keeps a character of a text of letters and numbers: the first one and those
that start a word are in upper case, the others in lower case. -/
def KeptAt (before : List Char) (c : Char) (after : List Char) : Prop :=
  if before = [] ∨ StartsWord before c after then toUpper c = [c] else toLower c = [c]

/-- Whether camel case keeps the rest of a text. -/
def KeptAfter (before : List Char) : List Char → Prop
  | [] => True
  | c :: after => KeptAt before c after ∧ KeptAfter (before ++ [c]) after

/-- A text is kept behind another exactly when each of its characters is kept where it stands. -/
theorem keptAfter_iff {before cs : List Char} :
    KeptAfter before cs ↔
      ∀ mid c after, cs = mid ++ c :: after → KeptAt (before ++ mid) c after := by
  induction cs generalizing before with
  | nil => simp [KeptAfter]
  | cons c cs ih =>
    rw [KeptAfter, ih]
    constructor
    · rintro ⟨hc, hcs⟩ mid d after h
      cases mid with
      | nil =>
        rw [List.nil_append, List.cons.injEq] at h
        obtain ⟨rfl, rfl⟩ := h
        rwa [List.append_nil]
      | cons e mid =>
        rw [List.cons_append, List.cons.injEq] at h
        obtain ⟨rfl, rfl⟩ := h
        simpa using hcs mid d after rfl
    · intro h
      refine ⟨by simpa using h [] c cs rfl, fun mid d after hcs => ?_⟩
      simpa using h (c :: mid) d after (by rw [hcs, List.cons_append])

/-! ## What is kept of a word -/

/-- A lower case that starts as its word is the word. -/
theorem lowerWord_append_eq_append {w r r' : List Char} :
    lowerWord w ++ r = w ++ r' ↔ (∀ c ∈ w, toLower c = [c]) ∧ r = r' := by
  fun_induction lowerWord w with
  | case1 => simp
  | case2 =>
    -- a capital sigma is kept neither at the end of a word nor before it
    have hsigma : toLower 'Σ' ≠ ['Σ'] := by decide +kernel
    simp [hsigma]
  | case3 c _ => rw [List.singleton_append, toLower_append_eq_cons, List.forall_mem_singleton]
  | case4 c cs _ ih =>
    rw [List.append_assoc, List.cons_append, toLower_append_eq_cons, ih, List.forall_mem_cons,
      and_assoc]

/-- A word with a capital that starts as the word is the word. -/
theorem capitalWord_append_eq_append {c : Char} {w r r' : List Char} :
    capitalWord (c :: w) ++ r = c :: w ++ r' ↔
      (toUpper c = [c] ∧ ∀ d ∈ w, toLower d = [d]) ∧ r = r' := by
  rw [capitalWord, List.append_assoc, List.cons_append, toUpper_append_eq_cons,
    lowerWord_append_eq_append, and_assoc]

/-- A word is its own capitalised form exactly when it begins with a capital form and goes on in
lower case. -/
theorem capitalWord_eq_iff {c : Char} {w : List Char} :
    capitalWord (c :: w) = c :: w ↔ toUpper c = [c] ∧ ∀ d ∈ w, toLower d = [d] := by
  have h : capitalWord (c :: w) ++ [] = c :: w ++ [] ↔ _ := capitalWord_append_eq_append
  simpa only [List.append_nil, and_true] using h

/-- One more character of a word is kept in upper case when it is the first, else in lower case. -/
theorem capitalWord_concat_eq_iff {word : List Char} {c : Char} :
    capitalWord (word ++ [c]) = word ++ [c] ↔
      capitalWord word = word ∧ if word = [] then toUpper c = [c] else toLower c = [c] := by
  cases word with
  | nil =>
    rw [List.nil_append, capitalWord_eq_iff]
    simp [capitalWord]
  | cons a w =>
    rw [List.cons_append, capitalWord_eq_iff, capitalWord_eq_iff, if_neg (List.cons_ne_nil a w),
      List.forall_mem_append, List.forall_mem_singleton, and_assoc]

/-- Words that start as the text they are cut from are the text. -/
theorem flatMap_capitalWord_append_eq_append (ws : List (List Char)) {r r' : List Char} :
    ws.flatMap capitalWord ++ r = ws.flatten ++ r' ↔ (∀ w ∈ ws, capitalWord w = w) ∧ r = r' := by
  induction ws with
  | nil => simp
  | cons w ws ih =>
    rw [List.flatMap_cons, List.flatten_cons, List.append_assoc, List.append_assoc,
      List.forall_mem_cons, and_assoc, ← ih]
    cases w with
    | nil => simp [capitalWord]
    | cons c w => rw [capitalWord_append_eq_append, capitalWord_eq_iff]

/-! ## Words of a text without separators -/

/-- Before a capital, a word that has not begun may follow a small letter. -/
theorem cutWords_fresh_of_isUpper {d : Char} (hd : isUpper d = true) (rest : List Char) :
    cutWords .fresh [] (d :: rest) = cutWords .lower [] (d :: rest) := by
  cases rest with
  | nil => rfl
  | cons e rest => simp [cutWords, WordMode.next, hd, isLower_eq_false_of_isUpper hd]

/-- Before a small letter, the last letter of the word may be a capital. -/
theorem cutWords_fresh_of_isLower {d : Char} (hd : isLower d = true) (word rest : List Char) :
    cutWords .fresh word (d :: rest) = cutWords .upper word (d :: rest) := by
  have hupper : isUpper d = false := by
    rw [Bool.eq_false_iff]
    intro h
    rw [isLower_eq_false_of_isUpper h] at hd
    cases hd
  cases rest with
  | nil => rfl
  | cons e rest => simp [cutWords, WordMode.next, hd, hupper]

/-- A character that is added to a word is kept as its place in the text demands. -/
theorem capitalWord_concat_eq_iff_keptAt {before word after : List Char} {c : Char}
    (hword : word = [] ↔ before = [] ∨ StartsWord before c after) :
    capitalWord (word ++ [c]) = word ++ [c] ↔ capitalWord word = word ∧ KeptAt before c after := by
  rw [capitalWord_concat_eq_iff, KeptAt]
  simp only [hword]

/-- The words of the rest of a text are kept exactly when its characters are. The word that is being
read is empty when the next character is the first, or a capital after a small letter. -/
theorem forall_mem_cutWords_iff {before word cs : List Char}
    (hword : ∀ c ∈ cs.head?,
      (word = [] ↔ before = [] ∨ isUpper c = true ∧ lastCase before = .lower)) :
    (∀ w ∈ cutWords (lastCase before) word cs, capitalWord w = w) ↔
      capitalWord word = word ∧ KeptAfter before cs := by
  induction cs generalizing before word with
  | nil =>
    rw [cutWords]
    split_ifs with h
    · simp [h, capitalWord, KeptAfter]
    · simp [KeptAfter]
  | cons c cs ih =>
    have hc := hword c rfl
    rw [KeptAfter]
    cases cs with
    | nil =>
      have hstarts : word = [] ↔ before = [] ∨ StartsWord before c [] := by
        simpa [StartsWord] using hc
      rw [cutWords, List.forall_mem_singleton, capitalWord_concat_eq_iff_keptAt hstarts]
      simp [KeptAfter]
    | cons d rest =>
      rw [cutWords, ← lastCase_concat]
      by_cases hafter : lastCase (before ++ [c]) = .lower ∧ isUpper d = true
      · -- the word ends with the character, since the next one is a capital
        have hstarts : word = [] ↔ before = [] ∨ StartsWord before c (d :: rest) := by
          simpa [StartsWord, isLower_eq_false_of_isUpper hafter.2] using hc
        have hrest := @ih (before ++ [c]) [] (by simp [hafter])
        rw [if_pos hafter, cutWords_fresh_of_isUpper hafter.2, ← hafter.1, List.forall_mem_cons,
          hrest, capitalWord_concat_eq_iff_keptAt hstarts, and_assoc]
        simp [capitalWord]
      rw [if_neg hafter]
      by_cases hlast : lastCase before = .upper ∧ isUpper c = true ∧ isLower d = true
      · -- the word ended before the character, since it is a capital before a small letter
        have hstarts : StartsWord before c (d :: rest) := ⟨hlast.2.1, .inr ⟨hlast.1, hlast.2.2⟩⟩
        have hmode : lastCase (before ++ [c]) = .upper := by
          rw [lastCase_concat, WordMode.next, isLower_eq_false_of_isUpper hlast.2.1, hlast.2.1]
          rfl
        have hrest := @ih (before ++ [c]) [c] (by simp [hmode])
        rw [if_pos hlast, cutWords_fresh_of_isLower hlast.2.2, ← hmode, List.forall_mem_cons, hrest,
          capitalWord_eq_iff, KeptAt, if_pos (.inr hstarts)]
        simp
      · -- the word goes on
        have hstarts : word = [] ↔ before = [] ∨ StartsWord before c (d :: rest) := by
          rw [hc, StartsWord]
          simp only [List.head?_cons, Option.any_some]
          tauto
        have hrest := @ih (before ++ [c]) (word ++ [c]) (by
          simp only [List.head?_cons, Option.mem_some_iff, forall_eq', List.append_eq_nil_iff,
            List.cons_ne_nil, and_false, false_or, false_iff]
          exact fun h => hafter h.symm)
        rw [if_neg hlast, hrest, capitalWord_concat_eq_iff_keptAt hstarts, and_assoc]

/-! ## Words of any text -/

/-- Words in camel case start with the upper case of a letter or a number. -/
theorem exists_of_mem_head? (cs : List Char) {d : Char}
    (h : d ∈ ((identifierWords cs).flatMap capitalWord).head?) :
    ∃ c ds, isAlphanumeric c = true ∧ toUpper c = d :: ds := by
  cases hwords : identifierWords cs with
  | nil => simp [hwords] at h
  | cons w ws =>
    have hw : w ∈ identifierWords cs := by simp [hwords]
    obtain ⟨c, w, rfl⟩ := List.exists_cons_of_ne_nil (ne_nil_of_mem_identifierWords hw)
    obtain ⟨e, ds, he⟩ := List.exists_cons_of_ne_nil (toUpper_ne_nil c)
    rw [hwords, List.flatMap_cons, capitalWord, he] at h
    obtain rfl : e = d := by simpa using h
    exact ⟨c, ds, (mem_of_mem_identifierWords hw List.mem_cons_self).2, he⟩

/-- A text with a separator is not in camel case: up to the separator the words would be the text,
and the next word would have to start with it. -/
theorem isAlphanumeric_of_flatMap_capitalWord {cs : List Char}
    (h : (identifierWords cs).flatMap capitalWord = cs) : ∀ c ∈ cs, isAlphanumeric c = true := by
  cases hfind : cs.find? (!isAlphanumeric ·) with
  | none => simpa using hfind
  | some x =>
    obtain ⟨hx, before, rest, rfl, hbefore⟩ := List.find?_eq_some_iff_append.mp hfind
    have hwords : identifierWords (before ++ x :: rest) =
        cutWords .fresh [] before ++ identifierWords rest := by
      rw [identifierWords, splitWhere_append_cons (by simpa using hbefore) hx, List.flatMap_cons]
      rfl
    have hflatten : (cutWords .fresh [] before).flatten = before := flatten_cutWords .fresh [] before
    have hrest : (identifierWords rest).flatMap capitalWord = x :: rest := by
      refine ((flatMap_capitalWord_append_eq_append (cutWords .fresh [] before)).mp ?_).2
      rw [hflatten, ← List.flatMap_append, ← hwords, h]
    obtain ⟨c, ds, hc, hupper⟩ := exists_of_mem_head? rest (d := x) (by rw [hrest]; rfl)
    rw [isAlphanumeric_head hc hupper] at hx
    cases hx

/-- What camel case leaves as it is. -/
theorem flatMap_capitalWord_eq_iff {cs : List Char} :
    (identifierWords cs).flatMap capitalWord = cs ↔
      (∀ c ∈ cs, isAlphanumeric c = true) ∧ KeptAfter [] cs := by
  have hkept : (∀ c ∈ cs, isAlphanumeric c = true) →
      ((identifierWords cs).flatMap capitalWord = cs ↔ KeptAfter [] cs) := by
    intro hcs
    -- an alphanumeric text is cut at changes of case only
    have hwords : identifierWords cs = cutWords (lastCase []) [] cs := by
      rw [identifierWords, splitWhere_of_forall (by simpa using hcs)]
      exact List.append_nil _
    have hcut := @forall_mem_cutWords_iff [] [] cs (by simp)
    have hflatten : (identifierWords cs).flatMap capitalWord ++ [] =
        (identifierWords cs).flatten ++ [] ↔ _ := flatMap_capitalWord_append_eq_append _
    rw [hwords, flatten_cutWords, hcut] at hflatten
    rw [hwords]
    simpa [capitalWord] using hflatten
  constructor
  · intro h
    have hcs := isAlphanumeric_of_flatMap_capitalWord h
    exact ⟨hcs, (hkept hcs).mp h⟩
  · rintro ⟨hcs, h⟩
    exact (hkept hcs).mpr h

/-- A text is its own camel case form exactly when it is alphanumeric and each character is kept
where it stands. -/
theorem upperCamelCase_eq_self_iff {t : String} :
    upperCamelCase t = t ↔ (∀ c ∈ t.toList, isAlphanumeric c = true) ∧ KeptAfter [] t.toList := by
  rw [← flatMap_capitalWord_eq_iff, ← String.toList_inj, upperCamelCase, String.toList_ofList]

/-! ## Camel case twice -/

/-- A text in camel case keeps its capitals when it is put into camel case again exactly when it has
nothing but letters and numbers and every character after the first that is not its own lower case
starts a word. -/
theorem camel_texts_are_kept_iff (s : String) :
    upperCamelCase (upperCamelCase s) = upperCamelCase s ↔
      (∀ c ∈ (upperCamelCase s).toList, isAlphanumeric c = true) ∧
        ∀ before c after, (upperCamelCase s).toList = before ++ c :: after →
          before ≠ [] → toLower c ≠ [c] → StartsWord before c after := by
  rw [upperCamelCase_eq_self_iff, keptAfter_iff, and_congr_right_iff]
  intro _
  simp only [List.nil_append, KeptAt]
  refine forall_congr' fun before => forall_congr' fun c => forall_congr' fun after =>
    forall_congr' fun hsplit => ?_
  constructor
  · intro h hbefore hlower
    by_contra hstarts
    rw [if_neg (by simp [hbefore, hstarts])] at h
    exact hlower h
  · intro h
    split_ifs with hfirst
    · -- at the front stands the capital form of some character, and capital forms stay as they are
      obtain rfl | hstarts := hfirst
      · rw [upperCamelCase, String.toList_ofList, List.nil_append] at hsplit
        obtain ⟨_, _, -, hupper⟩ := exists_of_mem_head? s.toList (d := c)
          (by rw [hsplit]; rfl)
        exact toUpper_head hupper
      · exact toUpper_of_isUpper hstarts.1
    · rw [not_or] at hfirst
      by_contra hlower
      exact hfirst.2 (h hfirst.1 hlower)

/-- A text in camel case is not always kept: after a word of one letter the next capital does not
start a word. -/
theorem camel_texts_can_change :
    ¬ ∀ s, upperCamelCase (upperCamelCase s) = upperCamelCase s := by
  intro h
  have hchanged : upperCamelCase (upperCamelCase "A_B") ≠ upperCamelCase "A_B" := by
    decide +kernel
  exact hchanged (h "A_B")

end ProtoRest.Text
