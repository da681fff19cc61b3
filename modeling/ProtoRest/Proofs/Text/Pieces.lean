import Mathlib.Data.List.TakeWhile
import Mathlib.Tactic.SplitIfs
import ProtoRest.Proofs.Related
import ProtoRest.Proofs.Text.Words

/-! # Pieces of texts
What trimming and splitting do to a text: a text without blanks is trimmed already
(`trim_eq_self`), trimming makes texts trimmed (`isTrimmed_trim`) and does not see the blanks before
them (`trim_blanks_append`), what is joined with a separator is split at it again
(`splitAt_joinWith`), and the first separator of a text is found (`splitOnce_eq_some_iff`). Blanks
divide the words of a text (`words_append_cons`), so that a text on one line has the words of its lines
(`words_flatten`). -/

namespace ProtoRest.Text

/-! ## Trimming -/

/-- A character that is dropped from the front is of the class. -/
theorem mem_dropWhile_or {p : Char → Bool} {cs : List Char} {c : Char} (h : c ∈ cs) :
    c ∈ cs.dropWhile p ∨ p c = true := by
  rw [← List.takeWhile_append_dropWhile (p := p) (l := cs), List.mem_append] at h
  exact h.symm.imp_right List.mem_takeWhile_imp

/-- Trimming adds no character. -/
theorem mem_of_mem_trim {cs : List Char} {c : Char} (h : c ∈ trim cs) : c ∈ cs := by
  rw [trim, trimEnd, dropEndWhile, List.mem_reverse] at h
  exact (List.dropWhile_sublist _).mem (List.mem_reverse.mp ((List.dropWhile_sublist _).mem h))

/-- Trimming leaves out blanks only. -/
theorem mem_trim_or_isBlank {cs : List Char} {c : Char} (h : c ∈ cs) :
    c ∈ trim cs ∨ isBlank c = true := by
  obtain h | h := mem_dropWhile_or (p := isBlank) h
  · rw [trim, trimEnd, dropEndWhile, List.mem_reverse]
    exact mem_dropWhile_or (List.mem_reverse.mpr h)
  · exact .inr h

/-- Trimming leaves out blanks at both ends. -/
theorem exists_trim (cs : List Char) :
    ∃ front back, cs = front ++ trim cs ++ back ∧ (∀ c ∈ front, isBlank c = true) ∧
      ∀ c ∈ back, isBlank c = true := by
  refine ⟨cs.takeWhile isBlank, ((trimStart cs).reverse.takeWhile isBlank).reverse, ?_,
    fun c => List.mem_takeWhile_imp, fun c hc => List.mem_takeWhile_imp (List.mem_reverse.mp hc)⟩
  have hend : trimStart cs = trim cs ++ ((trimStart cs).reverse.takeWhile isBlank).reverse := by
    rw [trim, trimEnd, dropEndWhile, ← List.reverse_append, List.takeWhile_append_dropWhile,
      List.reverse_reverse]
  rw [List.append_assoc, ← hend, trimStart, List.takeWhile_append_dropWhile]

/-- Where no character is of the class, nothing is dropped. -/
theorem dropWhile_eq_self {p : Char → Bool} {cs : List Char} (h : ∀ c ∈ cs, p c = false) :
    cs.dropWhile p = cs := by
  cases cs with
  | nil => rfl
  | cons c cs => rw [List.dropWhile_cons_of_neg (by simp [h c])]

/-- A text without blanks stays as it is. -/
theorem trim_eq_self {cs : List Char} (h : ∀ c ∈ cs, isBlank c = false) : trim cs = cs := by
  rw [trim, trimStart, dropWhile_eq_self h, trimEnd, dropEndWhile, dropWhile_eq_self,
    List.reverse_reverse]
  exact fun c hc => h c (List.mem_reverse.mp hc)

/-- Where the first character is not of the class, nothing is dropped. -/
theorem dropWhile_of_head? {p : Char → Bool} {cs : List Char} (h : ∀ c ∈ cs.head?, p c = false) :
    cs.dropWhile p = cs := by
  cases cs with
  | nil => rfl
  | cons c cs => rw [List.dropWhile_cons_of_neg (by simp [h c rfl])]

/-- Behind a text that neither starts nor ends in a blank only the end is trimmed. -/
theorem trim_append {front : List Char} (hne : front ≠ [])
    (hhead : ∀ c ∈ front.head?, isBlank c = false)
    (hlast : ∀ c ∈ front.getLast?, isBlank c = false) (s : List Char) :
    trim (front ++ s) = front ++ trimEnd s := by
  have hstart : trimStart (front ++ s) = front ++ s := by
    refine dropWhile_of_head? fun c hc => hhead c ?_
    rwa [List.head?_append_of_ne_nil _ hne] at hc
  have hfront : front.reverse.dropWhile isBlank = front.reverse :=
    dropWhile_of_head? fun c hc => hlast c (by rwa [List.head?_reverse] at hc)
  rw [trim, hstart, trimEnd, trimEnd, dropEndWhile, dropEndWhile, List.reverse_append,
    List.dropWhile_append]
  split_ifs with hblank
  · -- the text behind is nothing but blanks
    rw [hfront, List.reverse_reverse, List.isEmpty_iff.mp hblank, List.reverse_nil,
      List.append_nil]
  · rw [List.reverse_append, List.reverse_reverse]

/-- Trimming the end adds no character. -/
theorem mem_of_mem_trimEnd {cs : List Char} {c : Char} (h : c ∈ trimEnd cs) : c ∈ cs := by
  rw [trimEnd, dropEndWhile, List.mem_reverse] at h
  exact List.mem_reverse.mp ((List.dropWhile_sublist _).mem h)

/-- A text that ends in a blank is not trimmed. -/
theorem trimEnd_ne_self {cs : List Char} {c : Char} (hc : c ∈ cs.getLast?)
    (hblank : isBlank c = true) : trimEnd cs ≠ cs := by
  intro hself
  have hlast := List.head?_dropWhile_not isBlank cs.reverse
  rw [← hself, trimEnd, dropEndWhile, List.getLast?_reverse, Option.mem_def] at hc
  rw [hc] at hlast
  simp [hblank] at hlast

/-! ## Trimmed texts
A text is **trimmed** when it neither starts nor ends in a blank. -/

/-- A text neither starts nor ends in a blank. -/
structure IsTrimmed (cs : List Char) : Prop where
  /-- The first character is no blank. -/
  head : ∀ c ∈ cs.head?, isBlank c = false
  /-- The last character is no blank. -/
  last : ∀ c ∈ cs.getLast?, isBlank c = false

instance (cs : List Char) : Decidable (IsTrimmed cs) :=
  decidable_of_iff (cs.head?.any isBlank = false ∧ cs.getLast?.any isBlank = false)
    ⟨fun h => ⟨(Option.any_eq_false _ _).mp h.1, (Option.any_eq_false _ _).mp h.2⟩,
      fun h => ⟨(Option.any_eq_false _ _).mpr h.head, (Option.any_eq_false _ _).mpr h.last⟩⟩

/-- What is left starts with no character of the class. -/
theorem of_mem_head?_dropWhile {p : Char → Bool} {cs : List Char} {c : Char}
    (h : c ∈ (cs.dropWhile p).head?) : p c = false := by
  have hnot := List.head?_dropWhile_not p cs
  rw [Option.mem_def.mp h] at hnot
  simpa using hnot

/-- What is left of a text without its end is its start. -/
theorem isPrefix_dropEndWhile (p : Char → Bool) (cs : List Char) : dropEndWhile p cs <+: cs := by
  rw [dropEndWhile, ← List.reverse_suffix, List.reverse_reverse]
  exact List.dropWhile_suffix p

/-- A trimmed text has no blanks around it. -/
theorem isTrimmed_trim (cs : List Char) : IsTrimmed (trim cs) := by
  constructor
  · intro c hc
    -- the first character that is left is the first one that is no blank
    obtain ⟨back, hback⟩ := isPrefix_dropEndWhile isBlank (trimStart cs)
    have hhead : c ∈ (trimStart cs).head? := by
      rw [← hback]
      exact List.mem_head?_append_of_mem_head? hc
    exact of_mem_head?_dropWhile hhead
  · intro c hc
    rw [trim, trimEnd, dropEndWhile, List.getLast?_reverse] at hc
    exact of_mem_head?_dropWhile hc

/-- Behind a text without blanks around it only the end is trimmed. -/
theorem IsTrimmed.trim_append {front : List Char} (h : IsTrimmed front) (hne : front ≠ [])
    (s : List Char) : trim (front ++ s) = front ++ trimEnd s :=
  Text.trim_append hne h.head h.last s

/-- A text without blanks around it is trimmed already. -/
theorem IsTrimmed.trim_eq {cs : List Char} (h : IsTrimmed cs) : trim cs = cs := by
  by_cases hne : cs = []
  · rw [hne, trim_nil]
  · have htrim := h.trim_append hne []
    rwa [List.append_nil, trimEnd, dropEndWhile_nil, List.append_nil] at htrim

/-- Trimming does not see the blanks before a text. -/
theorem trim_blanks_append {blanks : List Char} (h : ∀ c ∈ blanks, isBlank c = true)
    (s : List Char) : trim (blanks ++ s) = trim s := by
  rw [trim, trim, trimStart, trimStart, List.dropWhile_append_of_pos h]

/-- Trimming makes no text longer. -/
theorem length_trim_le (cs : List Char) : (trim cs).length ≤ cs.length := by
  obtain ⟨front, back, hsplit, -, -⟩ := exists_trim cs
  have hlength := congrArg List.length hsplit
  rw [List.length_append, List.length_append] at hlength
  omega

/-! ## Splitting -/

/-- A text without characters of the class is one piece. -/
theorem splitWhere_of_forall {p : Char → Bool} {cs : List Char} (h : ∀ c ∈ cs, p c = false) :
    splitWhere p cs = [cs] := by
  induction cs with
  | nil => rfl
  | cons c cs ih =>
    rw [List.forall_mem_cons] at h
    rw [splitWhere, h.1, ih h.2]
    rfl

/-- A character of the class divides the pieces of a text. -/
theorem splitWhere_append_of_pos {p : Char → Bool} {x : Char} (hx : p x = true) (cs rest : List Char) :
    splitWhere p (cs ++ x :: rest) = splitWhere p cs ++ splitWhere p rest := by
  induction cs with
  | nil => simp [splitWhere, hx]
  | cons c cs ih =>
    obtain ⟨piece, pieces, hpieces⟩ := List.exists_cons_of_ne_nil (splitWhere_ne_nil p cs)
    rw [List.cons_append, splitWhere, splitWhere, ih, hpieces]
    split_ifs <;> rfl

/-- The first character of the class ends the first piece. -/
theorem splitWhere_append_cons {p : Char → Bool} {cs rest : List Char} {x : Char}
    (h : ∀ c ∈ cs, p c = false) (hx : p x = true) :
    splitWhere p (cs ++ x :: rest) = cs :: splitWhere p rest := by
  rw [splitWhere_append_of_pos hx, splitWhere_of_forall h]
  rfl

section Split

variable {sep : Char} {s : List Char}

/-- A text without the separator is one piece. -/
theorem splitAt_of_notMem (h : sep ∉ s) : splitAt sep s = [s] :=
  splitWhere_of_forall fun c hc => by
    rw [beq_eq_false_iff_ne]
    rintro rfl
    exact h hc

/-- The first separator ends the first piece. -/
theorem splitAt_append (h : sep ∉ s) (cs : List Char) :
    splitAt sep (s ++ sep :: cs) = s :: splitAt sep cs := by
  refine splitWhere_append_cons (fun c hc => ?_) (by simp)
  rw [beq_eq_false_iff_ne]
  rintro rfl
  exact h hc

/-- Texts without the separator are found again in what they are joined to. -/
theorem splitAt_joinWith {texts : List (List Char)} (hne : texts ≠ [])
    (h : ∀ t ∈ texts, sep ∉ t) : splitAt sep (joinWith [sep] texts) = texts := by
  induction texts with
  | nil => exact absurd rfl hne
  | cons t texts ih =>
    rw [List.forall_mem_cons] at h
    cases texts with
    | nil => exact splitAt_of_notMem h.1
    | cons u texts =>
      rw [joinWith_cons_cons, List.append_assoc, List.singleton_append, splitAt_append h.1,
        ih (by simp) h.2]

/-- Joining the pieces of a text gives the text. -/
theorem joinWith_splitAt (sep : Char) (cs : List Char) : joinWith [sep] (splitAt sep cs) = cs := by
  induction cs with
  | nil => rfl
  | cons c cs ih =>
    obtain ⟨piece, pieces, hpieces⟩ := List.exists_cons_of_ne_nil (splitWhere_ne_nil (· == sep) cs)
    rw [splitAt, hpieces] at ih
    rw [splitAt, splitWhere, hpieces]
    split_ifs with hc
    -- a separator ends an empty piece, and any other character goes to the first piece
    · rw [joinWith_cons_cons, ih, eq_of_beq hc]
      rfl
    · show joinWith [sep] ((c :: piece) :: pieces) = c :: cs
      rw [← ih]
      cases pieces <;> rfl

/-- Every character of a text is the separator or stands in a piece. -/
theorem mem_splitAt_or (sep : Char) {c : Char} (h : c ∈ s) :
    c = sep ∨ ∃ piece ∈ splitAt sep s, c ∈ piece := by
  refine or_iff_not_imp_left.mpr fun hne => List.mem_flatten.mp ?_
  rw [splitAt, flatten_splitWhere, List.mem_filter]
  exact ⟨h, by simpa using hne⟩

/-- Pieces are made of the characters of the text, without the separator. -/
theorem mem_of_mem_splitAt {piece : List Char} (h : piece ∈ splitAt sep s) {c : Char} (hc : c ∈ piece) :
    c ∈ s ∧ c ≠ sep := by
  have hmem := List.mem_flatten_of_mem h hc
  rw [splitAt, flatten_splitWhere, List.mem_filter] at hmem
  exact ⟨hmem.1, by simpa using hmem.2⟩

/-- The first separator of a text divides it. -/
theorem splitOnce_eq_some_iff {front back : List Char} :
    splitOnce sep s = some (front, back) ↔ s = front ++ sep :: back ∧ sep ∉ front := by
  induction s generalizing front with
  | nil => simp
  | cons c s ih =>
    rw [splitOnce]
    split_ifs with hc
    · -- the text starts with the separator, so the front is empty
      subst hc
      cases front with
      | nil => simp
      | cons d front =>
        refine iff_of_false (by simp) ?_
        rintro ⟨heq, hnot⟩
        exact hnot (List.mem_cons.mpr (.inl (List.cons.inj heq).1))
    · rw [Option.map_eq_some_iff]
      constructor
      · rintro ⟨⟨rest, _⟩, hrest, ⟨⟩⟩
        obtain ⟨rfl, hnot⟩ := ih.mp hrest
        exact ⟨rfl, List.not_mem_cons_of_ne_of_not_mem (Ne.symm hc) hnot⟩
      · rintro ⟨heq, hnot⟩
        cases front with
        | nil => exact absurd (List.cons.inj heq).1 hc
        | cons d front =>
          obtain ⟨rfl, rfl⟩ := List.cons.inj heq
          exact ⟨(front, back), ih.mpr ⟨rfl, List.not_mem_of_not_mem_cons hnot⟩, rfl⟩

/-- A text is not divided exactly when it has no separator. -/
theorem splitOnce_eq_none_iff : splitOnce sep s = none ↔ sep ∉ s := by
  induction s with
  | nil => simp
  | cons c s ih =>
    rw [splitOnce]
    split_ifs with hc
    · simp [hc]
    · rw [Option.map_eq_none_iff, ih, List.mem_cons, not_or]
      exact ⟨fun h => ⟨Ne.symm hc, h⟩, And.right⟩

end Split

/-! ## Words -/

section Words

variable {blanks : List Char} {x : Char}

/-- A blank divides the words of a text. -/
theorem words_append_cons (hx : isBlank x = true) (cs rest : List Char) :
    words (cs ++ x :: rest) = words cs ++ words rest := by
  rw [words, splitWhere_append_of_pos hx, List.filter_append]
  rfl

/-- A blank in front changes no word. -/
theorem words_cons_of_isBlank (hx : isBlank x = true) (rest : List Char) :
    words (x :: rest) = words rest :=
  words_append_cons hx [] rest

/-- A blank at the end changes no word. -/
theorem words_append_singleton (hx : isBlank x = true) (cs : List Char) :
    words (cs ++ [x]) = words cs := by
  rw [words_append_cons hx]
  exact List.append_nil _

/-- Blanks in front change no word. -/
theorem words_blanks_append (h : ∀ c ∈ blanks, isBlank c = true) (cs : List Char) :
    words (blanks ++ cs) = words cs := by
  induction blanks with
  | nil => rfl
  | cons x blanks ih =>
    rw [List.forall_mem_cons] at h
    rw [List.cons_append, words_cons_of_isBlank h.1, ih h.2]

/-- Blanks at the end change no word. -/
theorem words_append_blanks (h : ∀ c ∈ blanks, isBlank c = true) (cs : List Char) :
    words (cs ++ blanks) = words cs := by
  induction blanks generalizing cs with
  | nil => rw [List.append_nil]
  | cons x blanks ih =>
    rw [List.forall_mem_cons] at h
    rw [List.append_cons, ih h.2, words_append_singleton h.1]

/-- Trimming changes no word. -/
theorem words_trim (cs : List Char) : words (trim cs) = words cs := by
  obtain ⟨front, back, hsplit, hfront, hback⟩ := exists_trim cs
  calc words (trim cs) = words (front ++ trim cs ++ back) := by
        rw [words_append_blanks hback, words_blanks_append hfront]
    _ = words cs := by rw [← hsplit]

/-- The words of texts that are joined with a blank are those of the texts. -/
theorem words_joinWith (hx : isBlank x = true) (texts : List (List Char)) :
    words (joinWith [x] texts) = texts.flatMap words := by
  induction texts with
  | nil => rfl
  | cons t texts ih =>
    cases texts with
    | nil => simp
    | cons u texts =>
      rw [joinWith_cons_cons, List.append_assoc, List.singleton_append, words_append_cons hx, ih]
      rfl

end Words

/-! ## Lines -/

/-- What goes before a line feed is a blank. -/
theorem words_dropReturn (cs : List Char) : words (dropReturn cs) = words cs := by
  rw [dropReturn]
  split_ifs with h
  · obtain ⟨front, rfl⟩ := List.getLast?_eq_some_iff.mp h
    rw [List.dropLast_concat, words_append_singleton (by decide)]
  · rfl

/-- The lines of a text are its pieces between line feeds; the last piece is no line when it is empty. -/
theorem exists_lines (cs : List Char) :
    ∃ front last, splitAt '\n' cs = front ++ [last] ∧
      lines cs = front.map dropReturn ++ if last = [] then [] else [last] := by
  have hne : splitAt '\n' cs ≠ [] := splitWhere_ne_nil _ cs
  refine ⟨_, _, (List.dropLast_append_getLast hne).symm, ?_⟩
  rw [lines, List.getLast?_eq_getLast_of_ne_nil hne, Option.getD_some]

/-- The words of a text are those of its lines. -/
theorem flatMap_words_lines (cs : List Char) : (lines cs).flatMap words = words cs := by
  obtain ⟨front, last, hpieces, hlines⟩ := exists_lines cs
  have hlast : (if last = [] then [] else [last]).flatMap words = words last := by
    -- the piece that is no line has no words
    split_ifs with h
    · rw [h]
      rfl
    · exact List.flatMap_singleton _ _
  calc (lines cs).flatMap words = front.flatMap words ++ words last := by
        rw [hlines, List.flatMap_append, hlast, List.flatMap_map]
        simp only [words_dropReturn]
    _ = words (joinWith ['\n'] (splitAt '\n' cs)) := by
        rw [words_joinWith (by decide), hpieces, List.flatMap_append, List.flatMap_singleton]
    _ = words cs := by rw [joinWith_splitAt]

/-- No line has a line feed. -/
theorem newline_notMem_of_mem_lines {cs line : List Char} (h : line ∈ lines cs) : '\n' ∉ line := by
  obtain ⟨front, last, hpieces, hlines⟩ := exists_lines cs
  have hpiece {piece : List Char} (hmem : piece ∈ front ++ [last]) : '\n' ∉ piece :=
    fun hc => (mem_of_mem_splitAt (hpieces ▸ hmem) hc).2 rfl
  rw [hlines, List.mem_append] at h
  obtain h | h := h
  · obtain ⟨piece, hmem, rfl⟩ := List.mem_map.mp h
    have hnot := hpiece (List.mem_append_left [last] hmem)
    rw [dropReturn]
    split_ifs
    · exact fun hc => hnot (List.dropLast_subset piece hc)
    · exact hnot
  · split_ifs at h
    · cases h
    · rw [List.mem_singleton.mp h]
      exact hpiece List.mem_concat_self

/-- A text without a line feed is a line, unless it is empty. -/
theorem lines_of_newline_notMem {cs : List Char} (h : '\n' ∉ cs) :
    lines cs = if cs = [] then [] else [cs] := by
  rw [lines, splitAt_of_notMem h]
  rfl

/-! ## Texts on one line -/

/-- A text on one line has the words of the text. -/
theorem words_flatten (cs : List Char) : words (flatten cs) = words cs := by
  rw [flatten, words_joinWith (by decide), flatMap_filter_of_nil]
  · rw [List.flatMap_map]
    simp only [words_trim]
    exact flatMap_words_lines cs
  · intro text h
    rw [decide_eq_false_iff_not, not_not] at h
    rw [h]
    rfl

/-- A text on one line has no line feed. -/
theorem newline_notMem_flatten (cs : List Char) : '\n' ∉ flatten cs := by
  intro h
  obtain h | ⟨text, htext, h⟩ := mem_joinWith h
  · exact absurd h (by decide)
  · obtain ⟨line, hline, rfl⟩ := List.mem_map.mp (List.mem_filter.mp htext).1
    exact newline_notMem_of_mem_lines hline (mem_of_mem_trim h)

/-- Trimmed texts that are not empty are trimmed when they are joined. -/
theorem isTrimmed_joinWith {sep : List Char} {texts : List (List Char)}
    (h : ∀ t ∈ texts, t ≠ [] ∧ IsTrimmed t) : IsTrimmed (joinWith sep texts) := by
  constructor
  · cases texts with
    | nil => simp
    | cons t texts =>
      rw [List.forall_mem_cons] at h
      cases texts with
      | nil => exact h.1.2.head
      | cons u texts =>
        rw [joinWith_cons_cons, List.append_assoc, List.head?_append_of_ne_nil _ h.1.1]
        exact h.1.2.head
  · rw [getLast?_joinWith fun t ht => (h t ht).1]
    intro c hc
    obtain ⟨t, ht, hc⟩ := Option.bind_eq_some_iff.mp hc
    exact (h t (List.mem_of_getLast? ht)).2.last c hc

/-- A text on one line has no blanks around it. -/
theorem isTrimmed_flatten (cs : List Char) : IsTrimmed (flatten cs) := by
  refine isTrimmed_joinWith fun text htext => ?_
  obtain ⟨htext, hne⟩ := List.mem_filter.mp htext
  obtain ⟨line, -, rfl⟩ := List.mem_map.mp htext
  exact ⟨of_decide_eq_true hne, isTrimmed_trim line⟩

/-- A text is on one line exactly when writing it on one line changes nothing. -/
theorem flatten_eq_self_iff {cs : List Char} : flatten cs = cs ↔ '\n' ∉ cs ∧ IsTrimmed cs := by
  constructor
  · intro h
    rw [← h]
    exact ⟨newline_notMem_flatten cs, isTrimmed_flatten cs⟩
  · rintro ⟨hline, htrim⟩
    rw [flatten, lines_of_newline_notMem hline]
    split_ifs with hnil
    · rw [hnil]
      rfl
    · rw [List.map_singleton, htrim.trim_eq, List.filter_cons_of_pos (by simpa using hnil)]
      rfl

end ProtoRest.Text
