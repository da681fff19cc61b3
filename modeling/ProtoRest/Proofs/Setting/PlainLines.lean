import ProtoRest.Proofs.Text.Pieces
import ProtoRest.Setting.Parameter

/-! # Lines without comment markers
A documentation line loses blanks, one comment marker of slashes and the blanks behind it, and
nothing else (`losesMarker_plainLine`). What is left is trimmed, but when another marker stands behind
these blanks it comes to light (`startsWithMarker_plainLine_iff`), and only a second pass would take it
(`plainLine_plainLine_iff`). -/

namespace ProtoRest.Setting

open ProtoRest.Text

/-- A line starts with a comment marker. -/
def StartsWithMarker (line : String) : Prop := line.toList.head? = some '/'

instance (line : String) : Decidable (StartsWithMarker line) :=
  inferInstanceAs (Decidable (line.toList.head? = some '/'))

/-- Behind a comment marker a line has blanks and another marker. -/
def HidesMarker (line : String) : Prop :=
  ∃ front slashes gap rest, line.toList = front ++ slashes ++ gap ++ '/' :: rest ∧
    (∀ c ∈ front, isBlank c = true) ∧ slashes ≠ [] ∧ (∀ c ∈ slashes, c = '/') ∧ gap ≠ [] ∧
    ∀ c ∈ gap, isBlank c = true

/-- A text without the comment marker at its start. -/
def dropMarker (cs : List Char) : List Char := cs.dropWhile (· == '/')

/-- A plain line is the line trimmed, without one marker, and trimmed again. -/
theorem toList_plainLine (line : String) :
    (plainLine line).toList = trim (dropMarker (trim line.toList)) :=
  String.toList_ofList

/-- A plain line has no blanks around it. -/
theorem isTrimmed_plainLine (line : String) : IsTrimmed (plainLine line).toList := by
  rw [toList_plainLine]
  exact isTrimmed_trim _

/-- A line becomes another one by losing blanks at both ends, a marker and the blanks behind it. -/
def LosesMarker (line plain : String) : Prop :=
  ∃ front slashes gap back, line.toList = front ++ slashes ++ gap ++ plain.toList ++ back ∧
    (∀ c ∈ front, isBlank c = true) ∧ (∀ c ∈ slashes, c = '/') ∧ (∀ c ∈ gap, isBlank c = true) ∧
    ∀ c ∈ back, isBlank c = true

/-- A plain line loses blanks and one marker of its line. -/
theorem losesMarker_plainLine (line : String) : LosesMarker line (plainLine line) := by
  obtain ⟨front, back, hline, hfront, hback⟩ := exists_trim line.toList
  obtain ⟨gap, back', hrest, hgap, hback'⟩ := exists_trim (dropMarker (trim line.toList))
  refine ⟨front, (trim line.toList).takeWhile (· == '/'), gap, back' ++ back, ?_, hfront,
    fun c hc => by simpa using List.mem_takeWhile_imp hc, hgap,
    List.forall_mem_append.mpr ⟨hback', hback⟩⟩
  have hmarker : trim line.toList =
      (trim line.toList).takeWhile (· == '/') ++ dropMarker (trim line.toList) :=
    List.takeWhile_append_dropWhile.symm
  rw [toList_plainLine]
  calc line.toList = front ++ trim line.toList ++ back := hline
    _ = front ++ ((trim line.toList).takeWhile (· == '/') ++ dropMarker (trim line.toList)) ++ back := by
      rw [← hmarker]
    _ = front ++ ((trim line.toList).takeWhile (· == '/') ++
          (gap ++ trim (dropMarker (trim line.toList)) ++ back')) ++ back := by
      rw [← hrest]
    _ = _ := by simp only [List.append_assoc]

/-- Without its marker a trimmed text starts with another one exactly when there are blanks between the
two. -/
theorem head?_trim_dropMarker_iff {cs : List Char} (hcs : IsTrimmed cs) :
    (trim (dropMarker cs)).head? = some '/' ↔
      ∃ slashes gap rest, cs = slashes ++ gap ++ '/' :: rest ∧ slashes ≠ [] ∧
        (∀ c ∈ slashes, c = '/') ∧ gap ≠ [] ∧ ∀ c ∈ gap, isBlank c = true := by
  constructor
  · intro h
    obtain ⟨rest, hrest⟩ := List.head?_eq_some_iff.mp h
    obtain ⟨gap, back, hsplit, hgap, -⟩ := exists_trim (dropMarker cs)
    rw [hrest] at hsplit
    have hmarker : cs = cs.takeWhile (· == '/') ++ dropMarker cs :=
      List.takeWhile_append_dropWhile.symm
    have hgapne : gap ≠ [] := by
      -- the whole marker is gone, so no slash comes first
      rintro rfl
      have hslash : '/' ∈ (dropMarker cs).head? := by
        rw [hsplit]
        rfl
      exact absurd (of_mem_head?_dropWhile hslash) (by decide)
    refine ⟨cs.takeWhile (· == '/'), gap, rest ++ back, ?_, ?_,
      fun c hc => by simpa using List.mem_takeWhile_imp hc, hgapne, hgap⟩
    · rw [List.append_assoc, ← List.cons_append, ← List.append_assoc gap, ← hsplit]
      exact hmarker
    · -- the text starts with no blank, so the marker is before the blanks
      intro hnil
      rw [hnil, List.nil_append, hsplit] at hmarker
      obtain ⟨c, gap, rfl⟩ := List.exists_cons_of_ne_nil hgapne
      have hc := hcs.head c (by rw [hmarker]; rfl)
      rw [hgap c List.mem_cons_self] at hc
      cases hc
  · rintro ⟨slashes, gap, rest, rfl, -, hslashes, hgap, hblank⟩
    have hslash : ∀ c ∈ slashes, (c == '/') = true := fun c hc => by simp [hslashes c hc]
    have hdrop : dropMarker (slashes ++ gap ++ '/' :: rest) = gap ++ '/' :: rest := by
      rw [dropMarker, List.append_assoc, List.dropWhile_append_of_pos hslash]
      refine dropWhile_of_head? fun c hc => ?_
      rw [List.head?_append_of_ne_nil _ hgap] at hc
      have hc := hblank c (List.mem_of_mem_head? hc)
      rw [beq_eq_false_iff_ne]
      rintro rfl
      exact absurd hc (by decide)
    have hone : IsTrimmed ['/'] := by decide
    rw [hdrop, trim_blanks_append hblank, ← List.singleton_append,
      hone.trim_append (List.cons_ne_nil _ _)]
    rfl

/-- What is left starts with a marker exactly when the line hides one. -/
theorem startsWithMarker_plainLine_iff (line : String) :
    StartsWithMarker (plainLine line) ↔ HidesMarker line := by
  rw [StartsWithMarker, toList_plainLine, head?_trim_dropMarker_iff (isTrimmed_trim _), HidesMarker]
  constructor
  · rintro ⟨slashes, gap, rest, htrim, hslashes⟩
    obtain ⟨front, back, hline, hfront, -⟩ := exists_trim line.toList
    refine ⟨front, slashes, gap, rest ++ back, ?_, hfront, hslashes⟩
    rw [hline, htrim]
    simp only [List.append_assoc, List.cons_append]
  · rintro ⟨front, slashes, gap, rest, hline, hfront, hslashes, hslash, hgap⟩
    -- between the first slash and the one behind the blanks nothing is trimmed
    have htrimmed : IsTrimmed (slashes ++ gap ++ ['/']) := by
      constructor
      · intro c hc
        rw [List.append_assoc, List.head?_append_of_ne_nil _ hslashes] at hc
        rw [hslash c (List.mem_of_mem_head? hc)]
        decide
      · rw [List.getLast?_concat]
        rintro _ ⟨⟩
        decide
    refine ⟨slashes, gap, trimEnd rest, ?_, hslashes, hslash, hgap⟩
    rw [hline, List.append_assoc front, List.append_assoc front, trim_blanks_append hfront,
      List.append_cons, htrimmed.trim_append (by simp), List.append_assoc _ ['/']]
    rfl

/-- A second pass changes nothing exactly when the line hides no marker. -/
theorem plainLine_plainLine_iff (line : String) :
    plainLine (plainLine line) = plainLine line ↔ ¬HidesMarker line := by
  rw [← startsWithMarker_plainLine_iff, ← String.toList_inj, toList_plainLine (plainLine line),
    (isTrimmed_plainLine line).trim_eq, StartsWithMarker]
  constructor
  · intro hsame hslash
    -- the marker would go, and trimming puts nothing back
    obtain ⟨rest, hrest⟩ := List.head?_eq_some_iff.mp hslash
    have hlength := length_trim_le (dropMarker (plainLine line).toList)
    have hdrop : dropMarker ('/' :: rest) = dropMarker rest := rfl
    rw [hsame, hrest, hdrop] at hlength
    have hrest := (List.dropWhile_suffix (l := rest) (· == '/')).length_le
    rw [List.length_cons, dropMarker] at hlength
    omega
  · intro hslash
    have hdrop : dropMarker (plainLine line).toList = (plainLine line).toList :=
      dropWhile_of_head? fun c hc => by
        rw [beq_eq_false_iff_ne]
        rintro rfl
        exact hslash hc
    rw [hdrop, (isTrimmed_plainLine line).trim_eq]

end ProtoRest.Setting
