import Mathlib.Data.List.Sort
import Mathlib.Data.List.TakeWhile
import ProtoRest.Text.Alphanumeric
import ProtoRest.Text.LetterCase

/-! # Case maps
What the tables of the letters say of single characters: no letter is in both cases
(`isLower_eq_false_of_isUpper`), a capital is its own upper case (`toUpper_of_isUpper`), and the
upper case of any other character starts with a capital or an apostrophe (`toUpper_cases`). Two
tables are compared in one pass over both, in the order of their runs. -/

namespace ProtoRest.Text

/-! ## Comparing tables -/

/-- The code points on a run. -/
def Run.codes (r : Run) : List Nat :=
  (List.range ((r.last - r.first) / r.step + 1)).map fun i => r.first + r.step * i

/-- The code points of a run are listed. -/
theorem Run.mem_codes {r : Run} {n : Nat} (h : r.mem n = true) : n ∈ r.codes := by
  simp only [Run.mem, Bool.and_eq_true, decide_eq_true_eq, beq_iff_eq] at h
  obtain ⟨⟨hfirst, hlast⟩, hstep⟩ := h
  refine List.mem_map.mpr ⟨(n - r.first) / r.step, ?_, ?_⟩
  · exact List.mem_range.mpr
      (Nat.lt_succ_of_le (Nat.div_le_div_right (Nat.sub_le_sub_right hlast r.first)))
  · rw [Nat.mul_div_cancel' (Nat.dvd_of_mod_eq_zero hstep)]
    omega

/-- The code points of a run lie between its first and its last. -/
theorem Run.bounds_of_mem {r : Run} {n : Nat} (h : r.mem n = true) : r.first ≤ n ∧ n ≤ r.last := by
  simp only [Run.mem, Bool.and_eq_true, decide_eq_true_eq] at h
  exact h.1

/-- A code point is in runs exactly when it is in one of them. -/
theorem inRuns_iff {rs : List Run} {n : Nat} : inRuns rs n = true ↔ ∃ r ∈ rs, r.mem n = true :=
  List.any_eq_true

/-- A run starts no later than another. -/
def Run.StartsBefore (r s : Run) : Prop := r.first ≤ s.first

instance : DecidableRel Run.StartsBefore := fun r s => inferInstanceAs (Decidable (r.first ≤ s.first))

instance : Std.Total Run.StartsBefore := ⟨fun r s => Nat.le_total r.first s.first⟩

instance : IsTrans Run Run.StartsBefore := ⟨fun _ _ _ => Nat.le_trans⟩

/-- The runs by their first code points. -/
def inOrder (rs : List Run) : List Run := rs.insertionSort Run.StartsBefore

/-- Sorting runs keeps their code points. -/
theorem inRuns_inOrder (rs : List Run) (n : Nat) : inRuns (inOrder rs) n = inRuns rs n := by
  rw [Bool.eq_iff_iff, inRuns_iff, inRuns_iff]
  simp only [inOrder, List.mem_insertionSort]

/-- Sorted runs start one after another. -/
theorem pairwise_inOrder (rs : List Run) : (inOrder rs).Pairwise Run.StartsBefore :=
  List.pairwise_insertionSort Run.StartsBefore rs

/-- Whether the runs of the second list share no code point with those of the first, both in order:
what ends before the next run is left behind. -/
def apartFrom (rs : List Run) : List Run → Bool
  | [] => true
  | s :: ss =>
    let left := rs.dropWhile fun r => r.last < s.first
    (left.takeWhile fun r => r.first ≤ s.last).all (fun r => s.codes.all fun n => !r.mem n) &&
      apartFrom left ss

/-- Whether the code points of the second list are all in the first, both in order. -/
def insideOf (rs : List Run) : List Run → Bool
  | [] => true
  | s :: ss =>
    let left := rs.dropWhile fun r => r.last < s.first
    s.codes.all (inRuns left) && insideOf left ss

/-- The check for inclusion is sound: a code point of the second runs is in the first. -/
theorem inRuns_of_insideOf {rs ss : List Run} (h : insideOf rs ss = true) {n : Nat}
    (hn : inRuns ss n = true) : inRuns rs n = true := by
  induction ss generalizing rs with
  | nil => simp at hn
  | cons s ss ih =>
    rw [insideOf, Bool.and_eq_true] at h
    have hleft : inRuns (rs.dropWhile fun r => r.last < s.first) n = true := by
      rw [inRuns_cons, Bool.or_eq_true] at hn
      obtain hs | hss := hn
      · exact List.all_eq_true.mp h.1 n (Run.mem_codes hs)
      · exact ih h.2 hss
    obtain ⟨r, hr, hmem⟩ := inRuns_iff.mp hleft
    exact inRuns_iff.mpr ⟨r, (List.dropWhile_sublist _).subset hr, hmem⟩

/-- Runs that end before a code point do not have it. -/
theorem inRuns_dropWhile (rs : List Run) {k n : Nat} (hk : k ≤ n) :
    inRuns (rs.dropWhile fun r => r.last < k) n = inRuns rs n := by
  induction rs with
  | nil => rfl
  | cons r rs ih =>
    rw [List.dropWhile_cons]
    split_ifs with hr
    · have hnot : r.mem n = false := by
        rw [Bool.eq_false_iff]
        intro hmem
        have hbounds := Run.bounds_of_mem hmem
        rw [decide_eq_true_eq] at hr
        omega
      rw [ih, inRuns_cons, hnot, Bool.false_or]
    · rfl

/-- In order, only runs that start up to a code point have it. -/
theorem inRuns_takeWhile {rs : List Run} (hrs : rs.Pairwise Run.StartsBefore) {k n : Nat}
    (hk : n ≤ k) : inRuns (rs.takeWhile fun r => r.first ≤ k) n = inRuns rs n := by
  induction rs with
  | nil => rfl
  | cons r rs ih =>
    rw [List.pairwise_cons] at hrs
    rw [List.takeWhile_cons]
    split_ifs with hr
    · rw [inRuns_cons, inRuns_cons, ih hrs.2]
    · rw [inRuns_nil, eq_comm, Bool.eq_false_iff]
      intro hin
      obtain ⟨s, hs, hmem⟩ := inRuns_iff.mp hin
      have hbounds := Run.bounds_of_mem hmem
      have hfirst : r.first ≤ s.first := by
        obtain rfl | hs := List.mem_cons.mp hs
        · exact Nat.le_refl s.first
        · exact hrs.1 s hs
      rw [decide_eq_true_eq] at hr
      omega

/-- The check for disjointness is sound: a code point of the second runs is not in the first. -/
theorem inRuns_of_apartFrom {rs ss : List Run} (hrs : rs.Pairwise Run.StartsBefore)
    (hss : ss.Pairwise Run.StartsBefore) (h : apartFrom rs ss = true) {n : Nat}
    (hn : inRuns ss n = true) : inRuns rs n = false := by
  induction ss generalizing rs with
  | nil => simp at hn
  | cons s ss ih =>
    rw [apartFrom, Bool.and_eq_true] at h
    rw [List.pairwise_cons] at hss
    -- the code point lies behind the start of the next run, since the runs are in order
    have hfirst : s.first ≤ n := by
      obtain ⟨r, hr, hmem⟩ := inRuns_iff.mp hn
      obtain rfl | hr := List.mem_cons.mp hr
      · exact (Run.bounds_of_mem hmem).1
      · exact Nat.le_trans (hss.1 r hr) (Run.bounds_of_mem hmem).1
    have hleft := hrs.sublist (List.dropWhile_sublist fun r => decide (r.last < s.first))
    -- runs that end before it do not hold it
    rw [← inRuns_dropWhile rs hfirst]
    rw [inRuns_cons, Bool.or_eq_true] at hn
    obtain hs | hrest := hn
    · rw [← inRuns_takeWhile hleft (Run.bounds_of_mem hs).2, Bool.eq_false_iff]
      intro hin
      obtain ⟨r, hr, hmem⟩ := inRuns_iff.mp hin
      have hmisses := List.all_eq_true.mp (List.all_eq_true.mp h.1 r hr) n (Run.mem_codes hs)
      simp [hmem] at hmisses
    · exact ih hleft hss.2 h.2 hrest

/-- Two tables without a common code point. -/
theorem inRuns_eq_false_of_apart {rs ss : List Run}
    (h : apartFrom (inOrder rs) (inOrder ss) = true) {n : Nat} (hn : inRuns rs n = true) :
    inRuns ss n = false := by
  rw [← inRuns_inOrder] at hn ⊢
  rw [Bool.eq_false_iff]
  intro hin
  rw [inRuns_of_apartFrom (pairwise_inOrder rs) (pairwise_inOrder ss) h hin] at hn
  cases hn

/-- A table with all code points of another. -/
theorem inRuns_of_inside {rs ss : List Run} (h : insideOf (inOrder rs) (inOrder ss) = true)
    {n : Nat} (hn : inRuns ss n = true) : inRuns rs n = true := by
  rw [← inRuns_inOrder] at hn ⊢
  exact inRuns_of_insideOf h hn

/-! ## The tables of letters -/

/-- Where a shift moves its run. -/
def Shift.image (s : Shift) : Run :=
  ⟨(s.run.first + s.distance).toNat, (s.run.last + s.distance).toNat, s.run.step⟩

/-- A code point of a shifted run is moved into the image of the run. -/
theorem Shift.mem_image {s : Shift} (hs : 0 ≤ s.run.first + s.distance) {n : Nat}
    (h : s.run.mem n = true) : s.image.mem (n + s.distance).toNat = true := by
  simp only [Run.mem, Bool.and_eq_true, decide_eq_true_eq, beq_iff_eq] at h ⊢
  have hfrom : (n + s.distance).toNat - (s.run.first + s.distance).toNat = n - s.run.first := by
    omega
  refine ⟨⟨?_, ?_⟩, ?_⟩
  · simp only [Shift.image]
    omega
  · simp only [Shift.image]
    omega
  · rw [Shift.image, hfrom]
    exact h.2

/-- The table of capitals beside the others: no capital is a small letter, every one is a letter and a
character, and in ASCII there are no more than twenty-six. -/
theorem capitals_fit :
    apartFrom (inOrder uppercaseRuns) (inOrder lowercaseRuns) = true ∧
    insideOf (inOrder (alphanumericRanges.map fun r => ⟨r.1, r.2, 1⟩)) (inOrder uppercaseRuns) = true ∧
    (∀ r ∈ uppercaseRuns, r.last < 0xD800 ∨ 0xDFFF < r.first ∧ r.last < 0x110000) ∧
    apartFrom (inOrder uppercaseRuns) (inOrder [⟨0, 0x40, 1⟩, ⟨0x5B, 0x7F, 1⟩]) = true := by
  decide +kernel

/-- The map to upper case beside the table of capitals: no capital moves or becomes several
characters, what moves becomes a capital, and what becomes several characters starts with a capital or
with one apostrophe, which is a letter that is kept. -/
theorem upper_map_fits :
    apartFrom (inOrder uppercaseRuns) (inOrder (upperShifts.map Shift.run)) = true ∧
    apartFrom (inOrder uppercaseRuns) (inOrder (upperExpansions.map fun e => ⟨e.1, e.1, 1⟩)) = true ∧
    (∀ s ∈ upperShifts, 0 ≤ s.run.first + s.distance) ∧
    insideOf (inOrder uppercaseRuns) (inOrder (upperShifts.map Shift.image)) = true ∧
    (upperExpansions.all fun e =>
      e.2.head?.any fun n => inRuns uppercaseRuns n || n == 0x2BC) = true ∧
    toUpper 'ʼ' = ['ʼ'] ∧ isAlphanumeric 'ʼ' = true := by
  decide +kernel

/-! ## Capitals -/

/-- No letter is in both cases. -/
theorem isLower_eq_false_of_isUpper {c : Char} (h : isUpper c = true) : isLower c = false := by
  rw [isLower]
  rw [isUpper] at h
  split_ifs at h ⊢ with hc
  · have hall : ∀ n < 128, (Char.ofNat n).isUpper = true → (Char.ofNat n).isLower = false := by
      decide
    simpa using hall c.toNat hc (by simpa using h)
  · exact inRuns_eq_false_of_apart capitals_fit.1 h

/-- A capital is a letter. -/
theorem isAlphanumeric_of_isUpper {c : Char} (h : isUpper c = true) : isAlphanumeric c = true := by
  rw [isAlphanumeric]
  rw [isUpper] at h
  split_ifs at h ⊢ with hc
  · have hall : ∀ n < 128, (Char.ofNat n).isUpper = true → (Char.ofNat n).isAlphanum = true := by
      decide
    simpa using hall c.toNat hc (by simpa using h)
  · have hin := inRuns_of_inside capitals_fit.2.1 h
    simpa [inRuns, inRanges, Run.mem, Nat.mod_one] using hin

/-- The code points of the runs of capitals are capitals. -/
theorem isUpper_ofNat {n : Nat} (h : inRuns uppercaseRuns n = true) :
    isUpper (Char.ofNat n) = true := by
  obtain ⟨-, -, hchars, hascii⟩ := capitals_fit
  -- the runs stay within the code points of characters
  have hvalid : n.isValidChar := by
    obtain ⟨r, hr, hmem⟩ := inRuns_iff.mp h
    have hbounds := Run.bounds_of_mem hmem
    have hrun := hchars r hr
    rw [Nat.isValidChar]
    omega
  have hnat : (Char.ofNat n).toNat = n := by
    rw [Char.ofNat, dif_pos hvalid]
    rfl
  rw [isUpper, hnat]
  split_ifs with hn
  · -- below 128 the runs hold the capital letters only, which are checked one by one
    have houtside := inRuns_eq_false_of_apart hascii h
    simp only [inRuns_cons, inRuns_nil, Run.mem, Nat.mod_one, beq_self_eq_true, Bool.and_true,
      Bool.or_false, Bool.or_eq_false_iff, Bool.and_eq_false_iff, decide_eq_false_iff_not] at houtside
    have hall : ∀ n < 128, 65 ≤ n → n ≤ 90 → (Char.ofNat n).isUpper = true := by decide
    exact hall n hn (by omega) (by omega)
  · exact h

/-! ## Upper case -/

/-- What becomes another single character in upper case becomes a capital. -/
theorem isUpper_of_shift {s : Shift} (hs : s ∈ upperShifts) {n : Nat} (h : s.run.mem n = true) :
    isUpper (Char.ofNat (n + s.distance).toNat) = true := by
  obtain ⟨-, -, hbounds, hinside, -⟩ := upper_map_fits
  have himage : inRuns (upperShifts.map Shift.image) (n + s.distance).toNat = true :=
    inRuns_iff.mpr ⟨s.image, List.mem_map_of_mem hs, Shift.mem_image (hbounds s hs) h⟩
  exact isUpper_ofNat (inRuns_of_inside hinside himage)

/-- What becomes several characters in upper case starts with a capital, but for one that starts
with an apostrophe. -/
theorem upperExpansions_heads :
    ∀ e ∈ upperExpansions, ∃ n ns, e.2 = n :: ns ∧ (inRuns uppercaseRuns n = true ∨ n = 0x2BC) := by
  intro e he
  obtain ⟨-, -, -, -, hall, -⟩ := upper_map_fits
  have hhead := List.all_eq_true.mp hall e he
  cases hns : e.2 with
  | nil => simp [hns] at hhead
  | cons n ns => exact ⟨n, ns, rfl, by simpa [hns] using hhead⟩

/-- A character is kept, expanded by the table or moved by a shift. -/
theorem mapCase_cases (expansions : List (Nat × List Nat)) (shifts : List Shift) (c : Char) :
    mapCase expansions shifts c = [c] ∨
      (∃ ns, (c.toNat, ns) ∈ expansions ∧ mapCase expansions shifts c = ns.map Char.ofNat) ∨
      ∃ s ∈ shifts, s.run.mem c.toNat = true ∧
        mapCase expansions shifts c = [Char.ofNat (c.toNat + s.distance).toNat] := by
  rw [mapCase]
  split
  · next ns hns =>
    obtain ⟨before, after, hmem, -⟩ := List.lookup_eq_some_iff.mp hns
    exact .inr (.inl ⟨ns, by simp [hmem], rfl⟩)
  · split
    · next s hs =>
      have hmem := List.find?_some hs
      exact .inr (.inr ⟨s, List.mem_of_find?_eq_some hs, hmem, rfl⟩)
    · exact .inl rfl

/-- A character that is not its own upper case becomes a text that starts with a capital or an
apostrophe. -/
theorem toUpper_cases (c : Char) :
    toUpper c = [c] ∨ ∃ d ds, toUpper c = d :: ds ∧ (isUpper d = true ∨ d = 'ʼ') := by
  rw [toUpper]
  split_ifs with hc
  · have hall : ∀ n < 128, (Char.ofNat n).toUpper = Char.ofNat n ∨
        isUpper (Char.ofNat n).toUpper = true := by decide
    obtain h | h := hall c.toNat hc
    · exact .inl (by simpa using h)
    · exact .inr ⟨c.toUpper, [], rfl, .inl (by simpa using h)⟩
  · obtain h | ⟨ns, hns, h⟩ | ⟨s, hs, hmem, h⟩ := mapCase_cases upperExpansions upperShifts c
    · exact .inl h
    · -- one expansion begins with an apostrophe, all others with a capital
      obtain ⟨n, ns, rfl, hn⟩ := upperExpansions_heads _ hns
      refine .inr ⟨Char.ofNat n, ns.map Char.ofNat, h, ?_⟩
      obtain hn | rfl := hn
      · exact .inl (isUpper_ofNat hn)
      · exact .inr rfl
    · exact .inr ⟨_, [], h, .inl (isUpper_of_shift hs hmem)⟩

/-- A capital is its own upper case. -/
theorem toUpper_of_isUpper {c : Char} (h : isUpper c = true) : toUpper c = [c] := by
  rw [toUpper]
  rw [isUpper] at h
  split_ifs at h ⊢ with hc
  · have hall : ∀ n < 128, (Char.ofNat n).isUpper = true → (Char.ofNat n).toUpper = Char.ofNat n := by
      decide
    simpa using hall c.toNat hc (by simpa using h)
  · obtain ⟨hshifts, hkeys, -⟩ := upper_map_fits
    have hshifts := inRuns_eq_false_of_apart hshifts h
    have hkeys := inRuns_eq_false_of_apart hkeys h
    rw [Bool.eq_false_iff] at hshifts hkeys
    obtain h | ⟨ns, hns, -⟩ | ⟨s, hs, hmem, -⟩ := mapCase_cases upperExpansions upperShifts c
    · exact h
    · refine absurd (inRuns_iff.mpr ⟨_, List.mem_map_of_mem hns, ?_⟩) hkeys
      simp [Run.mem]
    · exact absurd (inRuns_iff.mpr ⟨s.run, List.mem_map_of_mem hs, hmem⟩) hshifts

/-- An upper case is its character alone, or it starts with a capital or an apostrophe. -/
theorem head_cases {c d : Char} {ds : List Char} (h : toUpper c = d :: ds) :
    (c = d ∧ ds = []) ∨ isUpper d = true ∨ d = 'ʼ' := by
  obtain hc | ⟨d', ds', hd, hcase⟩ := toUpper_cases c
  · rw [hc, List.cons.injEq] at h
    exact .inl ⟨h.1, h.2.symm⟩
  · rw [hd, List.cons.injEq] at h
    rw [← h.1]
    exact .inr hcase

/-- The first character of an upper case is its own upper case. -/
theorem toUpper_head {c d : Char} {ds : List Char} (h : toUpper c = d :: ds) : toUpper d = [d] := by
  obtain ⟨rfl, rfl⟩ | hupper | rfl := head_cases h
  · exact h
  · exact toUpper_of_isUpper hupper
  · obtain ⟨-, -, -, -, -, hkept, -⟩ := upper_map_fits
    exact hkept

/-- The upper case of a letter or a number starts with one. -/
theorem isAlphanumeric_head {c d : Char} {ds : List Char} (hc : isAlphanumeric c = true)
    (h : toUpper c = d :: ds) : isAlphanumeric d = true := by
  obtain ⟨rfl, -⟩ | hupper | rfl := head_cases h
  · exact hc
  · exact isAlphanumeric_of_isUpper hupper
  · obtain ⟨-, -, -, -, -, -, hletter⟩ := upper_map_fits
    exact hletter

/-- The capital form of a character is never empty. -/
theorem toUpper_ne_nil (c : Char) : toUpper c ≠ [] := by
  obtain h | ⟨d, ds, h, -⟩ := toUpper_cases c <;> simp [h]

/-! ## What a case map keeps -/

/-- An upper case that starts with its character is that character. -/
theorem toUpper_append_eq_cons {c : Char} {r r' : List Char} :
    toUpper c ++ r = c :: r' ↔ toUpper c = [c] ∧ r = r' := by
  constructor
  · intro h
    obtain ⟨d, ds, hd⟩ := List.exists_cons_of_ne_nil (toUpper_ne_nil c)
    have hc : toUpper c = [c] := by
      have hdc : d = c := by
        rw [hd, List.cons_append, List.cons.injEq] at h
        exact h.1
      exact toUpper_head (hdc ▸ hd)
    rw [hc, List.cons_append, List.cons.injEq] at h
    exact ⟨hc, h.2⟩
  · rintro ⟨hc, rfl⟩
    rw [hc]
    rfl

/-- A lower case that starts with its character is that character. -/
theorem toLower_append_eq_cons {c : Char} {r r' : List Char} :
    toLower c ++ r = c :: r' ↔ toLower c = [c] ∧ r = r' := by
  constructor
  · intro h
    have hc : toLower c = [c] := by
      rw [toLower] at h ⊢
      split_ifs at h ⊢ with hascii
      · rw [List.cons_append, List.cons.injEq] at h
        rw [h.1]
      · obtain hkept | ⟨ns, hns, hns'⟩ | ⟨s, -, -, hs⟩ :=
          mapCase_cases lowerExpansions lowerShifts c
        · exact hkept
        · -- the one expansion starts with a letter of ASCII
          simp only [lowerExpansions, List.mem_singleton, Prod.mk.injEq] at hns
          rw [hns', hns.2, List.map_cons, List.cons_append, List.cons.injEq] at h
          rw [← h.1] at hascii
          exact absurd (by decide) hascii
        · rw [hs, List.cons_append, List.cons.injEq] at h
          rw [hs, h.1]
    rw [hc, List.cons_append, List.cons.injEq] at h
    exact ⟨hc, h.2⟩
  · rintro ⟨hc, rfl⟩
    rw [hc]
    rfl

end ProtoRest.Text
