import Mathlib.Tactic.FinCases
import Mathlib.Tactic.SplitIfs
import ProtoRest.Code.Token
import ProtoRest.Proofs.Text.Words

/-! # Names and numbers in code
What the tokens of code make of a name of the schema language before a **border**: a colon, a comma,
an angle bracket or the end. No quoted text starts there (`afterQuotes?_of_quiet`), and what
a number takes off does not depend on what follows (`afterNumber?_append`): it takes the whole name
or nothing (`afterNumber?_eq_nil`). -/

namespace ProtoRest.Code

open ProtoRest.Text ProtoRest.Schema

/-! ## Names and what follows them -/

/-- A colon, a comma or an angle bracket: what can follow a name in the text of a type. -/
def isBorder (c : Char) : Bool := c == ':' || c == ',' || c == '<' || c == '>'

/-- Whether a text is at its end or goes on with a border. -/
def AtBorder (cs : List Char) : Prop := ∀ c ∈ cs.head?, isBorder c = true

/-- A border is a colon, a comma or an angle bracket. -/
theorem isBorder_cases {c : Char} (h : isBorder c = true) :
    c = ':' ∨ c = ',' ∨ c = '<' ∨ c = '>' := by
  simpa [isBorder, or_assoc] using h

/-- No border is a character of names. -/
theorem isNameChar_of_isBorder {c : Char} (h : isBorder c = true) : isNameChar c = false := by
  obtain rfl | rfl | rfl | rfl := isBorder_cases h <;> decide

/-- A text of one class is dropped from the front, up to what follows it. -/
theorem dropWhile_append_of_all {p : Char → Bool} {w rest : List Char} (hw : ∀ c ∈ w, p c = true)
    (hrest : ∀ c ∈ rest.head?, p c = false) : (w ++ rest).dropWhile p = rest := by
  rw [List.dropWhile_append_of_pos hw]
  cases rest with
  | nil => rfl
  | cons c cs => rw [List.dropWhile_cons_of_neg (by simp [hrest c rfl])]

/-- A text in which no quote and no number sign comes before the first border. -/
def Quiet (cs : List Char) : Prop := AtBorder (cs.dropWhile isNameChar)

/-- Names and a border behind them are quiet. -/
theorem Quiet.append {w rest : List Char} (hw : ∀ c ∈ w, isNameChar c = true)
    (hrest : AtBorder rest) : Quiet (w ++ rest) := by
  rwa [Quiet, dropWhile_append_of_all hw fun c hc => isNameChar_of_isBorder (hrest c hc)]

/-- What follows a character of names in a quiet text is quiet. -/
theorem Quiet.tail {c : Char} {cs : List Char} (hc : isNameChar c = true) (h : Quiet (c :: cs)) :
    Quiet cs := by
  rwa [Quiet, List.dropWhile_cons_of_pos hc] at h

/-- A quiet text starts with a character of names or a border. -/
theorem Quiet.head {c : Char} {cs : List Char} (h : Quiet (c :: cs)) :
    isNameChar c = true ∨ isBorder c = true := by
  cases hc : isNameChar c with
  | true => exact .inl rfl
  | false =>
    rw [Quiet, List.dropWhile_cons_of_neg (by simp [hc])] at h
    exact .inr (h c rfl)

/-! ## Words -/

/-- No quoted text starts with names and borders. -/
theorem afterQuotes?_of_quiet {cs : List Char} (h : Quiet cs) : afterQuotes? cs = none := by
  have hraw (kind : QuoteKind) {cs : List Char} (h : Quiet cs) :
      afterRawOpening? kind cs = none := by
    cases cs with
    | nil => rfl
    | cons c cs =>
      have hmark : (c == '#') = false := by
        rw [beq_eq_false_iff_ne]
        rintro rfl
        exact absurd h.head (by decide)
      have hquote : c ≠ '"' := by
        rintro rfl
        exact absurd h.head (by decide)
      simp [afterRawOpening?, hmark, hquote]
  -- every opening has a quote or a hash mark among its first characters
  fun_cases afterQuotes? cs with
  | case1 => exact absurd h.head (by decide)
  | case2 cs => exact hraw _ (h.tail (by decide))
  | case3 => exact absurd (h.tail (by decide)).head (by decide)
  | case4 cs => exact hraw _ ((h.tail (by decide)).tail (by decide))
  | case5 => exact absurd (h.tail (by decide)).head (by decide)
  | case6 cs => exact hraw _ ((h.tail (by decide)).tail (by decide))
  | case7 => exact absurd (h.tail (by decide)).head (by decide)
  | case8 => exact absurd h.head (by decide)
  | case9 => rfl

/-- Nothing that makes a name part of a literal starts with names and borders. -/
theorem literalPrefixes_of_quiet {cs : List Char} (h : Quiet cs) :
    (literalPrefixes.any fun p => p.toList.isPrefixOf cs) = false := by
  rw [List.any_eq_false]
  intro p hp hprefix
  obtain ⟨rest, rfl⟩ := List.isPrefixOf_iff_prefix.mp hprefix
  fin_cases hp <;>
    exact absurd (h _ rfl) (by decide)

/-- A digit of a base above ten is no digit of a whole number. -/
theorem ten_le_of_hexValue? {c : Char} (hc : isNameChar c = true) :
    c.isDigit = false → ∀ d ∈ hexValue? c, 10 ≤ d :=
  forall_isNameChar (fun c => c.isDigit = false → ∀ d ∈ hexValue? c, 10 ≤ d) (by decide) hc

/-- A number starts with a digit. -/
theorem afterNumber?_of_not_digit {c : Char} {cs : List Char} (hname : isNameChar c = true)
    (hc : c.isDigit = false) : afterNumber? (c :: cs) = none := by
  have hfraction : afterFraction? (c :: cs) = none := by
    simp [afterFraction?, hc]
  have hdigits : afterDigits? 10 false (c :: cs) = none := by
    rw [afterDigits?]
    cases hd : hexValue? c with
    | none => simp
    | some d => simp [Nat.not_lt.mpr (ten_le_of_hexValue? hname hc d hd)]
  -- the prefixes of other bases begin with a zero, which is a digit
  have hwhole : afterWhole? (c :: cs) = none := by
    have hzero : c ≠ '0' := by
      rintro rfl
      exact absurd hc (by decide)
    unfold afterWhole?
    split
    · simp_all
    · simp_all
    · simp_all
    · exact hdigits
  rw [afterNumber?, hfraction, hwhole]
  rfl

/-! ## Numbers before a border -/

section Numbers

variable {w rest : List Char}

/-- A class without borders is dropped from a text as if nothing followed its border. -/
theorem dropWhile_append_border {p : Char → Bool} (hp : ∀ c, isBorder c = true → p c = false)
    (hrest : AtBorder rest) : (w ++ rest).dropWhile p = w.dropWhile p ++ rest := by
  induction w with
  | nil =>
    cases rest with
    | nil => rfl
    | cons c cs => exact List.dropWhile_cons_of_neg (by simp [hp c (hrest c rfl)])
  | cons c w ih =>
    rw [List.cons_append, List.dropWhile_cons, List.dropWhile_cons]
    cases p c with
    | true => exact ih
    | false => rfl

/-- At a border an exponent ends, and needs a digit before. -/
theorem afterExponent?_border (hrest : AtBorder rest) (signed found : Bool) :
    afterExponent? signed found rest = if found then some rest else none := by
  cases rest with
  | nil => rfl
  | cons c cs => obtain rfl | rfl | rfl | rfl := isBorder_cases (hrest c rfl) <;> rfl

/-- What follows the border does not matter for an exponent. -/
theorem afterExponent?_append (hrest : AtBorder rest) (signed found : Bool) :
    afterExponent? signed found (w ++ rest) =
      (afterExponent? signed found w).map (· ++ rest) := by
  induction w generalizing signed found with
  | nil =>
    rw [List.nil_append, afterExponent?_border hrest, afterExponent?]
    cases found <;> rfl
  | cons c w ih =>
    rw [List.cons_append, afterExponent?, afterExponent?, ih, ih, ih]
    split_ifs <;> rfl

/-- At a border digits end, and one of them is needed. -/
theorem afterDigits?_border (hrest : AtBorder rest) (base : Nat) (found : Bool) :
    afterDigits? base found rest = if found then some rest else none := by
  cases rest with
  | nil => rfl
  | cons c cs => obtain rfl | rfl | rfl | rfl := isBorder_cases (hrest c rfl) <;> rfl

/-- What follows the border does not matter for digits. -/
theorem afterDigits?_append (hrest : AtBorder rest) (base : Nat) (found : Bool) :
    afterDigits? base found (w ++ rest) = (afterDigits? base found w).map (· ++ rest) := by
  induction w generalizing found with
  | nil =>
    rw [List.nil_append, afterDigits?_border hrest, afterDigits?]
    cases found <;> rfl
  | cons c w ih =>
    rw [List.cons_append, afterDigits?, afterDigits?, ih, ih]
    cases hexValue? c with
    | none => simp only; split_ifs <;> rfl
    | some d => simp only; split_ifs <;> rfl

/-- What follows the border does not matter for a whole number. -/
theorem afterWhole?_append (hrest : AtBorder rest) (hne : w ≠ []) :
    afterWhole? (w ++ rest) = (afterWhole? w).map (· ++ rest) := by
  obtain ⟨c, w, rfl⟩ := List.exists_cons_of_ne_nil hne
  -- two characters show the base of a number; a single one has none, also with a border after it
  cases w with
  | cons d w =>
    have hlong (base : Nat) : afterDigits? base false (w ++ rest) =
        (afterDigits? base false w).map (· ++ rest) := afterDigits?_append hrest base false
    have hten : afterDigits? 10 false (c :: d :: (w ++ rest)) =
        (afterDigits? 10 false (c :: d :: w)).map (· ++ rest) :=
      afterDigits?_append (w := c :: d :: w) hrest 10 false
    rw [List.cons_append, List.cons_append]
    unfold afterWhole?
    split <;> simp_all
  | nil =>
    have hshort (cs : List Char) (hcs : ∀ d ∈ cs.head?, d ≠ 'x' ∧ d ≠ 'o' ∧ d ≠ 'b') :
        afterWhole? (c :: cs) = afterDigits? 10 false (c :: cs) := by
      unfold afterWhole?
      split <;> simp_all
    have hborder : ∀ d ∈ rest.head?, d ≠ 'x' ∧ d ≠ 'o' ∧ d ≠ 'b' := by
      intro d hd
      obtain rfl | rfl | rfl | rfl := isBorder_cases (hrest d hd) <;> decide
    rw [List.cons_append, List.nil_append, hshort rest hborder, hshort [] (by simp)]
    exact afterDigits?_append (w := [c]) hrest 10 false

/-- What follows the border does not matter for a fraction. -/
theorem afterFraction?_append (hw : ∀ c ∈ w, isNameChar c = true) (hrest : AtBorder rest)
    (hne : w ≠ []) : afterFraction? (w ++ rest) = (afterFraction? w).map (· ++ rest) := by
  have hdrop : (w ++ rest).dropWhile isDigitPart = w.dropWhile isDigitPart ++ rest := by
    refine dropWhile_append_border (fun c hc => ?_) hrest
    obtain rfl | rfl | rfl | rfl := isBorder_cases hc <;> rfl
  rw [afterFraction?, afterFraction?, List.head?_append_of_ne_nil _ hne, hdrop]
  -- when digits take the whole name, what follows is a border and not a point
  cases hafter : w.dropWhile isDigitPart with
  | nil =>
    cases rest with
    | nil => split_ifs <;> rfl
    | cons c cs => obtain rfl | rfl | rfl | rfl := isBorder_cases (hrest c rfl) <;> split_ifs <;> rfl
  | cons c after =>
    have hc : isNameChar c = true :=
      hw c ((List.dropWhile_sublist isDigitPart).subset (hafter ▸ List.mem_cons_self))
    have hpoint : c ≠ '.' := by
      rintro rfl
      exact absurd hc (by decide)
    rw [List.cons_append]
    cases w.head?.any Char.isDigit with
    | false => rfl
    | true =>
      simp only [if_true]
      split
      · simp_all
      · split
        · rename_i heq
          obtain ⟨rfl, rfl⟩ := List.cons.inj heq
          split <;> simp_all [afterExponent?_append hrest]
        · simp_all

/-- What follows the border does not matter for a suffix. -/
theorem afterSuffix_append (hrest : AtBorder rest) :
    afterSuffix (w ++ rest) = afterSuffix w ++ rest := by
  cases w with
  | nil =>
    cases rest with
    | nil => rfl
    | cons c cs => obtain rfl | rfl | rfl | rfl := isBorder_cases (hrest c rfl) <;> rfl
  | cons c w =>
    have hdrop : (w ++ rest).dropWhile isIdentifierContinue =
        w.dropWhile isIdentifierContinue ++ rest := by
      refine dropWhile_append_border (fun c hc => ?_) hrest
      obtain rfl | rfl | rfl | rfl := isBorder_cases hc <;> rfl
    rw [afterSuffix, afterSuffix, List.cons_append, afterName?, afterName?, hdrop]
    split_ifs <;> rfl

/-- What follows the border does not matter for the suffix of a number. -/
theorem afterNumberSuffix_append (hrest : AtBorder rest) :
    afterNumberSuffix (w ++ rest) = (afterNumberSuffix w).map (· ++ rest) := by
  have hborder : rest.head?.any isIdentifierContinue = false := by
    cases rest with
    | nil => rfl
    | cons c cs => obtain rfl | rfl | rfl | rfl := isBorder_cases (hrest c rfl) <;> rfl
  rw [afterNumberSuffix, afterNumberSuffix, afterSuffix_append hrest]
  cases afterSuffix w with
  | nil => simp [hborder]
  | cons c after =>
    cases hc : isIdentifierContinue c with
    | true => simp [hc]
    | false => simp [hc]

/-- What a number takes off a name does not depend on what follows the name. -/
theorem afterNumber?_append (hw : ∀ c ∈ w, isNameChar c = true) (hrest : AtBorder rest)
    (hne : w ≠ []) : afterNumber? (w ++ rest) = (afterNumber? w).map (· ++ rest) := by
  have hbind (x : Option (List Char)) :
      (x.map (· ++ rest)).bind afterNumberSuffix = (x.bind afterNumberSuffix).map (· ++ rest) := by
    cases x with
    | none => rfl
    | some u => exact afterNumberSuffix_append hrest
  rw [afterNumber?, afterNumber?, afterFraction?_append hw hrest hne,
    afterWhole?_append hrest hne, hbind, hbind]
  cases (afterFraction? w).bind afterNumberSuffix <;> rfl

/-- What follows an exponent is the end of the text. -/
theorem afterExponent?_suffix {signed found : Bool} {u : List Char}
    (h : afterExponent? signed found w = some u) : u <:+ w := by
  fun_induction afterExponent? signed found w <;> grind

/-- What follows digits is the end of the text. -/
theorem afterDigits?_suffix {base : Nat} {found : Bool} {u : List Char}
    (h : afterDigits? base found w = some u) : u <:+ w := by
  fun_induction afterDigits? base found w <;> grind

/-- What follows a fraction is the end of the text. -/
theorem afterFraction?_suffix (hpoint : '.' ∉ w) {u : List Char} (h : afterFraction? w = some u) :
    u <:+ w := by
  have hdrop : w.dropWhile isDigitPart <:+ w := List.dropWhile_suffix _
  unfold afterFraction? at h
  simp only at h
  split_ifs at h
  split at h
  · rename_i heq
    exact absurd (hdrop.subset (heq ▸ List.mem_cons_self)) hpoint
  · split at h
    · rename_i c cs heq
      split_ifs at h
      exact (afterExponent?_suffix h).trans ((List.suffix_cons c cs).trans (heq ▸ hdrop))
    · cases h

/-- What follows a whole number is the end of the text. -/
theorem afterWhole?_suffix {u : List Char} (h : afterWhole? w = some u) : u <:+ w := by
  have hskip (c d : Char) (cs : List Char) : cs <:+ c :: d :: cs :=
    (List.suffix_cons d cs).trans (List.suffix_cons c (d :: cs))
  unfold afterWhole? at h
  split at h
  · exact (afterDigits?_suffix h).trans (hskip _ _ _)
  · exact (afterDigits?_suffix h).trans (hskip _ _ _)
  · exact (afterDigits?_suffix h).trans (hskip _ _ _)
  · exact afterDigits?_suffix h

/-- A number that stands at the start of a name takes all of it. -/
theorem afterNumber?_eq_nil (hw : ∀ c ∈ w, isNameChar c = true) {u : List Char}
    (h : afterNumber? w = some u) : u = [] := by
  -- a character left after the suffix would continue a name, and no number ends there
  have hend {v : List Char} (hv : v <:+ w) (h : afterNumberSuffix v = some u) : u = [] := by
    rw [afterNumberSuffix] at h
    have hsuffix : afterSuffix v <:+ v := by
      cases v with
      | nil => exact List.suffix_rfl
      | cons c v =>
        rw [afterSuffix, afterName?]
        split_ifs
        · exact (List.dropWhile_suffix _).trans (List.suffix_cons c v)
        · exact List.suffix_rfl
    split_ifs at h with hnext
    obtain rfl := Option.some.inj h
    cases hafter : afterSuffix v with
    | nil => rfl
    | cons c after =>
      have hc := hw c (hv.subset (hsuffix.subset (hafter ▸ List.mem_cons_self)))
      rw [hafter, List.head?_cons, Option.any_some, isIdentifierContinue_of_isNameChar hc] at hnext
      exact absurd rfl hnext
  rw [afterNumber?] at h
  cases hfraction : (afterFraction? w).bind afterNumberSuffix with
  | some v =>
    rw [hfraction] at h
    obtain rfl := Option.some.inj h
    obtain ⟨v', hv', hv⟩ := Option.bind_eq_some_iff.mp hfraction
    exact hend (afterFraction?_suffix (fun h => absurd (hw _ h) (by decide)) hv') hv
  | none =>
    rw [hfraction] at h
    obtain ⟨v', hv', hv⟩ := Option.bind_eq_some_iff.mp h
    exact hend (afterWhole?_suffix hv') hv

end Numbers

end ProtoRest.Code
