import ProtoRest.Code.PathText
import ProtoRest.Proofs.Code.Numbers

/-! # Tokens of code
A text `Lexes` to tokens when it starts with them, whatever follows: `Lexes.trans` puts such starts
together. Where no reader can go on, it is enough to know what the text `Halts` at, the first token
that is left, since what is read outside of all brackets stays at the front (`prefix_of_nest`). -/

namespace ProtoRest.Code

open ProtoRest.Text ProtoRest.Schema

/-! ## Single tokens -/

/-- A character of a name starts no mark. -/
theorem startsWithMark_of_isNameChar {c : Char} {cs : List Char} (hc : isNameChar c = true) :
    startsWithMark (c :: cs) = false := by
  have hmark : isMark c = false := forall_isNameChar (fun c => isMark c = false) (by decide) hc
  unfold startsWithMark
  split
  · rfl
  · rfl
  · simp_all
  · rfl

/-- No raw identifier starts with names and borders. -/
theorem identifier?_of_quiet {cs : List Char} (h : Quiet cs) :
    identifier? cs = (afterName? cs).map fun rest =>
      (.word (String.ofList (cs.take (cs.length - rest.length))), rest) := by
  unfold identifier?
  simp only
  split
  · exact absurd (h.tail (by decide)).head (by decide)
  · rw [Option.map_map]
    rfl

/-- A token that starts with a name is a number, or else a word. -/
theorem leaf?_of_quiet {c : Char} {cs : List Char} (hc : isNameChar c = true)
    (h : Quiet (c :: cs)) :
    leaf? (c :: cs) =
      match afterNumber? (c :: cs) with
      | some rest =>
        some (.literal (String.ofList ((c :: cs).take ((c :: cs).length - rest.length))), rest)
      | none =>
        (afterName? (c :: cs)).map fun rest =>
          (.word (String.ofList ((c :: cs).take ((c :: cs).length - rest.length))), rest) := by
  have hquote : c ≠ '\'' := by
    rintro rfl
    exact absurd hc (by decide)
  -- quoted texts and marks are tried too, and neither starts with a name
  unfold leaf?
  rw [afterLiteral?, afterQuotes?_of_quiet h]
  cases afterNumber? (c :: cs) with
  | some rest => rfl
  | none =>
    simp [startsWithMark_of_isNameChar hc, literalPrefixes_of_quiet h,
      identifier?_of_quiet h]

section Leaves

variable {w rest : List Char} (hw : ∀ c ∈ w, isNameChar c = true) (hrest : AtBorder rest)

/-- What was consumed is recovered from the lengths of a text and of its rest. -/
theorem take_append (w rest : List Char) : (w ++ rest).take ((w ++ rest).length - rest.length) = w := by
  rw [List.length_append, Nat.add_sub_cancel, List.take_left]

include hw hrest

/-- An identifier in front of a text is read as a word. -/
theorem leaf?_of_isIdentText (hident : isIdentText w = true) :
    leaf? (w ++ rest) = some (.word (String.ofList w), rest) := by
  have hquiet := Quiet.append hw hrest
  have htake := take_append w rest
  cases w with
  | nil => cases hident
  | cons c w =>
    have hc := hw c List.mem_cons_self
    rw [isIdentText, Bool.and_eq_true] at hident
    have hdigit : c.isDigit = false := by
      rw [isIdentifierStart_of_isNameChar hc] at hident
      simpa using hident.1
    have hafter : afterName? (c :: (w ++ rest)) = some rest := by
      rw [afterName?, if_pos hident.1, dropWhile_append_of_all]
      · exact fun d hd => isIdentifierContinue_of_isNameChar (hw d (List.mem_cons_of_mem c hd))
      · intro d hd
        obtain rfl | rfl | rfl | rfl := isBorder_cases (hrest d hd) <;> rfl
    rw [List.cons_append] at hquiet htake ⊢
    rw [leaf?_of_quiet hc hquiet, afterNumber?_of_not_digit hc hdigit, hafter]
    simp only [Option.map_some, htake]

/-- A word that begins with a digit is read as a literal, when it is a numeral, or refused. -/
theorem leaf?_of_digit {c : Char} (hhead : w.head? = some c) (hdigit : c.isDigit = true) :
    leaf? (w ++ rest) =
      if isNumeral w then some (.literal (String.ofList w), rest) else none := by
  have hquiet := Quiet.append hw hrest
  have htake := take_append w rest
  obtain ⟨w, rfl⟩ := List.head?_eq_some_iff.mp hhead
  have hc := hw c List.mem_cons_self
  have hnumber := afterNumber?_append hw hrest (List.cons_ne_nil c w)
  have hafter : afterName? (c :: (w ++ rest)) = none := by
    rw [afterName?, isIdentifierStart_of_isNameChar hc, hdigit]
    rfl
  rw [List.cons_append] at hquiet htake hnumber ⊢
  rw [leaf?_of_quiet hc hquiet, hnumber, hafter, isNumeral]
  -- a number that does not take the whole name leaves no token at all
  cases hown : afterNumber? (c :: w) with
  | none => rfl
  | some u =>
    obtain rfl := afterNumber?_eq_nil hw hown
    simp only [Option.map_some, List.nil_append, htake, Option.isSome_some, if_true]

end Leaves

/-- A border character is read as a mark that knows whether another follows at once. -/
theorem leaf?_mark {c : Char} {rest : List Char} (hc : isBorder c = true) :
    leaf? (c :: rest) = some (.mark c (startsWithMark rest), rest) := by
  obtain rfl | rfl | rfl | rfl := isBorder_cases hc <;> rfl

/-! ## Texts of tokens -/

/-- Whether a character starts a token that is no group, blank or comment. -/
def startsLeaf (c : Char) : Bool := isNameChar c || isBorder c

/-- A leaf starts with a character of a name or with one of four marks. -/
theorem startsLeaf_cases {c : Char} (h : startsLeaf c = true) :
    isNameChar c = true ∨ c = ':' ∨ c = ',' ∨ c = '<' ∨ c = '>' := by
  rw [startsLeaf, Bool.or_eq_true] at h
  exact h.imp_right isBorder_cases

/-- At the start of a leaf the reader takes the leaf and goes on behind it. -/
theorem flatTokens_leaf {fuel : Nat} {c : Char} {cs : List Char} (hc : startsLeaf c = true) :
    flatTokens (fuel + 1) (c :: cs) =
      match leaf? (c :: cs) with
      | none => none
      | some (token, rest) => (flatTokens fuel rest).map (.leaf token :: ·) := by
  -- whatever is tried before a leaf starts with another character
  have hspace : isSpace c = false := by
    obtain h | rfl | rfl | rfl | rfl := startsLeaf_cases hc
    · exact forall_isNameChar (fun c => isSpace c = false) (by decide) h
    all_goals decide
  have hslash : c ≠ '/' := by
    rintro rfl
    exact absurd hc (by decide)
  have hround : c ≠ '(' := by
    rintro rfl
    exact absurd hc (by decide)
  have hopening : openingOf c = none := by
    obtain h | rfl | rfl | rfl | rfl := startsLeaf_cases hc
    · exact forall_isNameChar (fun c => openingOf c = none) (by decide) h
    all_goals decide
  have hclosing : closingOf c = none := by
    obtain h | rfl | rfl | rfl | rfl := startsLeaf_cases hc
    · exact forall_isNameChar (fun c => closingOf c = none) (by decide) h
    all_goals decide
  have hcomment : afterComment? (c :: cs) = none := by
    unfold afterComment?
    split <;> simp_all
  have hdoc : docComment? (c :: cs) = none := by
    unfold docComment?
    split <;> simp_all
  have hplaceholder : afterPlaceholder? (c :: cs) = none := by
    simp [afterPlaceholder?, placeholder, hround.symm]
  rw [flatTokens]
  simp only [hspace, hcomment, hdoc, hplaceholder, hopening, hclosing]
  rfl

/-- A text starts with tokens, after which another text follows. -/
def Lexes (cs : List Char) (tokens : List Token) (rest : List Char) : Prop :=
  ∀ fuel, cs.length ≤ fuel → ∃ left flats, rest.length ≤ left ∧
    flatTokens fuel cs = (flatTokens left rest).map (flats ++ ·) ∧
    ∀ stack current more,
      nest stack current (flats ++ more) = nest stack (tokens.reverse ++ current) more

/-- A text ends, or it starts with no token or with one of some kind. -/
def Halts (p : Token → Prop) (cs : List Char) : Prop :=
  ∀ fuel flats, flatTokens fuel cs = some flats →
    flats = [] ∨ ∃ token more, flats = .leaf token :: more ∧ p token

namespace Lexes

variable {a b c : List Char} {ts us : List Token}

/-- Reading nothing gives no token. -/
theorem refl (a : List Char) : Lexes a [] a := by
  intro fuel hfuel
  refine ⟨fuel, [], hfuel, ?_, fun _ _ _ => rfl⟩
  cases flatTokens fuel a <;> rfl

/-- Reading on from where a reading stopped joins the tokens. -/
theorem trans (hab : Lexes a ts b) (hbc : Lexes b us c) : Lexes a (ts ++ us) c := by
  intro fuel hfuel
  obtain ⟨left, flats, hleft, hflat, hnest⟩ := hab fuel hfuel
  obtain ⟨left', flats', hleft', hflat', hnest'⟩ := hbc left hleft
  refine ⟨left', flats ++ flats', hleft', ?_, fun stack current more => ?_⟩
  · rw [hflat, hflat', Option.map_map]
    exact congrArg (Option.map · _) (funext fun _ => (List.append_assoc flats flats' _).symm)
  · rw [List.append_assoc, hnest, hnest', List.reverse_append, List.append_assoc]

/-- A leaf is read as its one token. -/
theorem leaf {c : Char} {cs rest : List Char} {token : Token} (hc : startsLeaf c = true)
    (hleaf : leaf? (c :: cs) = some (token, rest)) (hrest : rest.length ≤ cs.length) :
    Lexes (c :: cs) [token] rest := by
  intro fuel hfuel
  cases fuel with
  | zero => cases hfuel
  | succ fuel =>
    refine ⟨fuel, [.leaf token], hrest.trans (Nat.le_of_succ_le_succ hfuel), ?_, fun _ _ _ => ?_⟩
    · rw [flatTokens_leaf hc, hleaf]
      rfl
    · rw [List.cons_append, nest]
      rfl

/-- A blank is no token. -/
theorem blank (cs : List Char) : Lexes (' ' :: cs) [] cs := by
  intro fuel hfuel
  cases fuel with
  | zero => cases hfuel
  | succ fuel =>
    refine ⟨fuel, [], Nat.le_of_succ_le_succ hfuel, ?_, fun _ _ _ => rfl⟩
    rw [flatTokens, if_pos (by decide)]
    cases flatTokens fuel cs <;> rfl

/-- A border character is read as one mark. -/
theorem mark {c : Char} (hc : isBorder c = true) (cs : List Char) :
    Lexes (c :: cs) [.mark c (startsWithMark cs)] cs :=
  leaf (by simp [startsLeaf, hc]) (leaf?_mark hc) le_rfl

/-- An identifier in front of a border is read as one word. -/
theorem word {w rest : List Char} (hw : ∀ c ∈ w, isNameChar c = true) (hrest : AtBorder rest)
    (hident : isIdentText w = true) : Lexes (w ++ rest) [.word (String.ofList w)] rest := by
  have hleaf := leaf?_of_isIdentText hw hrest hident
  cases w with
  | nil => cases hident
  | cons c w =>
    refine leaf ?_ hleaf (by simp)
    simp [startsLeaf, hw c List.mem_cons_self]

/-- A numeral in front of a border is read as one literal. -/
theorem numeral {w rest : List Char} (hw : ∀ c ∈ w, isNameChar c = true) (hrest : AtBorder rest)
    {c : Char} (hhead : w.head? = some c) (hdigit : c.isDigit = true) (hnumeral : isNumeral w = true) :
    Lexes (w ++ rest) [.literal (String.ofList w)] rest := by
  have hleaf := leaf?_of_digit hw hrest hhead hdigit
  rw [if_pos hnumeral] at hleaf
  obtain ⟨w, rfl⟩ := List.head?_eq_some_iff.mp hhead
  refine leaf ?_ hleaf (by simp)
  simp [startsLeaf, hw c List.mem_cons_self]

/-- Two round brackets with nothing between them. -/
theorem unit (rest : List Char) : Lexes ('(' :: ')' :: rest) [.group .round []] rest := by
  intro fuel hfuel
  match fuel with
  | 0 | 1 => simp at hfuel
  | fuel + 2 =>
    refine ⟨fuel, [.opening .round, .closing .round], by simpa using hfuel, ?_, fun _ _ _ => ?_⟩
    · have hround : flatTokens (fuel + 2) ('(' :: ')' :: rest) =
          (flatTokens (fuel + 1) (')' :: rest)).map (.opening .round :: ·) := rfl
      have hclosing : flatTokens (fuel + 1) (')' :: rest) =
          (flatTokens fuel rest).map (.closing .round :: ·) := rfl
      rw [hround, hclosing, Option.map_map]
      rfl
    · simp [nest]

end Lexes

/-- The tokens of a text that is tokens to its end. -/
theorem tokenTree?_of_lexes {cs : List Char} {tokens : List Token} (h : Lexes cs tokens [])
    (hmark : cs.head? ≠ some '\ufeff') : tokenTree? cs = some tokens := by
  obtain ⟨left, flats, -, hflat, hnest⟩ := h cs.length le_rfl
  rw [tokenTree?, if_neg hmark, hflat]
  have hend : flatTokens left [] = some [] := by
    cases left <;> rfl
  have hnest := hnest [] [] []
  rw [List.append_nil, List.append_nil] at hnest
  rw [hend, Option.map_some, Option.bind_some, List.append_nil, hnest, nest, List.reverse_reverse]

/-- What is read outside of all brackets stays at the front. -/
theorem prefix_of_nest {stack : List (Bracket × List Token)} {current : List Token}
    {flats : List FlatToken} {all : List Token} (h : nest stack current flats = some all) :
    ((stack.getLast?.map (·.2)).getD current).reverse <+: all := by
  -- what is outside of all brackets is at the end of the stack, or current when the stack is empty
  fun_induction nest stack current flats with
  | case1 current =>
    obtain rfl := Option.some.inj h
    exact List.prefix_rfl
  | case2 => cases h
  | case3 stack current token rest ih =>
    have ih := ih h
    cases stack with
    | nil => exact ((List.prefix_append current.reverse [token]).trans (by simpa using ih))
    | cons open_ stack => simpa [List.getLast?_cons] using ih
  | case4 stack current b rest ih =>
    have ih := ih h
    cases stack with
    | nil => simpa using ih
    | cons open_ stack => simpa [List.getLast?_cons] using ih
  | case5 => cases h
  | case6 before stack current b rest ih =>
    have ih := ih h
    cases stack with
    | nil => exact ((List.prefix_append before.reverse _).trans (by simpa using ih))
    | cons open_ stack => simpa [List.getLast?_cons] using ih
  | case7 => cases h

/-- When a text has tokens, those that it starts with are the first ones, and the next one, if there
is one, is what the text halts at. -/
theorem tokenTree?_of_halts {p : Token → Prop} {cs rest : List Char} {tokens all : List Token}
    (h : Lexes cs tokens rest) (hrest : Halts p rest) (hmark : cs.head? ≠ some '\ufeff')
    (hall : tokenTree? cs = some all) :
    ∃ tail, all = tokens ++ tail ∧ ∀ token ∈ tail.head?, p token := by
  obtain ⟨left, flats, -, hflat, hnest⟩ := h cs.length le_rfl
  rw [tokenTree?, if_neg hmark, hflat] at hall
  obtain ⟨all', hall', hnested⟩ := Option.bind_eq_some_iff.mp hall
  obtain ⟨more, hmore, rfl⟩ := Option.map_eq_some_iff.mp hall'
  rw [hnest, List.append_nil] at hnested
  -- either no token is left, or the next one is one that the text halts at
  obtain rfl | ⟨token, more, rfl, htoken⟩ := hrest left more hmore
  · rw [nest, List.reverse_reverse, Option.some.injEq] at hnested
    exact ⟨[], by rw [hnested, List.append_nil], by simp⟩
  · rw [nest] at hnested
    obtain ⟨tail, htail⟩ := prefix_of_nest hnested
    refine ⟨token :: tail, ?_, ?_⟩
    · simpa using htail.symm
    · intro t ht
      obtain rfl := Option.some.inj ht
      exact htoken

end ProtoRest.Code
