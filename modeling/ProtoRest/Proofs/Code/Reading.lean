import ProtoRest.Code.PathText
import ProtoRest.Code.ReadStmt

/-! # Reading paths
What readers make of tokens, step by step: `Reads` says which result a reader gives and which tokens
it leaves, and `Rejects` that it gives none. Both go through the steps of a reader in the same way.
The segments of a path are read as long as each is a word that can be a step (`reads_segments`), and
the first one that is none ends the reading (`rejects_segments`). -/

namespace ProtoRest.Code

open Read Readers

/-- A reader gives a result for tokens and leaves others. -/
def Reads {α : Type} (left : Option Char) (r : Read α) (ts : List Token) (a : α)
    (rest : List Token) : Prop :=
  r ⟨ts, left⟩ = .ok (a, ⟨rest, left⟩)

/-- A reader gives no result for tokens. -/
def Rejects {α : Type} (left : Option Char) (r : Read α) (ts : List Token) : Prop :=
  ∃ fault, r ⟨ts, left⟩ = .error fault

variable {α β : Type} {left : Option Char} {ts mid rest : List Token} {a : α} {b : β}

/-! ## Steps of readers -/

namespace Reads

/-- A result that is given at once leaves all tokens. -/
theorem pure (a : α) : Reads left (Pure.pure a) ts a ts := rfl

/-- A reader and the one behind it give the result of the second, where each leaves what the next
one reads. -/
theorem bind {x : Read α} {f : α → Read β} (hx : Reads left x ts a mid)
    (hf : Reads left (f a) mid b rest) : Reads left (x >>= f) ts b rest := by
  show (x ⟨ts, left⟩ >>= fun p => f p.1 p.2) = _
  rw [hx]
  exact hf

/-- To look at the tokens takes none of them. -/
theorem get {f : Cursor → Read β} (h : Reads left (f ⟨ts, left⟩) ts b rest) :
    Reads left (MonadState.get >>= f) ts b rest := h

/-- A choice that holds reads as its first branch. -/
theorem ite_pos {c : Bool} {x y : Read α} (hc : c = true) (h : Reads left x ts a rest) :
    Reads left (if c then x else y) ts a rest := by
  rwa [if_pos hc]

/-- A choice that does not hold reads as its second branch. -/
theorem ite_neg {c : Bool} {x y : Read α} (hc : c = false) (h : Reads left y ts a rest) :
    Reads left (if c then x else y) ts a rest := by
  rwa [hc, if_neg Bool.false_ne_true]

end Reads

namespace Rejects

/-- A fault gives no result. -/
theorem throw (fault : SyntaxFault) : Rejects left (MonadExcept.throw fault : Read α) ts :=
  ⟨fault, rfl⟩

/-- A fault that says what is missing gives no result. -/
theorem expecting (what : List String) : Rejects left (Read.expecting what : Read α) ts := ⟨_, rfl⟩

/-- Where the first reader gives no result, the two of them give none. -/
theorem first {x : Read α} {f : α → Read β} (hx : Rejects left x ts) :
    Rejects left (x >>= f) ts := by
  obtain ⟨fault, hx⟩ := hx
  refine ⟨fault, ?_⟩
  show (x ⟨ts, left⟩ >>= fun p => f p.1 p.2) = _
  rw [hx]
  rfl

/-- Where the second reader gives no result for what is left, the two of them give none. -/
theorem after {x : Read α} {f : α → Read β} (hx : Reads left x ts a mid)
    (hf : Rejects left (f a) mid) : Rejects left (x >>= f) ts := by
  obtain ⟨fault, hf⟩ := hf
  refine ⟨fault, ?_⟩
  show (x ⟨ts, left⟩ >>= fun p => f p.1 p.2) = _
  rw [hx]
  exact hf

/-- To look at the tokens does not make up for a later fault. -/
theorem get {f : Cursor → Read β} (h : Rejects left (f ⟨ts, left⟩) ts) :
    Rejects left (MonadState.get >>= f) ts := h

/-- A choice that holds gives no result when its first branch gives none. -/
theorem ite_pos {c : Bool} {x y : Read α} (hc : c = true) (h : Rejects left x ts) :
    Rejects left (if c then x else y) ts := by
  rwa [if_pos hc]

/-- A choice that does not hold gives no result when its second branch gives none. -/
theorem ite_neg {c : Bool} {x y : Read α} (hc : c = false) (h : Rejects left y ts) :
    Rejects left (if c then x else y) ts := by
  rwa [hc, if_neg Bool.false_ne_true]

end Rejects

/-! ## Single tokens -/

/-- Any word is read where reserved words are allowed. -/
theorem reads_anyWord (w : String) : Reads left anyWord (.word w :: ts) w ts := rfl

/-- A word that is not reserved is read as an identifier. -/
theorem reads_ident {w : String} (hw : w ∉ reservedWords) :
    Reads left ident (.word w :: ts) w ts := by
  refine .get ?_
  simp only [hw, if_false]
  exact reads_anyWord w

/-- Marks that stand at the start are read. -/
theorem reads_mark {m : String} (h : startsMarks m.toList ts = true) :
    Reads left (mark m) ts () (ts.drop m.length) :=
  .get (.ite_pos h rfl)

/-- Marks that do not stand at the start are not read. -/
theorem rejects_mark {m : String} (h : startsMarks m.toList ts = false) :
    Rejects left (mark m) ts :=
  .get (.ite_neg h (.throw _))

/-- Marks that may be there are read where they are. -/
theorem reads_markIf {m : String} (h : startsMarks m.toList ts = true) :
    Reads left (markIf m) ts true (ts.drop m.length) :=
  .get (.ite_pos h (.bind rfl rfl))

/-- Marks that may be there are passed over where they are not. -/
theorem reads_markIf_not {m : String} (h : startsMarks m.toList ts = false) :
    Reads left (markIf m) ts false ts :=
  .get (.ite_neg h rfl)

/-- The fuel of a reader is one more than the tokens that are left. -/
theorem reads_fuel : Reads left fuel ts (ts.length + 1) ts := rfl

/-- Whether one of some words comes next is decided by the first word. -/
theorem startsWordOf_word (w : String) (words : List String) :
    (Cursor.mk (.word w :: ts) left).startsWordOf words = words.contains w := by
  rw [Cursor.startsWordOf, List.contains_eq_any_beq]
  exact congrArg words.any (funext fun v => by simp [Cursor.startsWord])

/-! ## Steps of paths -/

/-- Tokens that no angle bracket follows, right away or after a double colon. -/
def NoAngle (ts : List Token) : Prop :=
  startsMarks ['<'] ts = false ∧
    (startsMarks [':', ':'] ts && startsMarks ['<'] (ts.drop 2)) = false

/-- A word that can be a step is a segment, unless arguments follow. -/
theorem reads_segment {inner : Readers} {w : String} (hw : isStepWord w = true)
    (hts : NoAngle ts) : Reads left (inner.segment false) (.word w :: ts) (.plain w) ts := by
  have hangle : (!false && (Cursor.mk ts left).startsWith "<" &&
      !(Cursor.mk ts left).startsWith "<=" && !(Cursor.mk ts left).startsWith "<<=" ||
      (Cursor.mk ts left).startsWith "::" && ((Cursor.mk ts left).drop 2).startsWith "<") =
        false := by
    have hless : (Cursor.mk ts left).startsWith "<" = false := hts.1
    have hturbo : ((Cursor.mk ts left).startsWith "::" &&
      ((Cursor.mk ts left).drop 2).startsWith "<") = false := hts.2
    rw [hless, hturbo]
    rfl
  refine .get ?_
  -- the words for the root and for parents come first, then the own type, then any other name
  cases hfirst : ["super", "self", "crate", "try"].contains w with
  | true => exact .ite_pos ((startsWordOf_word w _).trans hfirst) (.bind (reads_anyWord w) rfl)
  | false =>
    refine .ite_neg ((startsWordOf_word w _).trans hfirst) (.get ?_)
    by_cases hself : w = "Self"
    · refine .ite_pos (by simp [Cursor.startsWord, hself]) ?_
      exact .bind (reads_anyWord w) (.get (.ite_neg hangle rfl))
    · refine .ite_neg (by simp [Cursor.startsWord, hself]) ?_
      refine .bind (reads_ident ?_) (.get (.ite_neg hangle rfl))
      intro hreserved
      simp_all [isStepWord, stepWords]

/-- A token that is no step of a path. -/
def NoStep : Token → Prop
  | .word w => isStepWord w = false
  | .literal _ => True
  | .mark c _ => c ≠ '<'
  | .raw _ | .lifetime _ | .group _ _ => False

/-- What starts with no step is no segment. -/
theorem rejects_segment {inner : Readers} (hts : ∀ t ∈ ts.head?, NoStep t) :
    Rejects left (inner.segment false) ts := by
  refine .get ?_
  cases ts with
  | nil => exact .ite_neg rfl (.get (.ite_neg rfl (.first (.expecting _))))
  | cons t ts =>
    have ht := hts t rfl
    cases t with
    | word w =>
      -- a word that is no step is reserved, and none of those that are looked for
      have hw (words : List String) (hwords : ∀ v ∈ words, isStepWord v = true) :
          words.contains w = false := by
        rw [List.contains_eq_mem, decide_eq_false_iff_not]
        intro h
        exact absurd ((hwords w h).symm.trans ht) (by decide)
      have hself : (w == "Self") = false := by
        simpa using hw ["Self"] (by decide)
      have hreserved : w ∈ reservedWords := by
        refine Decidable.byContradiction fun h => ?_
        have ht : isStepWord w = false := ht
        simp [isStepWord, h] at ht
      refine .ite_neg ((startsWordOf_word w _).trans (hw _ (by decide))) (.get ?_)
      refine .ite_neg hself (.first (.get ?_))
      simp only [hreserved, if_true]
      exact .throw _
    | literal => exact .ite_neg rfl (.get (.ite_neg rfl (.first (.expecting _))))
    | mark => exact .ite_neg rfl (.get (.ite_neg rfl (.first (.expecting _))))
    | raw => exact ht.elim
    | lifetime => exact ht.elim
    | group => exact ht.elim

/-- Tokens are names, each with a double colon after it, and then others. -/
inductive StepsThen (tail : List Token) : List String → List Token → Prop
  | nil : StepsThen tail [] tail
  | cons {w : String} {ws : List String} {ts : List Token} (joint : Bool)
      (h : StepsThen tail ws ts) :
      StepsThen tail (w :: ws) (.word w :: .mark ':' true :: .mark ':' joint :: ts)

/-- Whether a path goes on with tokens. -/
def GoesOn (ts : List Token) : Prop :=
  startsMarks ['<'] ts = false ∧ ∀ left, (Cursor.mk ts left).startsGroup .round = false

/-- A path goes on before what is no step, since nothing there belongs to a segment. -/
theorem GoesOn.of_noStep (hts : ∀ t ∈ ts.head?, NoStep t) : GoesOn ts := by
  cases ts with
  | nil => exact ⟨rfl, fun _ => rfl⟩
  | cons t ts =>
    have ht := hts t rfl
    cases t with
    | word => exact ⟨rfl, fun _ => rfl⟩
    | literal => exact ⟨rfl, fun _ => rfl⟩
    | mark c joint => exact ⟨by simp [startsMarks, Ne.symm ht], fun _ => rfl⟩
    | raw => exact ht.elim
    | lifetime => exact ht.elim
    | group => exact ht.elim

/-- A path goes on before further steps when it does behind them. -/
theorem GoesOn.of_stepsThen {tail : List Token} {ws : List String} (h : StepsThen tail ws ts)
    (htail : GoesOn tail) : GoesOn ts := by
  cases h with
  | nil => exact htail
  | cons joint h => exact ⟨rfl, fun _ => rfl⟩

section Segments

variable {inner : Readers} {tail : List Token} {ws : List String}

/-- Reads the segments of a path without arguments after the name. -/
def pathSegments (inner : Readers) (fuel : Nat) : Read (List Segment) :=
  inner.segments (!·.startsGroup .round) false fuel

/-- The steps of a path are segments, and the segments behind them follow. -/
theorem reads_pathSegments (h : StepsThen tail ws ts) (htail : GoesOn tail)
    (hws : ∀ w ∈ ws, isStepWord w = true) {n : Nat} {segments : List Segment}
    (hread : Reads left (pathSegments inner n) tail segments rest) :
    Reads left (pathSegments inner (n + ws.length)) ts (ws.map .plain ++ segments) rest := by
  induction h with
  | nil => exact hread
  | @cons w ws ts joint h ih =>
    have hon := GoesOn.of_stepsThen h htail
    refine .bind (reads_segment (hws w List.mem_cons_self) ⟨rfl, by simpa [startsMarks] using hon.1⟩) ?_
    refine .get (.ite_pos ?_ ?_)
    · simp [Cursor.startsWith, startsMarks, Cursor.drop, hon.2]
    · exact .bind (reads_mark rfl)
        (.bind (ih fun w hw => hws w (List.mem_cons_of_mem _ hw)) rfl)

/-- Steps with a fault behind them are no path. -/
theorem rejects_pathSegments (h : StepsThen tail ws ts) (htail : GoesOn tail)
    (hws : ∀ w ∈ ws, isStepWord w = true) {n : Nat}
    (hread : Rejects left (pathSegments inner n) tail) :
    Rejects left (pathSegments inner (n + ws.length)) ts := by
  induction h with
  | nil => exact hread
  | @cons w ws ts joint h ih =>
    have hon := GoesOn.of_stepsThen h htail
    refine .after (reads_segment (hws w List.mem_cons_self) ⟨rfl, by simpa [startsMarks] using hon.1⟩) ?_
    refine .get (.ite_pos ?_ ?_)
    · simp [Cursor.startsWith, startsMarks, Cursor.drop, hon.2]
    · exact .after (reads_mark rfl)
        (.first (ih fun w hw => hws w (List.mem_cons_of_mem _ hw)))

end Segments

/-! ## Paths -/

/-- Whether tokens end, or go on after a type in a list of arguments. -/
def Stops (ts : List Token) : Prop :=
  ∀ t ∈ ts.head?, ∃ joint, t = .mark ',' joint ∨ t = .mark '>' joint

/-- Where a type stops, only a comma or an angle bracket can come next. -/
theorem Stops.startsMarks {c : Char} {cs : List Char} (h : Stops ts)
    (hc : c ≠ ',' ∧ c ≠ '>') : startsMarks (c :: cs) ts = false := by
  cases ts with
  | nil => cases cs <;> rfl
  | cons t ts =>
    obtain ⟨joint, rfl | rfl⟩ := h t rfl
    · cases cs <;> simp [Code.startsMarks, hc.1]
    · cases cs <;> simp [Code.startsMarks, hc.2]

/-- Where a type stops, no other marks come next. -/
theorem Stops.startsWith (h : Stops ts) {m : String} {c : Char} {cs : List Char}
    (hm : m.toList = c :: cs) (hc : c ≠ ',' ∧ c ≠ '>') :
    (Cursor.mk ts left).startsWith m = false := by
  rw [Cursor.startsWith, hm]
  exact h.startsMarks hc

/-- Where a type stops, no arguments follow. -/
theorem Stops.noAngle (h : Stops ts) : NoAngle ts := by
  refine ⟨h.startsMarks (by decide), ?_⟩
  rw [h.startsMarks (by decide)]
  rfl

/-- Where a type stops, no brackets follow. -/
theorem Stops.startsGroup (h : Stops ts) (b : Bracket) :
    (Cursor.mk ts left).startsGroup b = false := by
  cases ts with
  | nil => rfl
  | cons t ts => obtain ⟨joint, rfl | rfl⟩ := h t rfl <;> rfl

/-- What a reader does behind another one, as an equation. -/
theorem bind_eq {x : Read α} {f : α → Read β} (hx : Reads left x ts a mid) :
    (x >>= f) ⟨ts, left⟩ = f a ⟨mid, left⟩ := by
  show (x ⟨ts, left⟩ >>= fun p => f p.1 p.2) = _
  rw [hx]
  rfl

/-- What a reader does with the tokens that it looks at, as an equation. -/
theorem get_eq {f : Cursor → Read β} : (MonadState.get >>= f) ⟨ts, left⟩ = f ⟨ts, left⟩ ⟨ts, left⟩ :=
  rfl

/-- A choice that holds is its first branch, as an equation. -/
theorem ite_eq_pos {c : Bool} {x y : Read α} {s : Cursor} (hc : c = true) :
    (if c then x else y) s = x s := by
  rw [if_pos hc]

/-- A choice that does not hold is its second branch, as an equation. -/
theorem ite_eq_neg {c : Bool} {x y : Read α} {s : Cursor} (hc : c = false) :
    (if c then x else y) s = y s := by
  rw [hc, if_neg Bool.false_ne_true]

section Paths

variable {inner : Readers} {tail : List Token} {ws : List String} {w : String}

/-- Each step takes a token at least. -/
theorem StepsThen.length_le (h : StepsThen tail ws ts) : ws.length + tail.length ≤ ts.length := by
  induction h with
  | nil => simp
  | cons joint h ih => simp only [List.length_cons]; omega

/-- More tokens behind do not change the steps. -/
theorem StepsThen.append (h : StepsThen tail ws ts) (more : List Token) :
    StepsThen (tail ++ more) ws (ts ++ more) := by
  induction h with
  | nil => exact .nil
  | cons joint h ih => exact .cons joint ih

/-- Steps with a last segment behind them are the segments of a path. -/
theorem reads_segments (h : StepsThen tail ws ts) (htail : GoesOn tail)
    (hws : ∀ w ∈ ws, isStepWord w = true) {segment : Segment}
    (hlast : Reads left (inner.segment false) tail segment rest) (hrest : Stops rest) {n : Nat}
    (hn : ts.length < n + tail.length) :
    Reads left (pathSegments inner n) ts (ws.map .plain ++ [segment]) rest := by
  have hlength := h.length_le
  obtain ⟨k, rfl⟩ : ∃ k, n = k + 1 + ws.length := ⟨n - 1 - ws.length, by omega⟩
  refine reads_pathSegments h htail hws (.bind hlast (.get (.ite_neg ?_ rfl)))
  rw [hrest.startsWith rfl (by decide)]
  rfl

/-- Steps with no segment behind them are no path. -/
theorem rejects_segments (h : StepsThen tail ws ts) (htail : GoesOn tail)
    (hws : ∀ w ∈ ws, isStepWord w = true)
    (hlast : Rejects left (inner.segment false) tail) {n : Nat}
    (hn : ts.length < n + tail.length) : Rejects left (pathSegments inner n) ts := by
  have hlength := h.length_le
  obtain ⟨k, rfl⟩ : ∃ k, n = k + 1 + ws.length := ⟨n - 1 - ws.length, by omega⟩
  exact rejects_pathSegments h htail hws (.first hlast)

/-- A path is read from its root mark, its steps and its last segment. -/
theorem reads_path {rooted : Bool} {all : List Token} (hroot : Reads left (markIf "::") all rooted ts)
    (h : StepsThen tail ws ts) (htail : GoesOn tail) (hws : ∀ w ∈ ws, isStepWord w = true)
    {segment : Segment} (hlast : Reads left (inner.segment false) tail segment rest)
    (hrest : Stops rest) (hne : tail ≠ []) :
    Reads left (inner.path false) all (.mk rooted (ws.map .plain ++ [segment])) rest := by
  have hpos := List.length_pos_iff.mpr hne
  exact .bind hroot (.bind reads_fuel
    (.bind (reads_segments h htail hws hlast hrest (by omega)) rfl))

/-- Without a last segment there is no path. -/
theorem rejects_path {rooted : Bool} {all : List Token}
    (hroot : Reads left (markIf "::") all rooted ts) (h : StepsThen tail ws ts)
    (htail : GoesOn tail) (hws : ∀ w ∈ ws, isStepWord w = true)
    (hlast : Rejects left (inner.segment false) tail) : Rejects left (inner.path false) all := by
  exact .after hroot (.after reads_fuel (.first (rejects_segments h htail hws hlast (by omega))))

/-! ## Types that are paths -/

/-- What starts with no angle bracket and is read as a path is the type of that name. -/
theorem reads_namedTy {path : Path} (hts : startsMarks ['<'] ts = false)
    (hpath : Reads left (inner.path false) ts path rest) (hrest : Stops rest) :
    Reads left (inner.namedTy true none) ts (.path path) rest := by
  have hpathTy : Reads left (inner.pathTy false) ts (.path path) rest :=
    .bind (reads_markIf_not hts) (.bind hpath rfl)
  have hbang : (Cursor.mk rest left).startsBang = false := by
    rw [Cursor.startsBang, hrest.startsWith rfl (by decide)]
    rfl
  have hplus : (Cursor.mk rest left).startsWith "+" = false := hrest.startsWith rfl (by decide)
  refine .bind hpathTy (.get ?_)
  rw [hbang]
  cases path.plain? with
  | none => exact .ite_neg (by rw [hplus]; rfl) rfl
  | some name => exact .ite_neg (by rw [hplus]; rfl) rfl

/-- What starts with no angle bracket and is no path is no type. -/
theorem rejects_namedTy (hts : startsMarks ['<'] ts = false)
    (hpath : Rejects left (inner.path false) ts) : Rejects left (inner.namedTy true none) ts :=
  .first (.after (reads_markIf_not hts) (.first hpath))

/-- A type that starts with a word that can start a path is a path. -/
theorem readTy_of_word (hw : isFirstWord w = true) (hts : startsMarks ['#'] ts = false) :
    inner.readTy true ⟨.word w :: ts, left⟩ = inner.namedTy true none ⟨.word w :: ts, left⟩ := by
  have hother (words : List String) (hwords : ∀ v ∈ words, isFirstWord v = false) :
      words.contains w = false := by
    rw [List.contains_eq_mem, decide_eq_false_iff_not]
    intro h
    exact absurd ((hwords w h).symm.trans hw) (by decide)
  have hfor : (w == "for") = false := by simpa using hother ["for"] (by decide)
  have hbinder : Reads left inner.binderIf (.word w :: ts) none (.word w :: ts) :=
    .get (.ite_neg hfor rfl)
  have hbuiltin : startsBuiltin (Cursor.mk (.word w :: ts) left) = false := by
    rw [startsBuiltin, Bool.and_eq_false_iff]
    exact .inr hts
  have hstarts : ((Cursor.mk (.word w :: ts) left).startsIdent ||
      (Cursor.mk (.word w :: ts) left).startsWordOf ["super", "self", "Self", "crate"]) = true := by
    rw [startsWordOf_word]
    simpa [isFirstWord, pathKeywords, Cursor.startsIdent] using hw
  -- none of the branches before that for paths is taken
  refine (bind_eq hbinder).trans ?_
  refine get_eq.trans ?_
  refine (ite_eq_neg rfl).trans ?_
  refine (ite_eq_neg rfl).trans ?_
  refine (ite_eq_neg ((startsWordOf_word w _).trans (hother _ (by decide)))).trans ?_
  refine (ite_eq_neg hbuiltin).trans ?_
  refine ite_eq_pos ?_
  rw [hstarts]
  rfl

/-- What starts with two colons is read as a type with a name. -/
theorem readTy_of_root {joint : Bool}  :
    (inner.readTy true) ⟨.mark ':' true :: .mark ':' joint :: ts, left⟩ =
      (inner.namedTy true none) ⟨.mark ':' true :: .mark ':' joint :: ts, left⟩ := rfl

end Paths

end ProtoRest.Code
