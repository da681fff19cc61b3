import ProtoRest.Proofs.Code.CompleteSyntax
import ProtoRest.Proofs.Code.Tokens
import ProtoRest.Proofs.Code.TypeReading

/-! # Types written as paths
What the text of a path reads as, from its steps alone: `isTypePath` decides whether it is a type
(`isText_of_isTypePath`, `fails_of_not_isTypePath`). -/

namespace ProtoRest.Code

open ProtoRest.Text ProtoRest.Schema Read Readers

variable {left : Option Char} {ts tail rest : List Token} {ws : List String} {inner : Readers}

/-! ## Tokens of paths -/

/-- A word that can start a path can be a step of it. -/
theorem isStepWord_of_isFirstWord {w : String} (h : isFirstWord w = true) : isStepWord w = true := by
  simp only [isFirstWord, isStepWord, pathKeywords, stepWords] at *
  simp at *
  grind

/-- The type of a path of plain names. -/
def plainTy (rooted : Bool) (names : List String) : Ty := .path (.mk rooted (names.map .plain))

/-- Steps that are all right are read as a path of plain names. -/
theorem reads_plainPath {rooted : Bool} {all : List Token} {v : String}
    (hroot : Reads left (markIf "::") (all ++ rest) rooted (ts ++ rest))
    (h : StepsThen [.word v] ws ts) (hws : ∀ w ∈ ws, isStepWord w = true)
    (hv : isStepWord v = true) (hrest : Stops rest) :
    Reads left (inner.path false) (all ++ rest) (.mk rooted ((ws ++ [v]).map .plain)) rest := by
  have hlast : Reads left (inner.segment false) ([.word v] ++ rest) (.plain v) rest :=
    reads_segment hv hrest.noAngle
  have hpath := reads_path hroot (h.append rest) ⟨rfl, fun _ => rfl⟩ hws hlast hrest (by simp)
  rwa [List.map_append]

/-- Steps that are all right make no path when no step follows the last colons. -/
theorem rejects_plainPath {rooted : Bool} {all : List Token}
    (hroot : Reads left (markIf "::") (all ++ tail) rooted (ts ++ tail))
    (h : StepsThen [] ws ts) (hws : ∀ w ∈ ws, isStepWord w = true)
    (htail : ∀ t ∈ tail.head?, NoStep t) : Rejects left (inner.path false) (all ++ tail) :=
  rejects_path hroot (h.append tail) (GoesOn.of_noStep htail) hws (rejects_segment htail)

/-- What follows the first word of a path. -/
theorem StepsThen.cases {w : String} {tail : List Token}
    (h : StepsThen tail (w :: ws) ts) :
    ∃ joint more, ts = .word w :: .mark ':' true :: .mark ':' joint :: more ∧
      StepsThen tail ws more := by
  cases h with
  | cons joint h => exact ⟨joint, _, rfl, h⟩

/-- A reader gives no result where it does what another one does that gives none. -/
theorem Rejects.of_eq {α : Type} {r r' : Read α} {ts' : List Token}
    (heq : r ⟨ts, left⟩ = r' ⟨ts', left⟩) (h : Rejects left r' ts') : Rejects left r ts := by
  obtain ⟨fault, h⟩ := h
  exact ⟨fault, heq.trans h⟩

/-- Steps that are all right are read as a type. -/
theorem reads_readTy_path {v : String} (h : StepsThen [.word v] ws ts)
    (hws : ∀ w ∈ ws, isStepWord w = true) (hv : isStepWord v = true)
    (hfirst : ∀ w ∈ (ws ++ [v]).head?, isFirstWord w = true) (hrest : Stops rest) :
    Reads left (inner.readTy true) (ts ++ rest) (plainTy false (ws ++ [v])) rest := by
  -- a lone word is read as a path only when no mark follows it
  cases ws with
  | nil =>
    cases h
    have hpath : Reads left (inner.path false) ([.word v] ++ rest) _ rest :=
      reads_plainPath (reads_markIf_not rfl) .nil hws hv hrest
    refine (readTy_of_word (hfirst v rfl) ?_).trans (reads_namedTy rfl hpath hrest)
    exact hrest.startsMarks (by decide)
  | cons w ws =>
    obtain ⟨joint, more, rfl, -⟩ := h.cases
    have hpath : Reads left (inner.path false)
        (.word w :: .mark ':' true :: .mark ':' joint :: more ++ rest) _ rest :=
      reads_plainPath (reads_markIf_not rfl) h hws hv hrest
    exact (readTy_of_word (hfirst w rfl) rfl).trans (reads_namedTy rfl hpath hrest)

/-- Steps that are all right make no type when no step follows the last colons. -/
theorem rejects_readTy_path {w : String} (h : StepsThen [] (w :: ws) ts)
    (hws : ∀ v ∈ ws, isStepWord v = true) (hfirst : isFirstWord w = true)
    (htail : ∀ t ∈ tail.head?, NoStep t) :
    Rejects left (inner.readTy true) (ts ++ tail) := by
  obtain ⟨joint, more, rfl, -⟩ := h.cases
  have hpath : Rejects left (inner.path false)
      (.word w :: .mark ':' true :: .mark ':' joint :: more ++ tail) := by
    refine rejects_plainPath (reads_markIf_not rfl) h (fun v hv => ?_) htail
    obtain rfl | hv := List.mem_cons.mp hv
    · exact isStepWord_of_isFirstWord hfirst
    · exact hws v hv
  exact (rejects_namedTy rfl hpath).of_eq (readTy_of_word hfirst rfl)

section Root

variable {joint : Bool}

/-- Steps behind two colons are read as a path from the root. -/
theorem reads_rootPath {v : String} (h : StepsThen [.word v] ws ts)
    (hws : ∀ w ∈ ws, isStepWord w = true) (hv : isStepWord v = true) (hrest : Stops rest) :
    Reads left (inner.path false) (.mark ':' true :: .mark ':' joint :: ts ++ rest)
      (.mk true ((ws ++ [v]).map .plain)) rest :=
  reads_plainPath (reads_markIf rfl) h hws hv hrest

/-- Steps behind two colons make no path when no step follows the last colons. -/
theorem rejects_rootPath (h : StepsThen [] ws ts) (hws : ∀ w ∈ ws, isStepWord w = true)
    (htail : ∀ t ∈ tail.head?, NoStep t) :
    Rejects left (inner.path false) (.mark ':' true :: .mark ':' joint :: ts ++ tail) :=
  rejects_plainPath (reads_markIf rfl) h hws htail

/-- Steps behind two colons are read as a type. -/
theorem reads_readTy_root {v : String} (h : StepsThen [.word v] ws ts)
    (hws : ∀ w ∈ ws, isStepWord w = true) (hv : isStepWord v = true) (hrest : Stops rest) :
    Reads left (inner.readTy true) (.mark ':' true :: .mark ':' joint :: ts ++ rest)
      (plainTy true (ws ++ [v])) rest :=
  readTy_of_root.trans (reads_namedTy rfl (reads_rootPath h hws hv hrest) hrest)

/-- Steps behind two colons make no type when no step follows the last colons. -/
theorem rejects_readTy_root (h : StepsThen [] ws ts) (hws : ∀ w ∈ ws, isStepWord w = true)
    (htail : ∀ t ∈ tail.head?, NoStep t) :
    Rejects left (inner.readTy true) (.mark ':' true :: .mark ':' joint :: ts ++ tail) :=
  (rejects_namedTy rfl (rejects_rootPath h hws htail)).of_eq readTy_of_root

end Root

/-! ## Texts of steps -/

/-- What comes after the first step of a path. -/
def afterFirst (steps : List (List Char)) (rest : List Char) : List Char :=
  steps.foldr (fun step cs => ':' :: ':' :: step ++ cs) rest

/-- The text of a path is its first step and what comes after it. -/
theorem joinWith_cons (first : List Char) (steps : List (List Char)) (rest : List Char) :
    joinWith [':', ':'] (first :: steps) ++ rest = first ++ afterFirst steps rest := by
  induction steps generalizing first with
  | nil => rfl
  | cons step steps ih =>
    rw [joinWith, List.append_assoc, List.append_assoc, ih]
    · rfl
    · exact List.cons_ne_nil step steps

/-- What comes after the first step goes on with the text behind the path. -/
theorem afterFirst_append (steps : List (List Char)) (cs rest : List Char) :
    afterFirst steps cs ++ rest = afterFirst steps (cs ++ rest) := by
  induction steps with
  | nil => rfl
  | cons step steps ih =>
    show ':' :: ':' :: step ++ afterFirst steps cs ++ rest =
      ':' :: ':' :: step ++ afterFirst steps (cs ++ rest)
    rw [List.append_assoc, ih]

/-- A text is at its end, or goes on after a type in a list of arguments. -/
def AtStop (cs : List Char) : Prop := ∀ c ∈ cs.head?, c = ',' ∨ c = '>'

/-- A text is at its end, or goes on after a step of a path. -/
def AfterStep (cs : List Char) : Prop := ∀ c ∈ cs.head?, c = ':' ∨ c = ',' ∨ c = '>'

/-- No name goes on behind a step. -/
theorem AfterStep.atBorder {cs : List Char} (h : AfterStep cs) : AtBorder cs := by
  intro c hc
  obtain rfl | rfl | rfl := h c hc <;> rfl

/-- A path goes on with colons, or stops where the type does. -/
theorem AtStop.afterStep {cs : List Char} (h : AtStop cs) (steps : List (List Char)) :
    AfterStep (afterFirst steps cs) := by
  cases steps with
  | nil => exact fun c hc => .inr (h c hc)
  | cons step steps =>
    intro c hc
    exact .inl (Option.some.inj hc).symm

/-- The first step of a path ends where colons come, or where the path ends. -/
theorem atBorder_afterFirst (steps : List (List Char)) {cs : List Char} (h : AtBorder cs) :
    AtBorder (afterFirst steps cs) := by
  cases steps with
  | nil => exact h
  | cons step steps =>
    intro c hc
    obtain rfl := Option.some.inj hc
    rfl

/-- No name goes on where a type stops. -/
theorem AtStop.atBorder {cs : List Char} (h : AtStop cs) : AtBorder cs := (h.afterStep []).atBorder

/-- A text halts when the first token that is no group is of the kind. -/
theorem Halts.leaf {p : Token → Prop} {c : Char} {cs : List Char} (hc : startsLeaf c = true)
    (h : ∀ t rest, leaf? (c :: cs) = some (t, rest) → p t) : Halts p (c :: cs) := by
  intro fuel flats hflats
  cases fuel with
  | zero => cases hflats
  | succ fuel =>
    rw [flatTokens_leaf hc] at hflats
    cases hleaf : leaf? (c :: cs) with
    | none => rw [hleaf] at hflats; cases hflats
    | some found =>
      rw [hleaf] at hflats
      obtain ⟨more, -, rfl⟩ := Option.map_eq_some_iff.mp hflats
      exact .inr ⟨found.1, more, rfl, h _ _ hleaf⟩

/-- A text that ends halts. -/
theorem Halts.nil (p : Token → Prop) : Halts p [] := by
  intro fuel flats hflats
  cases fuel <;> exact .inl (Option.some.inj hflats).symm

/-- Behind a step a text halts at colons, a comma or an angle bracket. -/
theorem Halts.afterStep {p : Token → Prop} {cs : List Char} (h : AfterStep cs)
    (hp : ∀ c joint, c = ':' ∨ c = ',' ∨ c = '>' → p (.mark c joint)) : Halts p cs := by
  cases cs with
  | nil => exact .nil p
  | cons c cs =>
    have hc := h.atBorder c rfl
    refine .leaf (by simp [startsLeaf, hc]) fun t rest hleaf => ?_
    rw [leaf?_mark hc] at hleaf
    cases hleaf
    exact hp c _ (h c rfl)

/-- Where a type stops, a text halts at a comma or an angle bracket. -/
theorem Halts.stop {cs : List Char} (h : AtStop cs) :
    Halts (fun t => ∃ joint, t = .mark ',' joint ∨ t = .mark '>' joint) cs := by
  cases cs with
  | nil => exact .nil _
  | cons c cs =>
    have hc := h c rfl
    refine .leaf ?_ fun t rest hleaf => ?_
    · obtain rfl | rfl := hc <;> rfl
    · rw [leaf?_mark (h.atBorder c rfl)] at hleaf
      cases hleaf
      exact ⟨startsWithMark cs, by obtain rfl | rfl := hc <;> simp⟩

/-- A name that is no step of a path ends the reading of it. -/
theorem halts_of_not_isStep {step cs : List Char} (hname : ∀ c ∈ step, isNameChar c = true)
    (hstep : isStep step = false) (hcs : AfterStep cs) : Halts NoStep (step ++ cs) := by
  -- without characters the next token is a mark; else the first one tells a number from a word
  cases step with
  | nil =>
    refine .afterStep hcs fun c joint hc => (?_ : c ≠ '<')
    obtain rfl | rfl | rfl := hc <;> decide
  | cons c step =>
    have hc := hname c List.mem_cons_self
    rw [List.cons_append]
    refine .leaf (by simp [startsLeaf, hc]) fun t rest hleaf => ?_
    rw [← List.cons_append] at hleaf
    cases hdigit : c.isDigit with
    | true =>
      have hnumber := leaf?_of_digit hname hcs.atBorder rfl hdigit
      rw [hnumber] at hleaf
      split_ifs at hleaf
      cases hleaf
      trivial
    | false =>
      have hident : isIdentText (c :: step) = true := by
        rw [isIdentText, isIdentifierStart_of_isNameChar hc, hdigit]
        simpa using fun d hd => isIdentifierContinue_of_isNameChar (hname d (List.mem_cons_of_mem c hd))
      rw [leaf?_of_isIdentText hname hcs.atBorder hident] at hleaf
      cases hleaf
      rw [isStep, hident] at hstep
      exact hstep

/-- A list of names. -/
def AreNames (steps : List (List Char)) : Prop := ∀ step ∈ steps, ∀ c ∈ step, isNameChar c = true

section Steps

variable {steps : List (List Char)} {cs : List Char}

/-- Two colons are two marks, the first of them joined to the second. -/
theorem lexes_colons (cs : List Char) :
    Lexes (':' :: ':' :: cs) [.mark ':' true, .mark ':' (startsWithMark cs)] cs :=
  (Lexes.mark rfl (':' :: cs)).trans (Lexes.mark rfl cs)

/-- The tokens of steps that are all right. -/
theorem lexes_afterFirst (hnames : AreNames steps) (hsteps : ∀ s ∈ steps, isStep s = true)
    (hne : steps ≠ []) (hcs : AtBorder cs) :
    ∃ joint ws v ts, Lexes (afterFirst steps cs) (.mark ':' true :: .mark ':' joint :: ts) cs ∧
      StepsThen [.word v] ws ts ∧ ws ++ [v] = steps.map String.ofList := by
  -- the last word is kept apart, since a path may go on with brackets after it
  induction steps with
  | nil => exact absurd rfl hne
  | cons step steps ih =>
    have hname := hnames step List.mem_cons_self
    have hstep := hsteps step List.mem_cons_self
    rw [isStep, Bool.and_eq_true] at hstep
    have hword := (lexes_colons (step ++ afterFirst steps cs)).trans
      (Lexes.word hname (atBorder_afterFirst _ hcs) hstep.1)
    cases steps with
    | nil => exact ⟨_, [], _, _, hword, .nil, rfl⟩
    | cons next steps =>
      obtain ⟨joint, ws, v, ts, hlex, hthen, hnext⟩ :=
        ih (fun s hs => hnames s (List.mem_cons_of_mem _ hs))
          (fun s hs => hsteps s (List.mem_cons_of_mem _ hs)) (List.cons_ne_nil _ _)
      exact ⟨_, String.ofList step :: ws, v, _, hword.trans hlex, .cons joint hthen,
        congrArg _ hnext⟩

/-- The tokens of steps up to the first that is not all right. -/
theorem lexes_afterFirst_halts (hnames : AreNames steps) (hsteps : steps.all isStep = false)
    (hcs : AtStop cs) :
    ∃ joint ws ts more, Lexes (afterFirst steps cs) (.mark ':' true :: .mark ':' joint :: ts) more ∧
      StepsThen [] ws ts ∧ (∀ w ∈ ws, isStepWord w = true) ∧ Halts NoStep more := by
  -- the steps before the first one at fault are read, and the text halts at that one
  induction steps with
  | nil => cases hsteps
  | cons step steps ih =>
    have hname := hnames step List.mem_cons_self
    cases hstep : isStep step with
    | false =>
      exact ⟨_, [], _, _, lexes_colons _, .nil, by simp,
        halts_of_not_isStep hname hstep (hcs.afterStep _)⟩
    | true =>
      have hstep' := hstep
      rw [isStep, Bool.and_eq_true] at hstep'
      have hword := (lexes_colons (step ++ afterFirst steps cs)).trans
        (Lexes.word hname (hcs.afterStep _).atBorder hstep'.1)
      rw [List.all_cons, hstep, Bool.true_and] at hsteps
      obtain ⟨joint, ws, ts, more, hlex, hthen, hws, hmore⟩ :=
        ih (fun s hs => hnames s (List.mem_cons_of_mem _ hs)) hsteps
      refine ⟨_, String.ofList step :: ws, _, more, hword.trans hlex, .cons joint hthen, ?_, hmore⟩
      intro w hw
      obtain rfl | hw := List.mem_cons.mp hw
      · exact hstep'.2
      · exact hws w hw

end Steps

/-! ## Texts of types -/

/-- A text is a type, wherever a type can stand. -/
def IsType (depth : Nat) (text : List Char) (ty : Ty) : Prop :=
  ∀ cs, AtStop cs → ∃ t ts, Lexes (text ++ cs) (t :: ts) cs ∧ StartsType t ∧
    ∀ n, depth ≤ n → ∀ left rest, Stops rest →
      Reads left ((readers n).ty true) (t :: ts ++ rest) ty rest

/-- A text is no type, wherever a type can stand. -/
def NoType (depth : Nat) (text : List Char) : Prop :=
  ∀ cs, AtStop cs → ∃ p ts more, Lexes (text ++ cs) ts more ∧ Halts p more ∧
    ∀ n, depth ≤ n → ∀ left tail, (∀ t ∈ tail.head?, p t) →
      Rejects left ((readers n).ty true) (ts ++ tail)

/-- A text starts with a token of some kind and is no type. -/
def NoTypeFrom (start : Token → Prop) (text : List Char) : Prop :=
  ∀ cs, AtStop cs → ∃ p t ts more, Lexes (text ++ cs) (t :: ts) more ∧ start t ∧
    Halts p more ∧ ∀ inner left tail, (∀ t ∈ tail.head?, p t) →
      Rejects left (Readers.readTy inner true) (t :: ts ++ tail)

/-- What starts no type is none, however much fuel is left. -/
theorem rejects_ty (h : ∀ inner, Rejects left (Readers.readTy inner true) ts) (n : Nat) :
    Rejects left ((readers n).ty true) ts := by
  cases n with
  | zero => exact .expecting _
  | succ n => exact h (readers n)

/-- A text that is no type from its first token is none. -/
theorem NoTypeFrom.noType {start : Token → Prop} {text : List Char} (h : NoTypeFrom start text) :
    NoType 0 text := by
  intro cs hcs
  obtain ⟨p, t, ts, more, hlex, -, hmore, hread⟩ := h cs hcs
  exact ⟨p, t :: ts, more, hlex, hmore,
    fun n _ left tail htail => rejects_ty (fun inner => hread inner left tail htail) n⟩

/-- A text that is no type from a token of some kind is none from one of a wider kind. -/
theorem NoTypeFrom.imp {start start' : Token → Prop} {text : List Char}
    (himp : ∀ t, start t → start' t) (h : NoTypeFrom start text) : NoTypeFrom start' text := by
  intro cs hcs
  obtain ⟨p, t, ts, more, hlex, ht, hread⟩ := h cs hcs
  exact ⟨p, t, ts, more, hlex, himp t ht, hread⟩

/-- A text is a type when its tokens are read as one, whatever follows. -/
theorem IsType.of_readTy {text : List Char} {ty : Ty}
    (h : ∀ cs, AtStop cs → ∃ t ts, Lexes (text ++ cs) (t :: ts) cs ∧ StartsType t ∧
      ∀ inner left rest, Stops rest →
        Reads left (Readers.readTy inner true) (t :: ts ++ rest) ty rest) : IsType 1 text ty := by
  intro cs hcs
  obtain ⟨t, ts, hlex, ht, hread⟩ := h cs hcs
  refine ⟨t, ts, hlex, ht, fun n hn => ?_⟩
  obtain ⟨n, rfl⟩ := Nat.exists_eq_add_of_le' hn
  exact hread (readers n)

/-- More fuel does not change what a text is as a type. -/
theorem IsType.mono {depth depth' : Nat} {text : List Char} {ty : Ty} (h : IsType depth text ty)
    (hle : depth ≤ depth') : IsType depth' text ty := by
  intro cs hcs
  obtain ⟨t, ts, hlex, ht, hread⟩ := h cs hcs
  exact ⟨t, ts, hlex, ht, fun n hn => hread n (hle.trans hn)⟩

/-- More fuel does not make a text a type. -/
theorem NoType.mono {depth depth' : Nat} {text : List Char} (h : NoType depth text)
    (hle : depth ≤ depth') : NoType depth' text := by
  intro cs hcs
  obtain ⟨p, ts, more, hlex, hmore, hread⟩ := h cs hcs
  exact ⟨p, ts, more, hlex, hmore, fun n hn => hread n (hle.trans hn)⟩

/-- A word that can start a path can start a type. -/
theorem startsType_of_isFirstWord {w : String} (hw : isFirstWord w = true) :
    StartsType (.word w) := by
  constructor <;> (rintro rfl; exact absurd hw (by decide))

section First

variable {first : List Char} {steps : List (List Char)}

/-- The type of a path of plain names has a layout. -/
theorem isComplete_plainTy (rooted : Bool) (names : List String) (inExpr : Bool) :
    isComplete ((plainTy rooted names).pieces inExpr) = true := by
  simp [plainTy]

/-- Each step that is all right is a word that can be one. -/
theorem isStepWord_of_mem_map (hsteps : ∀ s ∈ steps, isStep s = true) {w : String}
    (hw : w ∈ steps.map String.ofList) : isStepWord w = true := by
  obtain ⟨s, hs, rfl⟩ := List.mem_map.mp hw
  have hstep := hsteps s hs
  rw [isStep, Bool.and_eq_true] at hstep
  exact hstep.2

/-- Steps that start with a word are a type. -/
theorem isType_of_isFirstWord (hnames : AreNames (first :: steps))
    (hident : isIdentText first = true) (hfirst : isFirstWord (String.ofList first) = true)
    (hsteps : ∀ s ∈ steps, isStep s = true) :
    IsType 1 (joinWith [':', ':'] (first :: steps))
      (plainTy false ((first :: steps).map String.ofList)) := by
  refine .of_readTy fun cs hcs => ?_
  rw [joinWith_cons]
  have hname := hnames first List.mem_cons_self
  have hword := Lexes.word hname (hcs.afterStep steps).atBorder hident
  have hstart := startsType_of_isFirstWord hfirst
  have hfirst' := isStepWord_of_isFirstWord hfirst
  -- a single word has no colons after it, so its tokens come from no further step
  by_cases hne : steps = []
  · subst hne
    exact ⟨_, [], hword, hstart, fun inner left rest hrest =>
      reads_readTy_path .nil (by simp) hfirst' (by simpa using hfirst) hrest⟩
  · obtain ⟨joint, ws, v, ts, hlex, hthen, hwords⟩ :=
      lexes_afterFirst (fun s hs => hnames s (List.mem_cons_of_mem _ hs)) hsteps hne hcs.atBorder
    have hall : ∀ w ∈ ws ++ [v], isStepWord w = true := by
      rw [hwords]
      exact fun w hw => isStepWord_of_mem_map hsteps hw
    refine ⟨_, _, hword.trans hlex, hstart, fun inner left rest hrest => ?_⟩
    rw [List.map_cons, ← hwords]
    refine reads_readTy_path (.cons joint hthen) (fun w hw => ?_) (hall v (by simp))
      (by simpa using hfirst) hrest
    obtain rfl | hw := List.mem_cons.mp hw
    · exact hfirst'
    · exact hall w (by simp [hw])

/-- A word and steps of which one is not all right are no type. -/
theorem noType_of_isFirstWord (hnames : AreNames (first :: steps))
    (hident : isIdentText first = true) (hfirst : isFirstWord (String.ofList first) = true)
    (hsteps : steps.all isStep = false) :
    NoTypeFrom StartsType (joinWith [':', ':'] (first :: steps)) := by
  intro cs hcs
  rw [joinWith_cons]
  have hword := Lexes.word (hnames first List.mem_cons_self)
    (hcs.afterStep steps).atBorder hident
  obtain ⟨joint, ws, ts, more, hlex, hthen, hws, hmore⟩ :=
    lexes_afterFirst_halts (fun s hs => hnames s (List.mem_cons_of_mem _ hs)) hsteps hcs
  exact ⟨NoStep, _, _, more, hword.trans hlex, startsType_of_isFirstWord hfirst, hmore,
    fun inner left tail htail => rejects_readTy_path (.cons joint hthen) hws hfirst htail⟩

/-- Steps from the root are a type. -/
theorem isType_of_root (hnames : AreNames steps) (hne : steps ≠ [])
    (hsteps : ∀ s ∈ steps, isStep s = true) :
    IsType 1 (joinWith [':', ':'] ([] :: steps)) (plainTy true (steps.map String.ofList)) := by
  refine .of_readTy fun cs hcs => ?_
  rw [joinWith_cons]
  obtain ⟨joint, ws, v, ts, hlex, hthen, hwords⟩ := lexes_afterFirst hnames hsteps hne hcs.atBorder
  have hall : ∀ w ∈ ws ++ [v], isStepWord w = true := by
    rw [hwords]
    exact fun w hw => isStepWord_of_mem_map hsteps hw
  refine ⟨_, _, hlex, rfl, fun inner left rest hrest => ?_⟩
  rw [← hwords]
  exact reads_readTy_root hthen (fun w hw => hall w (by simp [hw])) (hall v (by simp)) hrest

/-- Steps from the root of which one is not all right are no type. -/
theorem noType_of_root (hnames : AreNames steps) (hsteps : steps.all isStep = false) :
    NoTypeFrom StartsType (joinWith [':', ':'] ([] :: steps)) := by
  intro cs hcs
  rw [joinWith_cons]
  obtain ⟨joint, ws, ts, more, hlex, hthen, hws, hmore⟩ :=
    lexes_afterFirst_halts hnames hsteps hcs
  exact ⟨NoStep, _, _, more, hlex, rfl, hmore,
    fun inner left tail htail => rejects_readTy_root hthen hws htail⟩

/-- The words for bounds can start a type. -/
theorem startsType_of_mem_boundWords {w : String} (hw : w ∈ boundWords) :
    StartsType (.word w) := by
  constructor <;> (rintro rfl; exact absurd hw (by decide))

/-- A word for bounds before steps from the root is a type. -/
theorem isType_of_bound (hnames : AreNames (first :: steps)) (hident : isIdentText first = true)
    (hfirst : String.ofList first ∈ boundWords) (hne : steps ≠ [])
    (hsteps : ∀ s ∈ steps, isStep s = true) :
    IsType 1 (joinWith [':', ':'] (first :: steps))
      (.ofBound (String.ofList first) (.mk true ((steps.map String.ofList).map .plain))) := by
  refine .of_readTy fun cs hcs => ?_
  rw [joinWith_cons]
  have hword := Lexes.word (hnames first List.mem_cons_self)
    (hcs.afterStep steps).atBorder hident
  -- behind the first word the steps are read as tokens of a path
  obtain ⟨joint, ws, v, ts, hlex, hthen, hwords⟩ :=
    lexes_afterFirst (fun s hs => hnames s (List.mem_cons_of_mem _ hs)) hsteps hne hcs.atBorder
  have hall : ∀ w ∈ ws ++ [v], isStepWord w = true := by
    rw [hwords]
    exact fun w hw => isStepWord_of_mem_map hsteps hw
  refine ⟨_, _, hword.trans hlex, startsType_of_mem_boundWords hfirst,
    fun inner left rest hrest => ?_⟩
  rw [← hwords]
  exact reads_readTy_bound hfirst
    (reads_rootPath hthen (fun w hw => hall w (by simp [hw])) (hall v (by simp)) hrest) hrest

/-- A word for bounds before anything but steps from the root is no type. -/
theorem noType_of_bound (hnames : AreNames (first :: steps)) (hident : isIdentText first = true)
    (hfirst : String.ofList first ∈ boundWords) (hsteps : steps = [] ∨ steps.all isStep = false) :
    NoTypeFrom StartsType (joinWith [':', ':'] (first :: steps)) := by
  intro cs hcs
  rw [joinWith_cons]
  have hword := Lexes.word (hnames first List.mem_cons_self)
    (hcs.afterStep steps).atBorder hident
  have hstart := startsType_of_mem_boundWords hfirst
  -- a lone word lacks its bound; else the bound breaks off at the first step at fault
  obtain rfl | hsteps := hsteps
  · refine ⟨_, _, _, cs, hword, hstart, Halts.stop hcs, fun inner left tail htail => ?_⟩
    obtain h | h : String.ofList first = "dyn" ∨ String.ofList first = "impl" := by
      simpa [boundWords] using hfirst
    · rw [h]
      exact rejects_readTy_dyn htail
    · rw [h]
      exact rejects_readTy_impl htail
  · obtain ⟨joint, ws, ts, more, hlex, hthen, hws, hmore⟩ :=
      lexes_afterFirst_halts (fun s hs => hnames s (List.mem_cons_of_mem _ hs)) hsteps hcs
    exact ⟨NoStep, _, _, more, hword.trans hlex, hstart, hmore,
      fun inner left tail htail => rejects_readTy_bound hfirst (rejects_rootPath hthen hws htail)⟩

/-- The word before a border starts no type when it is reserved for something else. -/
theorem rejects_readTy_word {w : String} (hw : isFirstWord w = false) (hbound : w ∉ boundWords)
    (hinfer : w ≠ "_") (h : Borders tail) : Rejects left (inner.readTy true) (.word w :: tail) := by
  by_cases hother : w ∈ otherTypeWords
  · simp only [otherTypeWords, List.mem_cons, List.not_mem_nil, or_false] at hother
    obtain rfl | rfl | rfl | rfl | rfl | rfl | rfl := hother
    · exact rejects_readTy_for h
    · exact rejects_readTy_fn h
    · exact rejects_readTy_unsafe h
    · exact rejects_readTy_extern h
    · exact absurd (by decide) hbound
    · exact absurd (by decide) hbound
    · exact absurd rfl hinfer
  · exact rejects_readTy_reserved hw hother h

/-- Steps that start with a word reserved for something else are no type. -/
theorem noType_of_reserved (hnames : AreNames (first :: steps)) (hident : isIdentText first = true)
    (hfirst : isFirstWord (String.ofList first) = false)
    (hbound : String.ofList first ∉ boundWords) (hinfer : first ≠ ['_']) :
    NoTypeFrom (· = .word (String.ofList first)) (joinWith [':', ':'] (first :: steps)) := by
  intro cs hcs
  rw [joinWith_cons]
  have hword := Lexes.word (hnames first List.mem_cons_self)
    (hcs.afterStep steps).atBorder hident
  refine ⟨_, _, [], _, hword, rfl, Halts.afterStep (hcs.afterStep steps) fun c joint hc => ?_,
    fun inner left tail htail => rejects_readTy_word hfirst hbound ?_ htail⟩
  · exact ⟨c, joint, rfl, hc⟩
  · exact fun h => hinfer (by simpa using congrArg String.toList h)

/-- A text whose first step starts with a digit is no type. -/
theorem noType_of_digit (hnames : AreNames (first :: steps)) {c : Char} (hhead : first.head? = some c)
    (hdigit : c.isDigit = true) : NoType 0 (joinWith [':', ':'] (first :: steps)) := by
  intro cs hcs
  rw [joinWith_cons]
  have hname := hnames first List.mem_cons_self
  have hleaf := leaf?_of_digit hname (hcs.afterStep steps).atBorder hhead hdigit
  obtain ⟨first, rfl⟩ := List.head?_eq_some_iff.mp hhead
  -- such a text is one literal if it has a token at all, and no type starts with a literal
  refine ⟨fun t => ∃ text, t = .literal text, [], _, .refl _, .leaf ?_ fun t rest ht => ?_, ?_⟩
  · simp [startsLeaf, hname c List.mem_cons_self]
  · have ht : leaf? (c :: first ++ afterFirst steps cs) = some (t, rest) := ht
    rw [hleaf] at ht
    split_ifs at ht
    cases ht
    exact ⟨_, rfl⟩
  · refine fun n _ left tail htail => rejects_ty (fun inner => ?_) n
    cases tail with
    | nil => exact rejects_readTy_nil
    | cons t tail =>
      obtain ⟨text, rfl⟩ := htail t rfl
      exact rejects_readTy_literal text

end First

end ProtoRest.Code
