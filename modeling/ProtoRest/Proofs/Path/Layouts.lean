import Mathlib.Data.List.Chain
import ProtoRest.Path.Layout

/-! # Reading layouts
A row of pieces is taken apart again by the two passes over a path: the verb is cut off behind it
(`cutVerb_spell`), and its texts and braces are the tokens that are found in it (`scan_spell`).
Every path that both passes accept is such a row (`exists_pieces`). -/

namespace ProtoRest.Path

open ProtoRest.Text

/-! ## Rows of pieces -/

/-- Whether the text of a piece has no character that would end the piece or start the verb. -/
def Piece.IsPlain : Piece → Prop
  | .slash => True
  | .text s => s ≠ [] ∧ ∀ c ∈ s, c ≠ '/' ∧ c ≠ '{' ∧ c ≠ '}' ∧ c ≠ ':'
  | .braces body => ∀ c ∈ body, c ≠ '{' ∧ c ≠ '}'

/-- The token that a piece is read as; slashes are skipped. -/
def Piece.token? : Piece → Option Token
  | .slash => none
  | .text s => some (.literal s)
  | .braces body => some (.ofBody body)

/-- The text of a plain piece is not empty. -/
theorem Piece.IsPlain.spelled_ne_nil {piece : Piece} (h : piece.IsPlain) : piece.spelled ≠ [] := by
  cases piece with
  | slash => simp [Piece.spelled]
  | text s => exact h.1
  | braces body => simp [Piece.spelled]

/-- A row with one more piece in front is a row unless two texts meet. -/
theorem isRow_cons {piece : Piece} {pieces : List Piece} :
    IsRow (piece :: pieces) ↔
      (∀ next ∈ pieces.head?, ¬(piece.isText = true ∧ next.isText = true)) ∧ IsRow pieces := by
  rw [IsRow, IsRow, List.isChain_cons]

/-- Pieces with slashes between all elements form a row. -/
theorem IsSpaced.isRow {pieces : List Piece} (h : IsSpaced pieces) : IsRow pieces := by
  refine h.imp fun p q hslash htexts => ?_
  -- a slash is no text
  rcases p with _ | _ | _ <;> rcases q with _ | _ | _ <;> simp_all [Piece.isSlash, Piece.isText]

/-- A row that does not start with a text starts with a slash or a brace. -/
theorem head?_spell {pieces : List Piece} (h : ∀ piece ∈ pieces.head?, piece.isText = false) :
    ∀ c ∈ (spell pieces).head?, c = '/' ∨ c = '{' := by
  cases pieces with
  | nil => simp
  | cons piece pieces =>
    cases piece with
    | slash => simp [Piece.spelled]
    | braces body => simp [Piece.spelled]
    | text s => cases h (.text s) rfl

/-- A row that starts with a slash or a brace does not start with a text. -/
theorem isText_head? {pieces : List Piece} (hplain : ∀ piece ∈ pieces, piece.IsPlain)
    (h : ∀ c ∈ (spell pieces).head?, c = '/' ∨ c = '{') :
    ∀ piece ∈ pieces.head?, piece.isText = false := by
  cases pieces with
  | nil => simp
  | cons piece pieces =>
    rintro _ ⟨⟩
    cases piece with
    | slash => rfl
    | braces body => rfl
    | text s =>
      obtain ⟨hne, hs⟩ := hplain (.text s) List.mem_cons_self
      obtain ⟨c, s, rfl⟩ := List.exists_cons_of_ne_nil hne
      obtain ⟨hslash, hopen, -⟩ := hs c List.mem_cons_self
      exact absurd (h c rfl) (not_or.mpr ⟨hslash, hopen⟩)

/-! ## The verb -/

/-- What holds of the colon and of all verb characters holds throughout a verb's text. -/
theorem forall_mem_verbText {P : Char → Prop} {verb : Option (List Char)} (hcolon : P ':')
    (hchar : ∀ c, isVerbChar c = true → P c) (hverb : ∀ v ∈ verb, isVerb v = true) :
    ∀ c ∈ verbText verb, P c := by
  cases verb with
  | none => simp [verbText]
  | some v =>
    have hv := hverb v rfl
    rw [isVerb, Bool.and_eq_true, List.all_eq_true] at hv
    exact List.forall_mem_cons.mpr ⟨hcolon, fun c hc => hchar c (hv.2 c hc)⟩

/-- A verb has none of the marks of the notation. -/
theorem ne_of_mem_verbText {verb : Option (List Char)} (hverb : ∀ v ∈ verb, isVerb v = true) :
    ∀ c ∈ verbText verb, c ≠ '/' ∧ c ≠ '{' ∧ c ≠ '}' ∧ c ≠ '*' := by
  refine forall_mem_verbText (by decide) (fun c hc => ⟨?_, ?_, ?_, ?_⟩) hverb
  all_goals
    rintro rfl
    exact absurd hc (by decide)

/-- Nothing is cut off in a text without braces, outside braces not in one without colons either. -/
theorem cutVerb_append {depth : Nat} {s : List Char}
    (hs : ∀ c ∈ s, c ≠ '{' ∧ c ≠ '}' ∧ (depth = 0 → c ≠ ':')) (cs : List Char) :
    cutVerb depth (s ++ cs) = (s ++ (cutVerb depth cs).1, (cutVerb depth cs).2) := by
  induction s with
  | nil => rfl
  | cons c s ih =>
    rw [List.forall_mem_cons] at hs
    obtain ⟨⟨hopen, hclose, hcolon⟩, hs⟩ := hs
    have hnot : ¬(c = ':' ∧ depth = 0) := fun h => hcolon h.2 h.1
    rw [List.cons_append, cutVerb, if_neg hnot, depthAfter, if_neg hopen, if_neg hclose, ih hs]
    rfl

/-- The verb is not cut off within plain pieces but behind them. -/
theorem cutVerb_spell_append {pieces : List Piece} (hplain : ∀ piece ∈ pieces, piece.IsPlain)
    (cs : List Char) :
    cutVerb 0 (spell pieces ++ cs) = (spell pieces ++ (cutVerb 0 cs).1, (cutVerb 0 cs).2) := by
  induction pieces with
  | nil => rfl
  | cons piece pieces ih =>
    rw [List.forall_mem_cons] at hplain
    obtain ⟨hpiece, hplain⟩ := hplain
    rw [spell_cons, List.append_assoc, List.append_assoc]
    cases piece with
    | slash =>
      rw [Piece.spelled, cutVerb_append (by simp), ih hplain]
    | text s =>
      have hs : ∀ c ∈ s, c ≠ '{' ∧ c ≠ '}' ∧ (0 = 0 → c ≠ ':') := fun c hc =>
        have h := hpiece.2 c hc
        ⟨h.2.1, h.2.2.1, fun _ => h.2.2.2⟩
      rw [Piece.spelled, cutVerb_append hs, ih hplain]
    | braces body =>
      have hbody : ∀ c ∈ body, c ≠ '{' ∧ c ≠ '}' ∧ (1 = 0 → c ≠ ':') := fun c hc =>
        have h := hpiece c hc
        ⟨h.1, h.2, fun hdepth => absurd hdepth (by decide)⟩
      -- the brace opens, the body is passed over, and the brace closes again
      have hclose (cs : List Char) : cutVerb 1 ('}' :: cs) =
          ('}' :: (cutVerb 0 cs).1, (cutVerb 0 cs).2) := rfl
      have hopen (cs : List Char) : cutVerb 0 ('{' :: cs) =
          ('{' :: (cutVerb 1 cs).1, (cutVerb 1 cs).2) := rfl
      rw [Piece.spelled, List.cons_append, List.cons_append, List.append_assoc, hopen,
        cutVerb_append hbody, List.singleton_append, hclose, ih hplain]
      simp

/-- The verb behind a row of pieces is cut off. -/
theorem cutVerb_spell {pieces : List Piece} (hplain : ∀ piece ∈ pieces, piece.IsPlain)
    (verb : Option (List Char)) :
    cutVerb 0 (spell pieces ++ verbText verb) = (spell pieces, verb) := by
  rw [cutVerb_spell_append hplain]
  cases verb with
  | none => simp [verbText, cutVerb]
  | some verb => simp [verbText, cutVerb]

/-- What is cut off is the verb as it is spelled, and nothing can be cut off what is left. -/
theorem cutVerb_eq {depth : Nat} {text path : List Char} {verb : Option (List Char)}
    (h : cutVerb depth text = (path, verb)) :
    text = path ++ verbText verb ∧ cutVerb depth path = (path, none) := by
  induction text generalizing depth path verb with
  | nil =>
    obtain ⟨rfl, rfl⟩ := Prod.mk.inj h
    exact ⟨rfl, rfl⟩
  | cons c cs ih =>
    rw [cutVerb] at h
    split at h
    · next hcolon =>
      obtain ⟨rfl, rfl⟩ := Prod.mk.inj h
      exact ⟨by rw [hcolon.1]; rfl, rfl⟩
    · next hcolon =>
      obtain ⟨rfl, rfl⟩ := Prod.mk.inj h
      obtain ⟨htext, hpath⟩ := ih rfl
      rw [cutVerb, if_neg hcolon, hpath]
      exact ⟨congrArg (c :: ·) htext, rfl⟩

/-- When no verb is cut off, none begins at the first character or behind it. -/
theorem cutVerb_cons_eq_self {depth : Nat} {c : Char} {cs : List Char}
    (h : cutVerb depth (c :: cs) = (c :: cs, none)) :
    ¬(c = ':' ∧ depth = 0) ∧ cutVerb (depthAfter depth c) cs = (cs, none) := by
  rw [cutVerb] at h
  split at h
  · cases h
  · next hcolon =>
    rw [Prod.mk.injEq, List.cons.injEq] at h
    exact ⟨hcolon, Prod.ext h.1.2 h.2⟩

/-! ## The tokens -/

/-- Outside braces a text without slashes and braces is collected. -/
theorem scan_outside_append {s : List Char} (hs : ∀ c ∈ s, c ≠ '/' ∧ c ≠ '{' ∧ c ≠ '}')
    (text cs : List Char) :
    scan (.outside text) (s ++ cs) = scan (.outside (text ++ s)) cs := by
  induction s generalizing text with
  | nil => rw [List.nil_append, List.append_nil]
  | cons c s ih =>
    rw [List.forall_mem_cons] at hs
    obtain ⟨⟨hslash, hopen, hclose⟩, hs⟩ := hs
    rw [List.cons_append, scan, if_neg hslash, if_neg hopen, if_neg hclose, ih hs,
      List.append_assoc, List.singleton_append]

/-- Inside braces a text without braces is collected. -/
theorem scan_inside_append {s : List Char} (hs : ∀ c ∈ s, c ≠ '{' ∧ c ≠ '}')
    (body cs : List Char) :
    scan (.inside body) (s ++ cs) = scan (.inside (body ++ s)) cs := by
  induction s generalizing body with
  | nil => rw [List.nil_append, List.append_nil]
  | cons c s ih =>
    rw [List.forall_mem_cons] at hs
    obtain ⟨⟨hopen, hclose⟩, hs⟩ := hs
    rw [List.cons_append, scan, if_neg hclose, if_neg hopen, ih hs, List.append_assoc,
      List.singleton_append]

/-- A slash, a brace and the end of a path make a token of what is collected. -/
theorem scan_flush (s : List Char) {cs : List Char} (h : ∀ c ∈ cs.head?, c = '/' ∨ c = '{') :
    scan (.outside s) cs = (scan (.outside []) cs).map (flush s ++ ·) := by
  cases cs with
  | nil => simp [scan, flush]
  | cons c cs =>
    obtain rfl | rfl := h c rfl
    · simp [scan, flush]
    · simp [scan, flush]

/-- The tokens of a row are its texts and its braces. -/
theorem scan_spell {pieces : List Piece} (hplain : ∀ piece ∈ pieces, piece.IsPlain)
    (hrow : IsRow pieces) :
    scan (.outside []) (spell pieces) = some (pieces.filterMap Piece.token?) := by
  induction pieces with
  | nil => rfl
  | cons piece pieces ih =>
    rw [List.forall_mem_cons] at hplain
    obtain ⟨hpiece, hplain⟩ := hplain
    obtain ⟨hnext, hrow⟩ := isRow_cons.mp hrow
    have ih := ih hplain hrow
    cases piece with
    | slash =>
      rw [spell_cons, Piece.spelled, List.singleton_append, scan, if_pos rfl, ih]
      rfl
    | text s =>
      have hs : ∀ c ∈ s, c ≠ '/' ∧ c ≠ '{' ∧ c ≠ '}' := fun c hc =>
        have h := hpiece.2 c hc
        ⟨h.1, h.2.1, h.2.2.1⟩
      -- the text ends here, since its neighbour is no text
      have hend : ∀ c ∈ (spell pieces).head?, c = '/' ∨ c = '{' :=
        head?_spell fun next hmem => by simpa [Piece.isText] using hnext next hmem
      rw [spell_cons, Piece.spelled, scan_outside_append hs, List.nil_append, scan_flush s hend, ih,
        flush, if_neg hpiece.1]
      rfl
    | braces body =>
      rw [spell_cons, Piece.spelled, List.cons_append, List.cons_append, List.append_assoc, scan,
        if_neg (by decide), if_pos rfl, scan_inside_append hpiece, List.nil_append,
        List.singleton_append, scan, if_pos rfl, ih]
      rfl

/-! ## Every path that is read -/

/-- Whether a text is a row of plain pieces. -/
def IsPath (text : List Char) : Prop :=
  ∃ pieces : List Piece, (∀ piece ∈ pieces, piece.IsPlain) ∧ IsRow pieces ∧ spell pieces = text

section Paths

variable {cs : List Char} (hcs : IsPath cs)

include hcs

/-- A slash in front of a path gives a path. -/
theorem IsPath.slash : IsPath ('/' :: cs) := by
  obtain ⟨pieces, hplain, hrow, rfl⟩ := hcs
  exact ⟨.slash :: pieces, List.forall_mem_cons.mpr ⟨trivial, hplain⟩,
    isRow_cons.mpr ⟨by simp [Piece.isText], hrow⟩, rfl⟩

/-- A pair of braces in front of a path gives a path. -/
theorem IsPath.braces {body : List Char} (hbody : ∀ c ∈ body, c ≠ '{' ∧ c ≠ '}') :
    IsPath ('{' :: body ++ '}' :: cs) := by
  obtain ⟨pieces, hplain, hrow, rfl⟩ := hcs
  exact ⟨.braces body :: pieces, List.forall_mem_cons.mpr ⟨hbody, hplain⟩,
    isRow_cons.mpr ⟨by simp [Piece.isText], hrow⟩, by simp [Piece.spelled]⟩

/-- A text can stand before a path that starts with a slash or a brace. -/
theorem IsPath.text {s : List Char} (hs : ∀ c ∈ s, c ≠ '/' ∧ c ≠ '{' ∧ c ≠ '}' ∧ c ≠ ':')
    (hhead : ∀ c ∈ cs.head?, c = '/' ∨ c = '{') : IsPath (s ++ cs) := by
  by_cases hne : s = []
  · rwa [hne]
  obtain ⟨pieces, hplain, hrow, rfl⟩ := hcs
  refine ⟨.text s :: pieces, List.forall_mem_cons.mpr ⟨⟨hne, hs⟩, hplain⟩,
    isRow_cons.mpr ⟨fun next hnext htexts => ?_, hrow⟩, rfl⟩
  rw [isText_head? hplain hhead next hnext] at htexts
  cases htexts.2

end Paths

/-- What has been read of the piece that the scanner is in. -/
def Scan.pending : Scan → List Char
  | .outside text => text
  | .inside body => '{' :: body

/-- The number of open braces. -/
def Scan.depth : Scan → Nat
  | .outside _ => 0
  | .inside _ => 1

/-- Whether what has been read can start a piece. -/
def Scan.IsPlain : Scan → Prop
  | .outside text => ∀ c ∈ text, c ≠ '/' ∧ c ≠ '{' ∧ c ≠ '}' ∧ c ≠ ':'
  | .inside body => ∀ c ∈ body, c ≠ '{' ∧ c ≠ '}'

/-- What is scanned without fault and without a verb is a path, with what has been read before. -/
theorem isPath_of_scan {state : Scan} {text : List Char} {tokens : List Token}
    (hscan : scan state text = some tokens) (hcut : cutVerb state.depth text = (text, none))
    (hstate : state.IsPlain) : IsPath (state.pending ++ text) := by
  -- both passes read the same character, so the depth of one follows the state of the other
  induction text generalizing state tokens with
  | nil =>
    cases state with
    | outside text => exact IsPath.text ⟨[], by simp, .nil, rfl⟩ hstate (by simp)
    | inside body => cases hscan
  | cons c cs ih =>
    obtain ⟨hcolon, hcut⟩ := cutVerb_cons_eq_self hcut
    cases state with
    | outside text =>
      rw [scan] at hscan
      split_ifs at hscan with hslash hopen hclose
      · subst hslash
        obtain ⟨rest, hrest, -⟩ := Option.map_eq_some_iff.mp hscan
        exact (ih hrest hcut (by simp [Scan.IsPlain])).slash.text hstate (by simp)
      · subst hopen
        obtain ⟨rest, hrest, -⟩ := Option.map_eq_some_iff.mp hscan
        exact (ih hrest hcut (by simp [Scan.IsPlain])).text hstate (by simp [Scan.pending])
      · -- one more character of a text
        have hplain : (Scan.outside (text ++ [c])).IsPlain :=
          List.forall_mem_append.mpr ⟨hstate, List.forall_mem_singleton.mpr
            ⟨hslash, hopen, hclose, fun h => hcolon ⟨h, rfl⟩⟩⟩
        rw [depthAfter, if_neg hopen, if_neg hclose] at hcut
        simpa [Scan.pending] using ih hscan hcut hplain
    | inside body =>
      rw [scan] at hscan
      split_ifs at hscan with hclose hopen
      · subst hclose
        obtain ⟨rest, hrest, -⟩ := Option.map_eq_some_iff.mp hscan
        exact IsPath.braces (ih hrest hcut (by simp [Scan.IsPlain])) hstate
      · have hplain : (Scan.inside (body ++ [c])).IsPlain :=
          List.forall_mem_append.mpr ⟨hstate, List.forall_mem_singleton.mpr ⟨hopen, hclose⟩⟩
        rw [depthAfter, if_neg hopen, if_neg hclose] at hcut
        simpa [Scan.pending] using ih hscan hcut hplain

/-- A text whose verb is cut off and whose path is scanned is a row of pieces with the verb behind
it. -/
theorem exists_pieces {text path : List Char} {verb : Option (List Char)} {tokens : List Token}
    (hcut : cutVerb 0 text = (path, verb)) (hscan : scan (.outside []) path = some tokens) :
    ∃ pieces : List Piece, (∀ piece ∈ pieces, piece.IsPlain) ∧ IsRow pieces ∧
      text = spell pieces ++ verbText verb ∧ tokens = pieces.filterMap Piece.token? := by
  obtain ⟨rfl, hpath⟩ := cutVerb_eq hcut
  obtain ⟨pieces, hplain, hrow, hspell⟩ := isPath_of_scan hscan hpath (by simp [Scan.IsPlain])
  obtain rfl : spell pieces = path := hspell
  rw [scan_spell hplain hrow] at hscan
  exact ⟨pieces, hplain, hrow, rfl, (Option.some.inj hscan).symm⟩

end ProtoRest.Path
