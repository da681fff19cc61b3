import ProtoRest.Proofs.Path.SpelledTemplates
import ProtoRest.Proofs.Path.TemplateTexts
import ProtoRest.Proofs.Path.WellFormedTemplates

/-! # Canonical texts of templates
A template that was read is written canonically and read again. What comes back is the template
itself unless its text says something else (`canonical_texts_are_read_back`): a colon in a text, which
only the pattern of a variable can put there, starts a verb outside braces, and a blank at the end of a
text is trimmed when no verb follows. -/

namespace ProtoRest.Path

open ProtoRest.Result ProtoRest.Text

/-! ## Canonical elements -/

/-- The element that writes a segment. -/
def Segment.element : Segment → Element
  | .literal text => .part (.text text.toList)
  | .param name => .variable name.toList none
  | .catchAll name => .variable name.toList (some [.many])

/-- A template as its canonical text writes it. -/
def Template.written (t : Template) : Written :=
  ⟨t.segments.map Segment.element, t.verb.map String.toList⟩

/-- Whether no text of a template has a colon. -/
def HasNoColon (segments : List Segment) : Prop :=
  ∀ text, .literal text ∈ segments → ':' ∉ text.toList

section Segments

variable {s : Segment}

/-- The element of a segment matches that segment alone. -/
theorem segments_element (s : Segment) : s.element.segments = [s] := by
  cases s with
  | literal text => simp [Segment.element, Element.segments]
  | param name => simp [Segment.element, Element.segments]
  | catchAll name => simp [Segment.element, Element.segments, segmentsOfParts]

/-- The element of a segment is spelled as its canonical text. -/
theorem spelled_piece_element (s : Segment) : s.element.piece.spelled = s.canonical.toList := by
  cases s with
  | literal text => rfl
  | param name => simp [Segment.element, Element.piece, Piece.spelled, Segment.canonical]
  | catchAll name =>
    simp [Segment.element, Element.piece, Piece.spelled, Segment.canonical, Part.spelled]

/-- The element of a well-formed segment may be written, provided a literal holds no colon. -/
theorem Segment.IsWellFormed.isLegal_element (hs : s.IsWellFormed)
    (hcolon : ∀ text, s = .literal text → ':' ∉ text.toList) : s.element.IsLegal := by
  cases s with
  | literal text => exact ⟨hs, hcolon text rfl⟩
  | param name => exact isVariableText_of_isName hs
  | catchAll name =>
    exact ⟨isVariableText_of_isName hs, List.cons_ne_nil _ _,
      List.forall_mem_singleton.mpr trivial⟩

/-- The piece of a well-formed segment's element writes the element. -/
theorem Segment.IsWellFormed.piece_writes (hs : s.IsWellFormed) :
    s.element.piece.Writes s.element := by
  have htrim {name : String} (hname : isName name.toList = true) :
      trim name.toList = name.toList :=
    trim_eq_self (not_blank_of_isVariableText (isVariableText_of_isName hname))
  cases s with
  | literal text => rfl
  | param name => exact htrim hs
  | catchAll name => exact ⟨name.toList, ['*', '*'], rfl, htrim hs, by decide⟩

/-- The canonical text of a segment is not empty, and only a text can end in a blank. -/
theorem Segment.IsWellFormed.getLast?_canonical (hs : s.IsWellFormed) :
    s.canonical.toList ≠ [] ∧ ((∀ text, s ≠ .literal text) →
      s.canonical.toList.getLast? = some '}') := by
  cases s with
  | literal text => exact ⟨(isLiteral_iff.mp hs).1, fun h => absurd rfl (h text)⟩
  | param name =>
    have hlist : (Segment.param name).canonical.toList = '{' :: name.toList ++ ['}'] := by
      simp [Segment.canonical]
    rw [hlist]
    exact ⟨List.cons_ne_nil _ _, fun _ => List.getLast?_concat⟩
  | catchAll name =>
    have hlist : (Segment.catchAll name).canonical.toList =
        '{' :: name.toList ++ ['=', '*', '*'] ++ ['}'] := by
      simp [Segment.canonical]
    rw [hlist]
    exact ⟨by simp, fun _ => List.getLast?_concat⟩

end Segments

/-! ## Reading canonical texts -/

section Templates

variable {t : Template} {pieces : List Piece}

/-- The written form of a template stands for the template. -/
theorem template_written (t : Template) : t.written.template = t := by
  have hsegments : t.written.segments = t.segments := by
    rw [Template.written, Written.segments, List.flatMap_map]
    simp only [segments_element, List.flatMap_singleton']
  have hverb : t.written.verb.map String.ofList = t.verb := by
    rw [Template.written, Option.map_map]
    simp [Function.comp_def]
  rw [Written.template, hsegments, hverb]

/-- The row of the written form is spelled as the canonical path. -/
theorem spell_row_written (t : Template) :
    spell t.written.row = pathChars Segment.canonical t.segments := by
  rw [Written.row, Template.written, List.flatMap_map, spell, List.flatMap_assoc]
  refine List.flatMap_congr fun s _ => ?_
  rw [List.flatMap_cons, List.flatMap_singleton, spelled_piece_element]
  rfl

/-- A slash behind the elements makes no difference. -/
theorem isSpread_row_slash (w : Written) : w.IsSpread (w.row ++ [.slash]) := by
  obtain ⟨hfilter, hspaced⟩ := isSpread_row w
  refine ⟨?_, ?_⟩
  · rw [List.filter_append, hfilter]
    exact List.append_nil _
  · refine List.isChain_append.mpr ⟨hspaced, .singleton _, fun p _ q hq => .inr ?_⟩
    obtain rfl := Option.some.inj hq
    rfl

/-- The written form of a well-formed template without colons in its literals is legal. -/
theorem Template.IsWellFormed.isLegal_written (ht : t.IsWellFormed)
    (hcolon : HasNoColon t.segments) : t.written.IsLegal := by
  constructor
  · rw [Template.written, List.forall_mem_map]
    intro s hs
    exact (ht.segments s hs).isLegal_element fun text h => hcolon text (h ▸ hs)
  · intro v hv
    obtain ⟨verb, hverb, rfl⟩ := Option.map_eq_some_iff.mp hv
    exact (ht.verb verb hverb).1

/-- The written form of a well-formed template has a route. -/
theorem Template.IsWellFormed.isRoutable_written (ht : t.IsWellFormed) :
    t.written.IsRoutable := by
  have hsegments : t.written.segments = t.segments := congrArg Template.segments (template_written t)
  constructor
  case elements =>
    rw [Template.written, List.forall_mem_map]
    intro s hs
    have hwell := ht.segments s hs
    cases s with
    | literal text => trivial
    | param name => exact hwell
    | catchAll name => exact hwell
  case catchAll_last =>
    rw [hsegments]
    exact ht.catchAll_last
  case names_nodup =>
    -- the written variables bind the parameters, as lists of characters
    have hnames : (t.written.elements.filterMap Element.binds?).map String.ofList =
        t.parameters := by
      rw [← filterMap_name?_segments, ← Written.segments, hsegments, Template.parameters]
    refine List.Nodup.of_map String.ofList ?_
    rw [hnames]
    exact ht.names_nodup
  case verb_literal =>
    intro hsome
    obtain ⟨v, hv⟩ := Option.isSome_iff_exists.mp hsome
    obtain ⟨verb, hverb, -⟩ := Option.map_eq_some_iff.mp hv
    rw [hsegments]
    exact (ht.verb verb hverb).2

/-- A well-formed template without colons is read from its elements with slashes around them. -/
theorem Template.IsWellFormed.ofChars_spell (ht : t.IsWellFormed) (hcolon : HasNoColon t.segments)
    (h : t.written.IsSpread pieces) (hne : pieces ≠ []) :
    Template.ofChars (spell pieces ++ verbText t.written.verb) = .ok t := by
  have hlaid : t.written.IsLaidOut pieces := by
    rw [Written.IsLaidOut, h.1, Template.written, List.map_map, List.forall₂_map_left_iff,
      List.forall₂_map_right_iff, List.forall₂_same]
    exact fun s hs => (ht.segments s hs).piece_writes
  have hlegal := ht.isLegal_written hcolon
  have htext : spell pieces ++ verbText t.written.verb ≠ [] := by
    obtain ⟨piece, rest, rfl⟩ := List.exists_cons_of_ne_nil hne
    have hplain := hlaid.isPlain hlegal piece List.mem_cons_self
    simp [hplain.spelled_ne_nil]
  have hread := ofChars_eq_ok_iff (t := t) hlegal ⟨pieces, hlaid, h.2.isRow, rfl⟩ htext
  exact hread.mpr ⟨ht.isRoutable_written, (template_written t).symm⟩

/-- The canonical text is the row of the elements, or the slash alone, and the verb. -/
theorem exists_isSpread_canonical (t : Template) :
    ∃ pieces, t.written.IsSpread pieces ∧ pieces ≠ [] ∧
      t.canonical.toList = spell pieces ++ verbText t.written.verb := by
  rw [Template.canonical, toList_write]
  by_cases hnil : t.segments = []
  · have hrow : t.written.row = [] := by
      rw [Written.row, Template.written, hnil]
      rfl
    -- a template without segments is spread over a lone slash
    refine ⟨t.written.row ++ [.slash], isSpread_row_slash t.written, by simp, ?_⟩
    rw [if_pos hnil, hrow]
    rfl
  · have hrow : t.written.row ≠ [] := by
      obtain ⟨first, rest, hsegments⟩ := List.exists_cons_of_ne_nil hnil
      simp [Written.row, Template.written, hsegments]
    refine ⟨t.written.row, isSpread_row t.written, hrow, ?_⟩
    rw [if_neg hnil, spell_row_written]
    rfl

end Templates

/-! ## Blanks at the end -/

/-- Whether a template ends in something that trimming leaves alone: a verb, a parameter, or a text
without a blank at its end. -/
def Template.EndsInNoBlank (t : Template) : Prop :=
  t.verb = none → ∀ text, t.segments.getLast? = some (.literal text) →
    ∀ c ∈ text.toList.getLast?, isBlank c = false

section Ends

variable {t : Template} {front : List Segment} {s : Segment} {text : String}

/-- A path ends as its last segment does. -/
theorem getLast?_pathChars_append {segment : Segment → String} (hne : (segment s).toList ≠ []) :
    (pathChars segment (front ++ [s])).getLast? = (segment s).toList.getLast? := by
  rw [pathChars_append, pathChars_cons, pathChars_nil, List.append_nil,
    List.getLast?_append_of_ne_nil _ (by simp)]
  exact List.getLast?_cons_of_ne_nil hne

/-- A canonical text begins with a slash. -/
theorem head?_canonical (t : Template) : t.canonical.toList.head? = some '/' := by
  rw [Template.canonical, toList_write]
  by_cases hnil : t.segments = []
  · rw [if_pos hnil]
    rfl
  · obtain ⟨first, rest, hsegments⟩ := List.exists_cons_of_ne_nil hnil
    rw [if_neg hnil, hsegments, pathChars_cons]
    rfl

/-- The canonical text of a template that ends in no blank ends in no blank. -/
theorem Template.IsWellFormed.getLast?_canonical (ht : t.IsWellFormed) (hend : t.EndsInNoBlank) :
    ∀ c ∈ t.canonical.toList.getLast?, isBlank c = false := by
  intro c hc
  rw [Template.canonical, toList_write] at hc
  cases hverb : t.verb with
  | some verb =>
    -- the verb ends in one of its own characters
    have hv := (ht.verb verb hverb).1
    rw [isVerb, Bool.and_eq_true, List.all_eq_true] at hv
    have hne : verb.toList ≠ [] := by simpa using hv.1
    rw [hverb, Option.map_some, verbText, List.getLast?_append_of_ne_nil _ (List.cons_ne_nil _ _),
      List.getLast?_cons_of_ne_nil hne] at hc
    exact isBlank_of_isVerbChar (hv.2 c (List.mem_of_getLast? hc))
  | none =>
    rw [hverb, Option.map_none, verbText, List.append_nil] at hc
    obtain hnil | ⟨front, last, hsegments⟩ := List.eq_nil_or_concat' t.segments
    · rw [if_pos hnil] at hc
      obtain rfl := Option.some.inj hc
      rfl
    · have hmem : last ∈ t.segments := by simp [hsegments]
      obtain ⟨hne, hclose⟩ := (ht.segments last hmem).getLast?_canonical
      rw [if_neg (List.ne_nil_of_mem hmem), hsegments, getLast?_pathChars_append hne] at hc
      by_cases hliteral : ∃ text, last = .literal text
      · obtain ⟨text, rfl⟩ := hliteral
        exact hend hverb text (by rw [hsegments, List.getLast?_concat]) c hc
      · rw [hclose fun text h => hliteral ⟨text, h⟩] at hc
        obtain rfl := Option.some.inj hc
        rfl

/-- Trimming leaves such a canonical text alone. -/
theorem Template.IsWellFormed.trim_canonical (ht : t.IsWellFormed) (hend : t.EndsInNoBlank) :
    trim t.canonical.toList = t.canonical.toList := by
  have hhead : ∀ c ∈ t.canonical.toList.head?, isBlank c = false := by
    rw [head?_canonical]
    rintro _ ⟨⟩
    rfl
  have hne : t.canonical.toList ≠ [] := fun hnil => by
    have hslash := head?_canonical t
    rw [hnil] at hslash
    cases hslash
  have htrim := trim_append hne hhead (ht.getLast?_canonical hend) []
  rwa [List.append_nil, trimEnd, dropEndWhile_nil, List.append_nil] at htrim

/-- A template that holds no colon and ends in no blank is read from its canonical text. -/
theorem Template.IsWellFormed.parse_canonical (ht : t.IsWellFormed) (hcolon : HasNoColon t.segments)
    (hend : t.EndsInNoBlank) : Template.parse t.canonical = .ok t := by
  obtain ⟨pieces, hspread, hne, hcanonical⟩ := exists_isSpread_canonical t
  rw [Template.parse, ht.trim_canonical hend, hcanonical]
  exact ht.ofChars_spell hcolon hspread hne

/-- Of a canonical text that ends in a text only the blanks at the end are trimmed. -/
theorem trim_canonical_of_last (hsegments : t.segments = front ++ [.literal text])
    (hverb : t.verb = none) :
    trim t.canonical.toList = pathChars Segment.canonical front ++ '/' :: trimEnd text.toList := by
  have hne : t.segments ≠ [] := by simp [hsegments]
  have hsplit : t.canonical.toList =
      (pathChars Segment.canonical front ++ ['/']) ++ text.toList := by
    rw [Template.canonical, toList_write, if_neg hne, hsegments, hverb, pathChars_append,
      pathChars_cons]
    simp [verbText, Segment.canonical]
  -- a slash stands at both ends of what is in front of the last text, so only that text is trimmed
  have hhead : ∀ c ∈ (pathChars Segment.canonical front ++ ['/']).head?, isBlank c = false := by
    intro c hc
    have hslash := head?_canonical t
    rw [hsplit, List.head?_append_of_ne_nil _ (by simp)] at hslash
    obtain rfl := Option.some.inj (hslash.symm.trans hc)
    rfl
  have hlast : ∀ c ∈ (pathChars Segment.canonical front ++ ['/']).getLast?, isBlank c = false := by
    rw [List.getLast?_concat]
    rintro _ ⟨⟩
    rfl
  rw [hsplit, trim_append (by simp) hhead hlast, List.append_assoc, List.singleton_append]

/-- The segment of a text, unless that is empty. -/
def lastText (s : List Char) : List Segment := if s = [] then [] else [.literal (String.ofList s)]

/-- What is read when the last text is trimmed: its segment is gone with the last of its characters. -/
theorem Template.IsWellFormed.ofChars_trimEnd (ht : t.IsWellFormed) (hcolon : HasNoColon t.segments)
    (hsegments : t.segments = front ++ [.literal text]) :
    Template.ofChars (pathChars Segment.canonical front ++ '/' :: trimEnd text.toList) =
      .ok ⟨front ++ lastText (trimEnd text.toList), none⟩ := by
  have hfront : HasNoColon front := fun other hother =>
    hcolon other (by rw [hsegments]; exact List.mem_append_left _ hother)
  have htext := isLiteral_iff.mp (ht.segments (.literal text) (by simp [hsegments]))
  rw [lastText]
  split_ifs with hrest
  · -- the slash of the last text is left, and stands behind the other segments
    have hread := (ht.withoutLast hsegments).ofChars_spell hfront (isSpread_row_slash _) (by simp)
    have hchars : spell ((Template.written ⟨front, none⟩).row ++ [.slash]) ++
        verbText (Template.written ⟨front, none⟩).verb =
          pathChars Segment.canonical front ++ ['/'] := by
      rw [spell_append, spell_row_written]
      exact List.append_nil _
    rw [hrest, List.append_nil, ← hchars]
    exact hread
  · -- a shorter text is a literal again, and ends a well-formed template
    have hliteral : isLiteral (String.ofList (trimEnd text.toList)).toList = true := by
      rw [String.toList_ofList]
      exact isLiteral_iff.mpr ⟨hrest, fun c hc => htext.2 c (mem_of_mem_trimEnd hc)⟩
    have hnone : HasNoColon (front ++ [.literal (String.ofList (trimEnd text.toList))]) := by
      intro other hother
      obtain hother | hother := List.mem_append.mp hother
      · exact hfront other hother
      · obtain rfl := Segment.literal.inj (List.mem_singleton.mp hother)
        rw [String.toList_ofList]
        exact fun hmem => hcolon text (by simp [hsegments]) (mem_of_mem_trimEnd hmem)
    have hread := (ht.withLast hsegments hliteral).ofChars_spell hnone (isSpread_row _)
      (by simp [Written.row, Template.written])
    rw [spell_row_written, pathChars_append, pathChars_cons] at hread
    simpa [Segment.canonical, Template.written, verbText] using hread

/-- From a canonical text that ends in a blank less than the template is read. -/
theorem Template.IsWellFormed.endsInNoBlank_of_parse (ht : t.IsWellFormed)
    (hcolon : HasNoColon t.segments) (h : Template.parse t.canonical = .ok t) :
    t.EndsInNoBlank := by
  intro hverb text hlast c hc
  obtain ⟨front, hsegments⟩ := List.getLast?_eq_some_iff.mp hlast
  rw [Template.parse, trim_canonical_of_last hsegments hverb,
    ht.ofChars_trimEnd hcolon hsegments] at h
  -- the same segments are read, so the last text has all of its characters
  have hlastText : lastText (trimEnd text.toList) = [.literal text] := by
    have hsame := congrArg Template.segments (Except.ok.inj h)
    rw [hsegments] at hsame
    exact List.append_cancel_left hsame
  have hself : trimEnd text.toList = text.toList := by
    rw [lastText] at hlastText
    split_ifs at hlastText
    have hchars := congrArg String.toList (Segment.literal.inj (List.singleton_inj.mp hlastText))
    rwa [String.toList_ofList] at hchars
  by_contra hblank
  exact trimEnd_ne_self hc (by simpa using hblank) hself

end Ends

/-! ## Colons in texts -/

section Colons

variable {depth : Nat} {s cs : List Char} {segments : List Segment} {t : Template}

/-- A text without a colon has no verb cut off. -/
theorem cutVerb_of_notMem (h : ':' ∉ cs) : (cutVerb depth cs).2 = none := by
  induction cs generalizing depth with
  | nil => rfl
  | cons c cs ih =>
    rw [List.mem_cons, not_or] at h
    have hnot : ¬(c = ':' ∧ depth = 0) := fun hcolon => h.1 hcolon.1.symm
    rw [cutVerb, if_neg hnot]
    exact ih h.2

/-- What is cut off goes on to the end of the text. -/
theorem cutVerb_append_of_notMem (h : ':' ∉ cs) :
    (cutVerb depth (s ++ cs)).2 = (cutVerb depth s).2.map (· ++ cs) := by
  induction s generalizing depth with
  | nil => exact cutVerb_of_notMem h
  | cons c s ih =>
    rw [List.cons_append, cutVerb, cutVerb]
    split_ifs with hcolon
    · rfl
    · exact ih

/-- In the canonical text of segments the verb would start at the first colon in a text. -/
theorem exists_cutVerb_pathChars (hwell : ∀ s ∈ segments, s.IsWellFormed)
    (hcolon : ¬HasNoColon segments) (cs : List Char) :
    ∃ rest, (cutVerb 0 (pathChars Segment.canonical segments ++ cs)).2 = some (rest ++ cs) := by
  induction segments with
  | nil => exact absurd (fun text htext => absurd htext List.not_mem_nil) hcolon
  | cons s segments ih =>
    rw [List.forall_mem_cons] at hwell
    rw [pathChars_cons, List.append_assoc]
    by_cases hfirst : ∃ text, s = .literal text ∧ ':' ∈ text.toList
    · obtain ⟨text, rfl, hmem⟩ := hfirst
      obtain ⟨front, back, htext, hfront⟩ := List.eq_append_cons_of_mem hmem
      -- the text before the colon has no braces, so the colon stands outside of them
      have hplain : ∀ c ∈ '/' :: front, c ≠ '{' ∧ c ≠ '}' ∧ (0 = 0 → c ≠ ':') := by
        refine List.forall_mem_cons.mpr ⟨by decide, fun c hc => ?_⟩
        have hchar := (isLiteral_iff.mp hwell.1).2 c (by rw [htext]; exact List.mem_append_left _ hc)
        exact ⟨hchar.2.1, hchar.2.2.1, fun _ heq => hfront (heq ▸ hc)⟩
      refine ⟨back ++ pathChars Segment.canonical segments, ?_⟩
      have hsplit : '/' :: (Segment.literal text).canonical.toList ++
          (pathChars Segment.canonical segments ++ cs) =
            ('/' :: front) ++ ':' :: (back ++ pathChars Segment.canonical segments ++ cs) := by
        simp [Segment.canonical, htext]
      rw [hsplit, cutVerb_append hplain]
      rfl
    · -- no colon of this segment counts, so the verb starts behind it
      have hlegal : s.element.IsLegal :=
        hwell.1.isLegal_element fun text heq hmem => hfirst ⟨text, heq, hmem⟩
      have hplain : ∀ piece ∈ [.slash, s.element.piece], piece.IsPlain :=
        List.forall_mem_cons.mpr ⟨trivial, List.forall_mem_singleton.mpr
          (hwell.1.piece_writes.isPlain hlegal)⟩
      have hspell : spell [.slash, s.element.piece] = '/' :: s.canonical.toList := by
        rw [spell_cons, spell_cons, spelled_piece_element]
        simp [Piece.spelled]
      have hrest : ¬HasNoColon segments := fun hnone => hcolon fun text htext hmem => by
        obtain rfl | htext := List.mem_cons.mp htext
        · exact hfirst ⟨text, rfl, hmem⟩
        · exact hnone text htext hmem
      obtain ⟨rest, hcut⟩ := ih hwell.2 hrest
      exact ⟨rest, by rw [← hspell, cutVerb_spell_append hplain, hcut]⟩

/-- The verb of a template is what was cut off its text. -/
theorem exists_cutVerb_of_ofChars {text : List Char} (h : Template.ofChars text = .ok t) :
    ∃ path verb, cutVerb 0 text = (path, verb) ∧ (∀ v ∈ verb, isVerb v = true) ∧
      t.verb = verb.map String.ofList := by
  obtain ⟨hne, path, verb, tokens, hcut, hverb, hscan⟩ := exists_tokens_of_ofChars h
  rw [ofChars_eq_templateOf hne hcut hverb hscan, templateOf_eq_ok_iff] at h
  exact ⟨path, verb, hcut, hverb, h.2.2.2⟩

/-- From a canonical text with a colon in a text another verb is read, or nothing. -/
theorem Template.IsWellFormed.hasNoColon_of_parse (ht : t.IsWellFormed)
    (h : Template.parse t.canonical = .ok t) : HasNoColon t.segments := by
  by_contra hcolon
  obtain ⟨path, verb, hcut, hverb, hsame⟩ := exists_cutVerb_of_ofChars h
  obtain ⟨front, back, htrim, hfront, hback⟩ := exists_trim t.canonical.toList
  have hne : t.segments ≠ [] := by
    intro hnil
    rw [hnil] at hcolon
    exact hcolon fun text htext => absurd htext List.not_mem_nil
  -- in the whole text the verb starts in a text, and holds the verb of the template
  obtain ⟨rest, hwhole⟩ := exists_cutVerb_pathChars ht.segments hcolon
    (verbText (t.verb.map String.toList))
  have hchars : pathChars Segment.canonical t.segments ++ verbText (t.verb.map String.toList) =
      t.canonical.toList := by
    rw [Template.canonical, toList_write, if_neg hne]
  have hplain : ∀ c ∈ front, c ≠ '{' ∧ c ≠ '}' ∧ (0 = 0 → c ≠ ':') := fun c hc =>
    ⟨ne_of_isBlank rfl c (hfront c hc), ne_of_isBlank rfl c (hfront c hc),
      fun _ => ne_of_isBlank rfl c (hfront c hc)⟩
  have hcolonBack : ':' ∉ back := fun hmem => ne_of_isBlank rfl ':' (hback ':' hmem) rfl
  rw [hchars, htrim, List.append_assoc, cutVerb_append hplain, cutVerb_append_of_notMem hcolonBack,
    hcut] at hwhole
  obtain ⟨v, rfl, hv⟩ := Option.map_eq_some_iff.mp hwhole
  -- so a colon is in what is read as a verb, or among the blanks behind it
  have hmem : ':' ∈ v ++ back := by
    rw [hv, hsame]
    simp [verbText]
  obtain hmem | hmem := List.mem_append.mp hmem
  · have hchars := hverb v rfl
    rw [isVerb, Bool.and_eq_true, List.all_eq_true] at hchars
    exact absurd (hchars.2 ':' hmem) (by decide)
  · exact absurd (hback ':' hmem) (by decide)

end Colons

/-! ## Main statement -/

/-- A template that was read is read from its canonical text, segments and verb, exactly when no text
of it has a colon and, without a verb, its last text does not end in a blank. -/
theorem canonical_texts_are_read_back {text : String} {t : Template}
    (h : Template.parse text = .ok t) :
    Template.parse t.canonical = .ok t ↔ HasNoColon t.segments ∧ t.EndsInNoBlank := by
  have ht := isWellFormed_of_parse h
  constructor
  · intro hcanonical
    have hcolon := ht.hasNoColon_of_parse hcanonical
    exact ⟨hcolon, ht.endsInNoBlank_of_parse hcolon hcanonical⟩
  · rintro ⟨hcolon, hend⟩
    exact ht.parse_canonical hcolon hend

/-- A template that comes back, and two that do not: a colon, and a blank at the end. -/
theorem readings_of_canonical_texts :
    Template.parse "/{path=files/*/old/*}" = .ok ⟨[.literal "files", .catchAll "path"], none⟩ ∧
    Template.parse "/files/{path=**}" = .ok ⟨[.literal "files", .catchAll "path"], none⟩ ∧
    Template.parse "/{range=a:b}" = .ok ⟨[.literal "a:b"], none⟩ ∧
    Template.parse "/a:b" ≠ .ok ⟨[.literal "a:b"], none⟩ ∧
    Template.parse "/a /" = .ok ⟨[.literal "a "], none⟩ ∧
    Template.parse "/a " ≠ .ok ⟨[.literal "a "], none⟩ := by
  have hfiles : Template.parse "/{path=files/*/old/*}" =
      .ok ⟨[.literal "files", .catchAll "path"], none⟩ := by
    decide +kernel
  have hcolon : Template.parse "/{range=a:b}" = .ok ⟨[.literal "a:b"], none⟩ := by decide +kernel
  have hblank : Template.parse "/a /" = .ok ⟨[.literal "a "], none⟩ := by decide +kernel
  refine ⟨hfiles, ?_, hcolon, fun hback => ?_, hblank, fun hback => ?_⟩
  · refine (canonical_texts_are_read_back hfiles).mpr ⟨fun text htext => ?_, fun _ text htext => ?_⟩
    · obtain rfl : text = "files" := by simpa using htext
      decide +kernel
    · cases htext
  · -- the colon of the literal would be read as that of a verb
    have hplain := ((canonical_texts_are_read_back hcolon).mp hback).1
    exact hplain "a:b" List.mem_cons_self (by decide +kernel)
  · -- the blank at the end would be trimmed
    have hend := ((canonical_texts_are_read_back hblank).mp hback).2
    exact absurd (hend rfl "a " rfl ' ' (by decide +kernel)) (by decide)

/-- Not every template that was read is read from its canonical text. -/
theorem canonical_texts_can_be_misread :
    ¬∀ text t, Template.parse text = .ok t → Template.parse t.canonical = .ok t := by
  intro h
  have hparse : Template.parse "/{range=a:b}" = .ok ⟨[.literal "a:b"], none⟩ := by decide +kernel
  have hverb : Template.parse "/a:b" = .ok ⟨[.literal "a"], some "b"⟩ := by decide +kernel
  have hback := h _ _ hparse
  rw [show Template.canonical ⟨[.literal "a:b"], none⟩ = "/a:b" by decide +kernel, hverb] at hback
  exact absurd (Except.ok.inj hback) (by decide)

end ProtoRest.Path
