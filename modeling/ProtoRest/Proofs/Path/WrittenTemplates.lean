import Mathlib.Data.List.Nodup
import ProtoRest.Proofs.Path.Layouts
import ProtoRest.Proofs.Path.ReadTemplates
import ProtoRest.Proofs.Text.Pieces

/-! # Reading written templates
A text that holds a template is read as the template if that has a route, and else not at all
(`ofChars_eq_ok_iff`). Each piece is read as the segments of its element (`exists_token`), and what
the segments have to satisfy together is what makes a template routable (`isRoutable_iff`). -/

namespace ProtoRest.Path

open ProtoRest.Result ProtoRest.Text

/-! ## Pieces of elements -/

section Elements

variable {piece : Piece} {e : Element} {p : Part} {s name : List Char} {c : Char}

/-- A literal is a text that is not empty and holds no slash, brace or star. -/
theorem isLiteral_iff : isLiteral s = true ↔
    s ≠ [] ∧ ∀ c ∈ s, c ≠ '/' ∧ c ≠ '{' ∧ c ≠ '}' ∧ c ≠ '*' := by
  simp [isLiteral, List.all_eq_true]

/-- The text of a variable holds no blank, brace or equals sign. -/
theorem isVariableText_iff : isVariableText name = true ↔
    ∀ c ∈ name, isBlank c = false ∧ c ≠ '{' ∧ c ≠ '}' ∧ c ≠ '=' := by
  simp [isVariableText, List.all_eq_true]

/-- A part of a pattern has no character that ends a part. -/
theorem mem_spelled_part (hp : p.IsLegal) (hc : c ∈ p.spelled) : c ≠ '/' ∧ c ≠ '{' ∧ c ≠ '}' := by
  cases p with
  | text s =>
    obtain ⟨hslash, hopen, hclose, -⟩ := (isLiteral_iff.mp hp).2 c hc
    exact ⟨hslash, hopen, hclose⟩
  | one =>
    rw [List.mem_singleton.mp hc]
    decide
  | many =>
    simp only [Part.spelled, List.mem_cons, List.not_mem_nil, or_false, or_self] at hc
    rw [hc]
    decide

/-- The text of a legal part is not empty. -/
theorem spelled_part_ne_nil (hp : p.IsLegal) : p.spelled ≠ [] := by
  cases p with
  | text s => exact (isLiteral_iff.mp hp).1
  | one | many => simp [Part.spelled]

/-- What holds of blanks and of a trimmed text holds of the text. -/
theorem forall_mem_of_trim {q : Char → Prop} (hblank : ∀ c, isBlank c = true → q c)
    (h : ∀ c ∈ trim s, q c) : ∀ c ∈ s, q c :=
  fun c hc => (mem_trim_or_isBlank hc).elim (h c) (hblank c)

/-- A blank is none of the characters that are no blanks. -/
theorem ne_of_isBlank {d : Char} (hd : isBlank d = false) (c : Char) (hc : isBlank c = true) :
    c ≠ d := by
  rintro rfl
  rw [hd] at hc
  cases hc

/-- The name of a variable has no brace and no equals sign, with the blanks around it. -/
theorem forall_mem_of_isVariableText (h : isVariableText (trim s) = true) :
    ∀ c ∈ s, c ≠ '{' ∧ c ≠ '}' ∧ c ≠ '=' :=
  forall_mem_of_trim (fun c hc => ⟨ne_of_isBlank rfl c hc, ne_of_isBlank rfl c hc,
    ne_of_isBlank rfl c hc⟩) fun c hc => (isVariableText_iff.mp h c hc).2

/-- A pattern has no brace, with the blanks around it. -/
theorem forall_mem_of_parts {parts : List Part}
    (hparts : (splitAt '/' (trim s)).filter (· ≠ []) = parts.map Part.spelled)
    (hlegal : ∀ p ∈ parts, p.IsLegal) : ∀ c ∈ s, c ≠ '{' ∧ c ≠ '}' := by
  refine forall_mem_of_trim (fun c hc => ⟨ne_of_isBlank rfl c hc, ne_of_isBlank rfl c hc⟩)
    fun c hc => ?_
  obtain rfl | ⟨piece, hpiece, hc⟩ := mem_splitAt_or '/' hc
  · decide
  · have hspelled : piece ∈ parts.map Part.spelled := by
      rw [← hparts, List.mem_filter]
      exact ⟨hpiece, by simpa using List.ne_nil_of_mem hc⟩
    obtain ⟨p, hp, rfl⟩ := List.mem_map.mp hspelled
    exact (mem_spelled_part (hlegal p hp) hc).2

/-- The piece of an element that can stand in a text is plain. -/
theorem Piece.Writes.isPlain (h : piece.Writes e) (he : e.IsLegal) : piece.IsPlain := by
  rcases piece with _ | s | body
  · trivial
  · rcases e with p | _
    · obtain rfl : s = p.spelled := h
      -- the stars spell no character that a plain text may not have
      rcases p with s | _ | _
      · obtain ⟨hliteral, hcolon⟩ := he
        obtain ⟨hne, hs⟩ := isLiteral_iff.mp hliteral
        refine ⟨hne, fun c hc => ?_⟩
        obtain ⟨hslash, hopen, hclose, -⟩ := hs c hc
        exact ⟨hslash, hopen, hclose, fun h => hcolon (h ▸ hc)⟩
      · simp [Piece.IsPlain, Part.spelled]
      · simp [Piece.IsPlain, Part.spelled]
    · cases h
  · rcases e with p | ⟨name, _ | parts⟩
    · cases h
    · obtain rfl : trim body = name := h
      intro c hc
      obtain ⟨hopen, hclose, -⟩ := forall_mem_of_isVariableText he c hc
      exact ⟨hopen, hclose⟩
    · obtain ⟨front, back, rfl, rfl, hparts⟩ := h
      obtain ⟨hname, -, hlegal⟩ := he
      refine List.forall_mem_append.mpr ⟨fun c hc => ?_, List.forall_mem_cons.mpr
        ⟨by decide, forall_mem_of_parts hparts hlegal⟩⟩
      obtain ⟨hopen, hclose, -⟩ := forall_mem_of_isVariableText hname c hc
      exact ⟨hopen, hclose⟩

/-! ## Segments of elements -/

/-- The check of a name passes exactly the names. -/
theorem checkName_eq_ok_iff : checkName name = .ok () ↔ isName name = true := by
  rw [checkName]
  split_ifs with hdot hname
  · refine iff_of_false (by simp) fun hname => ?_
    exact notMem_of_isName hname rfl (by decide) hdot
  · simp [hname]
  · simp [hname]

/-- A part has a star when it is a wildcard, and then it is nothing but stars. -/
theorem star_mem_spelled (hp : p.IsLegal) :
    ('*' ∈ p.spelled ↔ p.isWildcard = true) ∧ isWildcard p.spelled = p.isWildcard := by
  rcases p with s | _ | _
  · have hstar : '*' ∉ s := fun hc => ((isLiteral_iff.mp hp).2 '*' hc).2.2.2 rfl
    refine ⟨iff_of_false hstar (by simp [Part.isWildcard]), ?_⟩
    rw [Part.isWildcard, isWildcard, Bool.or_eq_false_iff, beq_eq_false_iff_ne,
      beq_eq_false_iff_ne]
    constructor
    · rintro rfl
      exact hstar List.mem_cons_self
    · rintro rfl
      exact hstar List.mem_cons_self
  · decide
  · decide

/-- A pattern is read as the texts before its first wildcard, and a parameter for the rest of it. -/
theorem patternSegments_spelled {parts : List Part} (hlegal : ∀ p ∈ parts, p.IsLegal)
    (name : String) :
    patternSegments name (parts.map Part.spelled) = segmentsOfParts name parts := by
  induction parts with
  | nil => rfl
  | cons p parts ih =>
    rw [List.forall_mem_cons] at hlegal
    rw [List.map_cons, patternSegments, (star_mem_spelled hlegal.1).2]
    rcases p with s | _ | _
    · rw [ih hlegal.2]
      rfl
    · cases parts with
      | nil => rfl
      | cons q parts => rfl
    · rfl

/-- A variable whose pattern has legal parts is read as the segments of its parts. -/
theorem variableSegments_eq_ok {pattern : List Char} {parts : List Part}
    (hparts : (splitAt '/' pattern).filter (· ≠ []) = parts.map Part.spelled) (hne : parts ≠ [])
    (hlegal : ∀ p ∈ parts, p.IsLegal) :
    variableSegments name (some pattern) = .ok (segmentsOfParts (String.ofList name) parts) := by
  have hfind : (parts.map Part.spelled).find?
      (fun part => '*' ∈ part && !isWildcard part) = none := by
    rw [List.find?_eq_none]
    intro part hpart
    obtain ⟨p, hp, rfl⟩ := List.mem_map.mp hpart
    obtain ⟨hstar, hwildcard⟩ := star_mem_spelled (hlegal p hp)
    simp [hstar, hwildcard]
  rw [variableSegments]
  simp only [hparts, List.map_eq_nil_iff, if_neg hne, hfind, patternSegments_spelled hlegal]

/-- The segments of a text or a wildcard outside braces. -/
theorem literal_segments_eq_ok_iff (hp : (Element.part p).IsLegal) {segments : List Segment} :
    (Token.literal p.spelled).segments = .ok segments ↔
      (Element.part p).IsRoutable ∧ segments = (Element.part p).segments := by
  have hlegal : p.IsLegal := by
    rcases p with s | _ | _
    · exact hp.1
    · trivial
    · trivial
  obtain ⟨hstar, hwildcard⟩ := star_mem_spelled hlegal
  rw [Token.segments, bind_eq_ok_iff]
  simp only [pure_eq_ok_iff, literalSegment, hwildcard, hstar]
  rcases p with s | _ | _
  · simp [Part.isWildcard, Element.IsRoutable, Element.segments, Part.spelled, eq_comm]
  · simp [Part.isWildcard, Element.IsRoutable]
  · simp [Part.isWildcard, Element.IsRoutable]

/-- The segments of a variable whose pattern, if it has one, is read as segments. -/
theorem variable_segments_eq_ok_iff {pattern : Option (List Char)} {found segments : List Segment}
    (h : variableSegments name pattern = .ok found) :
    (Token.variable name pattern).segments = .ok segments ↔
      isName name = true ∧ segments = found := by
  rw [Token.segments, bind_eq_ok_iff]
  simp only [h, Except.ok.injEq, eq_comm (a := found)]
  constructor
  · rintro ⟨⟨⟩, hname, hsegments⟩
    exact ⟨checkName_eq_ok_iff.mp hname, hsegments⟩
  · rintro ⟨hname, hsegments⟩
    exact ⟨(), checkName_eq_ok_iff.mpr hname, hsegments⟩

/-- A piece is read as the segments of its element, if that can be routed. -/
theorem Piece.Writes.exists_token (h : piece.Writes e) (he : e.IsLegal) :
    ∃ token, piece.token? = some token ∧
      ∀ segments, token.segments = .ok segments ↔ e.IsRoutable ∧ segments = e.segments := by
  rcases piece with _ | s | body
  · cases h
  · rcases e with p | _
    · obtain rfl : s = p.spelled := h
      exact ⟨_, rfl, fun _ => literal_segments_eq_ok_iff he⟩
    · cases h
  · rcases e with p | ⟨name, _ | parts⟩
    · cases h
    · -- a name has no equals sign, so the body is not divided
      obtain rfl : trim body = name := h
      have hbody : Token.ofBody body = .variable (trim body) none := by
        have hequals : '=' ∉ body := fun hc => (forall_mem_of_isVariableText he '=' hc).2.2 rfl
        rw [Token.ofBody, splitOnce_eq_none_iff.mpr hequals]
      rw [Piece.token?, hbody]
      exact ⟨_, rfl, fun _ => variable_segments_eq_ok_iff rfl⟩
    · -- the first equals sign is the one between the name and the pattern
      obtain ⟨front, back, rfl, rfl, hparts⟩ := h
      obtain ⟨hname, hne, hlegal⟩ := he
      have hbody : Token.ofBody (front ++ '=' :: back) =
          .variable (trim front) (some (trim back)) := by
        have hequals : '=' ∉ front := fun hc =>
          (forall_mem_of_isVariableText hname '=' hc).2.2 rfl
        rw [Token.ofBody, splitOnce_eq_some_iff.mpr ⟨rfl, hequals⟩]
      rw [Piece.token?, hbody]
      exact ⟨_, rfl, fun _ =>
        variable_segments_eq_ok_iff (variableSegments_eq_ok hparts hne hlegal)⟩

end Elements

/-! ## Segments of templates -/

/-- Slashes give no token, so that they may be left out beforehand. -/
theorem filterMap_token?_filter (pieces : List Piece) :
    (pieces.filter (!·.isSlash)).filterMap Piece.token? = pieces.filterMap Piece.token? := by
  rw [List.filterMap_filter]
  refine List.filterMap_congr fun piece _ => ?_
  cases piece <;> rfl

/-- The elements of a template are read one by one. -/
theorem segmentsOf_eq_ok_iff {pieces : List Piece} {elements : List Element}
    (h : List.Forall₂ Piece.Writes pieces elements) (hlegal : ∀ e ∈ elements, e.IsLegal)
    {segments : List Segment} :
    segmentsOf (pieces.filterMap Piece.token?) = .ok segments ↔
      (∀ e ∈ elements, e.IsRoutable) ∧ segments = elements.flatMap Element.segments := by
  induction h generalizing segments with
  | nil => simp [segmentsOf, eq_comm]
  | @cons piece e pieces elements hpiece _ ih =>
    rw [List.forall_mem_cons] at hlegal
    obtain ⟨token, htoken, hfirst⟩ := hpiece.exists_token hlegal.1
    rw [List.filterMap_cons_some htoken, segmentsOf, bind_eq_ok_iff, List.forall_mem_cons,
      List.flatMap_cons]
    simp only [hfirst, bind_eq_ok_iff, ih hlegal.2, pure_eq_ok_iff]
    constructor
    · rintro ⟨_, ⟨he, rfl⟩, _, ⟨helements, rfl⟩, rfl⟩
      exact ⟨⟨he, helements⟩, rfl⟩
    · rintro ⟨⟨he, helements⟩, rfl⟩
      exact ⟨_, ⟨he, rfl⟩, _, ⟨helements, rfl⟩, rfl⟩

/-- A variable names one parameter when a part of it is a wildcard, and none otherwise. -/
theorem filterMap_name?_segmentsOfParts (name : String) (parts : List Part) :
    (segmentsOfParts name parts).filterMap Segment.name? =
      if parts.any Part.isWildcard then [name] else [] := by
  induction parts with
  | nil => rfl
  | cons p parts ih =>
    rcases p with s | _ | _
    · rw [segmentsOfParts, List.filterMap_cons_none rfl, ih]
      rfl
    · cases parts <;> rfl
    · rfl

/-- The names that the segments of a template bind are the names that its elements bind. -/
theorem filterMap_name?_segments (elements : List Element) :
    (elements.flatMap Element.segments).filterMap Segment.name? =
      (elements.filterMap Element.binds?).map String.ofList := by
  induction elements with
  | nil => rfl
  | cons e elements ih =>
    rw [List.flatMap_cons, List.filterMap_append, ih]
    rcases e with (s | _ | _) | ⟨name, _ | parts⟩
    · rfl
    · rfl
    · rfl
    · rfl
    · -- a variable binds its name where its pattern has a wildcard
      rw [Element.segments, filterMap_name?_segmentsOfParts]
      cases hwildcard : parts.any Part.isWildcard with
      | true =>
        have hbinds : (Element.variable name (some parts)).binds? = some name := by
          rw [Element.binds?, if_pos hwildcard]
        rw [List.filterMap_cons_some hbinds]
        rfl
      | false =>
        rw [List.filterMap_cons_none (by rw [Element.binds?, if_neg (by simp [hwildcard])])]
        rfl

/-- What a template makes is a template exactly when it has a route. -/
theorem isRoutable_iff {w : Written} :
    w.IsRoutable ↔ (∀ e ∈ w.elements, e.IsRoutable) ∧ checkOrder [] w.segments = .ok () ∧
      (w.verb.isSome → endsInLiteral w.segments = true) := by
  have hnames : (w.segments.filterMap Segment.name?).Nodup ↔
      (w.elements.filterMap Element.binds?).Nodup := by
    rw [Written.segments, filterMap_name?_segments,
      List.nodup_map_iff fun _ _ => String.ofList_injective]
  rw [checkOrder_eq_ok_iff, hnames]
  constructor
  · rintro ⟨helements, hlast, hnodup, hverb⟩
    exact ⟨helements, ⟨hlast, hnodup, fun _ _ => List.not_mem_nil⟩, hverb⟩
  · rintro ⟨helements, ⟨hlast, hnodup, -⟩, hverb⟩
    exact ⟨helements, hlast, hnodup, hverb⟩

/-! ## Templates in texts -/

section Written

variable {w : Written} {pieces : List Piece} {text : List Char} {t : Template}

/-- The pieces of a legal template are plain, however it is laid out. -/
theorem Written.IsLaidOut.isPlain (h : w.IsLaidOut pieces) (hw : w.IsLegal) :
    ∀ piece ∈ pieces, piece.IsPlain := by
  intro piece hpiece
  rcases piece with _ | s | body
  · trivial
  · obtain ⟨e, he, hwrites⟩ := exists_right_of_forall₂ h (.text s) (by simp [hpiece, Piece.isSlash])
    exact hwrites.isPlain (hw.elements e he)
  · obtain ⟨e, he, hwrites⟩ := exists_right_of_forall₂ h (.braces body)
      (by simp [hpiece, Piece.isSlash])
    exact hwrites.isPlain (hw.elements e he)

/-- What a text that holds a template is read as depends on the tokens of its pieces and its verb. -/
theorem ofChars_spell (h : w.IsLaidOut pieces) (hw : w.IsLegal) (hrow : IsRow pieces)
    (hne : spell pieces ++ verbText w.verb ≠ []) :
    Template.ofChars (spell pieces ++ verbText w.verb) =
      templateOf ((pieces.filter (!·.isSlash)).filterMap Piece.token?) w.verb := by
  have hplain := h.isPlain hw
  rw [filterMap_token?_filter]
  exact ofChars_eq_templateOf hne (cutVerb_spell hplain w.verb) hw.verb (scan_spell hplain hrow)

/-- A text that holds a template is read exactly when the template has a route, and then it is read
as the template. -/
theorem ofChars_eq_ok_iff (hw : w.IsLegal) (h : w.IsWrittenIn text) (hne : text ≠ []) :
    Template.ofChars text = .ok t ↔ w.IsRoutable ∧ t = w.template := by
  obtain ⟨pieces, hlaid, hrow, rfl⟩ := h
  rw [ofChars_spell hlaid hw hrow hne, templateOf_eq_ok_iff,
    segmentsOf_eq_ok_iff hlaid hw.elements, isRoutable_iff, ← Written.segments]
  constructor
  · rintro ⟨⟨helements, hsegments⟩, horder, hliteral, hverb⟩
    rw [hsegments] at horder hliteral
    exact ⟨⟨helements, horder, hliteral⟩, by rw [Written.template, ← hsegments, ← hverb]⟩
  · rintro ⟨⟨helements, horder, hliteral⟩, rfl⟩
    exact ⟨⟨helements, rfl⟩, horder, hliteral, rfl⟩

end Written

end ProtoRest.Path
