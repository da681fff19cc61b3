import ProtoRest.Proofs.Path.WrittenTemplates

/-! # Templates as they are spelled
A well-formed template is read from its own text exactly when it has a route, and other slashes
between its elements make no difference (`templates_with_routes_are_read`). -/

namespace ProtoRest.Path

open ProtoRest.Schema ProtoRest.Text

/-! ## Well-formed elements -/

/-- A plain text is one that is not empty and holds no blank and none of the signs of the grammar.
-/
theorem isPlainText_iff {s : List Char} : isPlainText s = true ↔
    s ≠ [] ∧ ∀ c ∈ s, isBlank c = false ∧ c ≠ '/' ∧ c ≠ '{' ∧ c ≠ '}' ∧ c ≠ '*' ∧ c ≠ ':' := by
  simp [isPlainText, List.all_eq_true]

section Elements

variable {p : Part} {e : Element}

/-- A well-formed part may stand in a written template. -/
theorem Part.IsWellFormed.isLegal (h : p.IsWellFormed) : p.IsLegal := by
  rcases p with s | _ | _
  · obtain ⟨hne, hs⟩ := isPlainText_iff.mp h
    refine isLiteral_iff.mpr ⟨hne, fun c hc => ?_⟩
    obtain ⟨-, hslash, hopen, hclose, hstar, -⟩ := hs c hc
    exact ⟨hslash, hopen, hclose, hstar⟩
  · trivial
  · trivial

/-- A well-formed part has no blank. -/
theorem Part.IsWellFormed.not_blank (h : p.IsWellFormed) :
    ∀ c ∈ p.spelled, isBlank c = false := by
  rcases p with s | _ | _
  · exact fun c hc => ((isPlainText_iff.mp h).2 c hc).1
  · exact List.forall_mem_singleton.mpr rfl
  · exact List.forall_mem_cons.mpr ⟨rfl, List.forall_mem_singleton.mpr rfl⟩

/-- A well-formed element may stand in a written template. -/
theorem Element.IsWellFormed.isLegal (h : e.IsWellFormed) : e.IsLegal := by
  rcases e with (s | _ | _) | ⟨name, _ | parts⟩
  · have hpart : (Part.text s).IsWellFormed := h
    exact ⟨hpart.isLegal, fun hc => ((isPlainText_iff.mp h).2 ':' hc).2.2.2.2.2 rfl⟩
  · trivial
  · trivial
  · exact h
  · exact ⟨h.1, h.2.1, fun p hp => (h.2.2 p hp).isLegal⟩

/-- A pattern of well-formed parts has no blank. -/
theorem not_blank_of_parts {parts : List Part} (h : ∀ p ∈ parts, p.IsWellFormed) :
    ∀ c ∈ joinWith ['/'] (parts.map Part.spelled), isBlank c = false := by
  intro c hc
  obtain hc | ⟨t, ht, hc⟩ := mem_joinWith hc
  · rw [List.mem_singleton.mp hc]
    rfl
  · obtain ⟨p, hp, rfl⟩ := List.mem_map.mp ht
    exact (h p hp).not_blank c hc

/-- A variable's name holds no blank. -/
theorem not_blank_of_isVariableText {name : List Char} (h : isVariableText name = true) :
    ∀ c ∈ name, isBlank c = false :=
  fun c hc => (isVariableText_iff.mp h c hc).1

/-- A well-formed element has no blank. -/
theorem Element.IsWellFormed.not_blank (h : e.IsWellFormed) :
    ∀ c ∈ e.piece.spelled, isBlank c = false := by
  rcases e with p | ⟨name, _ | parts⟩
  · exact Part.IsWellFormed.not_blank h
  · have hname := not_blank_of_isVariableText h
    exact List.forall_mem_append.mpr ⟨List.forall_mem_cons.mpr ⟨rfl, hname⟩,
      List.forall_mem_singleton.mpr rfl⟩
  · have hname := not_blank_of_isVariableText h.1
    have hparts := not_blank_of_parts h.2.2
    exact List.forall_mem_append.mpr ⟨List.forall_mem_cons.mpr ⟨rfl, List.forall_mem_append.mpr
      ⟨hname, List.forall_mem_cons.mpr ⟨rfl, hparts⟩⟩⟩, List.forall_mem_singleton.mpr rfl⟩

/-- A well-formed element is written by its own piece. -/
theorem Element.IsWellFormed.piece_writes (h : e.IsWellFormed) : e.piece.Writes e := by
  rcases e with p | ⟨name, _ | parts⟩
  · rfl
  · exact trim_eq_self (not_blank_of_isVariableText h)
  · obtain ⟨hname, hne, hparts⟩ := h
    refine ⟨name, _, rfl, trim_eq_self (not_blank_of_isVariableText hname), ?_⟩
    have hslash : ∀ t ∈ parts.map Part.spelled, '/' ∉ t := by
      intro t ht hc
      obtain ⟨p, hp, rfl⟩ := List.mem_map.mp ht
      exact (mem_spelled_part (hparts p hp).isLegal hc).1 rfl
    rw [trim_eq_self (not_blank_of_parts hparts), splitAt_joinWith (by simpa using hne) hslash,
      List.filter_eq_self]
    intro t ht
    obtain ⟨p, hp, rfl⟩ := List.mem_map.mp ht
    simpa using spelled_part_ne_nil (hparts p hp).isLegal

/-- The piece of an element is no slash. -/
theorem isSlash_piece (e : Element) : e.piece.isSlash = false := by
  rcases e with p | ⟨name, _ | parts⟩ <;> rfl

/-- The piece of an element is spelled as the element is. -/
theorem spelled_piece (e : Element) : e.piece.spelled = e.spelled := by
  rcases e with p | ⟨name, _ | parts⟩
  · rfl
  · rfl
  · simp [Element.piece, Piece.spelled, Element.spelled]

end Elements

/-! ## Well-formed templates -/

/-- No character of a verb is a blank. -/
theorem isBlank_of_isVerbChar {c : Char} (h : isVerbChar c = true) : isBlank c = false := by
  have hname : isNameChar c = true ∨ c = '-' ∨ c = '.' := by
    rw [isNameChar, Bool.or_eq_true]
    simpa [isVerbChar, or_assoc] using h
  obtain h | rfl | rfl := hname
  · exact forall_isNameChar (fun c => isBlank c = false) (by decide) h
  · rfl
  · rfl

section Templates

variable {w : Written} {pieces : List Piece}

/-- A well-formed written template is legal. -/
theorem Written.IsWellFormed.isLegal (hw : w.IsWellFormed) : w.IsLegal :=
  ⟨fun e he => (hw.elements e he).isLegal, hw.verb⟩

/-- The row of a template as it is spelled: a slash before each element. -/
def Written.row (w : Written) : List Piece := w.elements.flatMap fun e => [.slash, e.piece]

/-- A written template's text is its spelled row and its verb. -/
theorem text_eq_spell (w : Written) : w.text = spell w.row ++ verbText w.verb := by
  have hpath : w.elements.flatMap (fun e => '/' :: e.spelled) = spell w.row := by
    rw [Written.row, spell, List.flatMap_assoc]
    refine List.flatMap_congr fun e _ => ?_
    rw [List.flatMap_cons, List.flatMap_singleton, spelled_piece]
    rfl
  rw [← hpath]
  rfl

/-- The row of a written template is a spread of itself. -/
theorem isSpread_row (w : Written) : w.IsSpread w.row := by
  rw [Written.IsSpread, Written.row]
  induction w.elements with
  | nil => exact ⟨rfl, .nil⟩
  | cons e elements ih =>
    obtain ⟨hfilter, hspaced⟩ := ih
    rw [List.flatMap_cons]
    refine ⟨?_, ?_⟩
    · rw [List.filter_append, hfilter, List.filter_cons_of_neg (by decide),
        List.filter_cons_of_pos (by rw [isSlash_piece]; rfl)]
      rfl
    -- what follows an element is nothing or the slash before the next one
    cases elements with
    | nil => exact .cons_cons (.inl rfl) (.singleton _)
    | cons => exact .cons_cons (.inl rfl) (.cons_cons (.inr rfl) hspaced)

section Spread

variable (h : w.IsSpread pieces) (hw : w.IsWellFormed)

include h hw

/-- A spread of a written template lays it out. -/
theorem Written.IsSpread.isLaidOut : w.IsLaidOut pieces := by
  rw [Written.IsLaidOut, h.1, List.forall₂_map_left_iff, List.forall₂_same]
  exact fun e he => (hw.elements e he).piece_writes

/-- A well-formed template has no blank. -/
theorem Written.IsSpread.not_blank :
    ∀ c ∈ spell pieces ++ verbText w.verb, isBlank c = false := by
  refine List.forall_mem_append.mpr ⟨fun c hc => ?_,
    forall_mem_verbText rfl (fun _ => isBlank_of_isVerbChar) hw.verb⟩
  obtain ⟨piece, hpiece, hc⟩ := List.mem_flatMap.mp hc
  cases hslash : piece.isSlash with
  | true =>
    cases piece with
    | slash => rw [List.mem_singleton.mp hc]; rfl
    | text | braces => cases hslash
  | false =>
    have hmem : piece ∈ w.elements.map Element.piece := by
      rw [← h.1, List.mem_filter, hslash]
      exact ⟨hpiece, rfl⟩
    obtain ⟨e, he, rfl⟩ := List.mem_map.mp hmem
    exact (hw.elements e he).not_blank c hc

/-- The text of a spread is not empty. -/
theorem Written.IsSpread.ne_nil : spell pieces ++ verbText w.verb ≠ [] := by
  obtain ⟨e, elements, helements⟩ := List.exists_cons_of_ne_nil hw.elements_ne_nil
  have hmem : e.piece ∈ pieces := by
    have hfilter : e.piece ∈ pieces.filter (!·.isSlash) := by
      rw [h.1, helements]
      exact List.mem_cons_self
    exact List.mem_of_mem_filter hfilter
  have hplain := (h.isLaidOut hw).isPlain hw.isLegal e.piece hmem
  refine List.append_ne_nil_of_left_ne_nil (fun hnil => hplain.spelled_ne_nil ?_) _
  exact List.flatMap_eq_nil_iff.mp hnil e.piece hmem

/-- Trimming changes nothing in the text of a spread before it is parsed. -/
theorem Written.IsSpread.parse_eq :
    Template.parse (String.ofList (spell pieces ++ verbText w.verb)) =
      Template.ofChars (spell pieces ++ verbText w.verb) := by
  rw [Template.parse, String.toList_ofList, trim_eq_self (h.not_blank hw)]

/-- The text of a spread writes its template. -/
theorem Written.IsSpread.isWrittenIn : w.IsWrittenIn (spell pieces ++ verbText w.verb) :=
  ⟨pieces, h.isLaidOut hw, h.2.isRow, rfl⟩

end Spread

/-! ## Main statement -/

/-- A well-formed template is read from its text exactly when it has a route, and then as its
segments and its verb. From its text with other slashes the same is read: the first slash may be
missing, and more of them may stand before, between and after the elements. -/
theorem templates_with_routes_are_read (hw : w.IsWellFormed) :
    (∀ t, Template.parse (String.ofList w.text) = .ok t ↔ w.IsRoutable ∧ t = w.template) ∧
    ∀ pieces, w.IsSpread pieces →
      Template.parse (String.ofList (spell pieces ++ verbText w.verb)) =
        Template.parse (String.ofList w.text) := by
  have hrow := isSpread_row w
  rw [text_eq_spell]
  constructor
  · intro t
    rw [hrow.parse_eq hw]
    exact ofChars_eq_ok_iff hw.isLegal (hrow.isWrittenIn hw) (hrow.ne_nil hw)
  · intro pieces h
    -- both texts have the same elements, so they have the same tokens
    rw [h.parse_eq hw, hrow.parse_eq hw,
      ofChars_spell (h.isLaidOut hw) hw.isLegal h.2.isRow (h.ne_nil hw),
      ofChars_spell (hrow.isLaidOut hw) hw.isLegal hrow.2.isRow (hrow.ne_nil hw), h.1, hrow.1]

end Templates

/-- All books of one project. -/
def projectBooks : Written where
  elements :=
    [.variable "project".toList (some [.text "projects".toList, .one]), .part (.text "books".toList)]
  verb := some "list".toList

/-- It is read from its text, and from one without a first slash and with slashes to spare. -/
theorem readings_of_projectBooks :
    projectBooks.text = "/{project=projects/*}/books:list".toList ∧
    Template.parse "/{project=projects/*}/books:list" =
      .ok ⟨[.literal "projects", .param "project", .literal "books"], some "list"⟩ ∧
    Template.parse "{project=projects/*}//books/:list" =
      Template.parse "/{project=projects/*}/books:list" := by
  have hwell : projectBooks.IsWellFormed := ⟨by decide, by decide +kernel, by decide +kernel⟩
  have hroutable : projectBooks.IsRoutable :=
    ⟨by decide +kernel, by decide +kernel, by decide +kernel, by decide +kernel⟩
  have hspread : projectBooks.IsSpread [.braces "project=projects/*".toList, .slash, .slash,
      .text "books".toList, .slash] :=
    ⟨by decide +kernel, by simp [IsSpaced, Piece.isSlash]⟩
  obtain ⟨hparse, hspell⟩ := templates_with_routes_are_read hwell
  have htext : projectBooks.text = "/{project=projects/*}/books:list".toList := by decide +kernel
  rw [htext, String.ofList_toList] at hparse hspell
  refine ⟨htext, (hparse _).mpr ⟨hroutable, by decide +kernel⟩, ?_⟩
  rw [← hspell _ hspread]
  exact congrArg Template.parse (by decide +kernel)

end ProtoRest.Path
