import ProtoRest.Path.Layout
import ProtoRest.Proofs.Path.AcceptedTexts

/-! # Templates that are read are well formed
Reading establishes the invariant of templates (`isWellFormed_of_parse`), whatever text it is given:
the segments come from elements that can stand in a text, and the braces around these elements come
in pairs (`hasPairedBraces_of_parse`). -/

namespace ProtoRest.Path

open ProtoRest.Text

/-! ## Pairs of braces -/

section Braces

variable {s text : List Char}

/-- The braces of two texts in a row are those of the first and those of the second. -/
theorem bracesOf_append (s text : List Char) :
    bracesOf (s ++ text) = bracesOf s ++ bracesOf text :=
  List.filter_append s text

/-- A text without braces has none. -/
theorem bracesOf_eq_nil (h : ∀ c ∈ s, c ≠ '{' ∧ c ≠ '}') : bracesOf s = [] := by
  rw [bracesOf, List.filter_eq_nil_iff]
  intro c hc
  obtain ⟨hopen, hclose⟩ := h c hc
  simp [hopen, hclose]

/-- A text without braces has its braces in pairs. -/
theorem hasPairedBraces_of_notMem (h : ∀ c ∈ s, c ≠ '{' ∧ c ≠ '}') : HasPairedBraces s :=
  ⟨0, bracesOf_eq_nil h⟩

/-- Two texts with their braces in pairs are joined to one. -/
theorem HasPairedBraces.append (hs : HasPairedBraces s) (htext : HasPairedBraces text) :
    HasPairedBraces (s ++ text) := by
  obtain ⟨m, hm⟩ := hs
  obtain ⟨n, hn⟩ := htext
  refine ⟨m + n, ?_⟩
  rw [bracesOf_append, hm, hn, List.replicate_add, List.flatten_append]

/-- Texts without braces around a text make no difference. -/
theorem bracesOf_between {front back : List Char} (hfront : ∀ c ∈ front, c ≠ '{' ∧ c ≠ '}')
    (hback : ∀ c ∈ back, c ≠ '{' ∧ c ≠ '}') (s : List Char) :
    bracesOf (front ++ s ++ back) = bracesOf s := by
  rw [bracesOf_append, bracesOf_append, bracesOf_eq_nil hfront, bracesOf_eq_nil hback,
    List.nil_append, List.append_nil]

/-- A plain piece has its braces in pairs. -/
theorem Piece.IsPlain.hasPairedBraces {piece : Piece} (h : piece.IsPlain) :
    HasPairedBraces piece.spelled := by
  rcases piece with _ | s | body
  · exact hasPairedBraces_of_notMem (List.forall_mem_singleton.mpr (by decide))
  · refine hasPairedBraces_of_notMem fun c hc => ?_
    obtain ⟨-, hopen, hclose, -⟩ := h.2 c hc
    exact ⟨hopen, hclose⟩
  · -- the body has no braces of its own, so one pair is left
    have hbody : bracesOf body = [] := bracesOf_eq_nil h
    refine ⟨1, ?_⟩
    rw [Piece.spelled, List.cons_append, ← List.singleton_append, bracesOf_append, bracesOf_append,
      hbody]
    rfl

/-- The text of plain pieces has its braces in pairs. -/
theorem hasPairedBraces_spell {pieces : List Piece} (hplain : ∀ piece ∈ pieces, piece.IsPlain) :
    HasPairedBraces (spell pieces) := by
  induction pieces with
  | nil => exact ⟨0, rfl⟩
  | cons piece pieces ih =>
    rw [List.forall_mem_cons] at hplain
    rw [spell_cons]
    exact hplain.1.hasPairedBraces.append (ih hplain.2)

/-- A text that is read as a template has its braces in pairs. -/
theorem hasPairedBraces_of_ofChars {t : Template} (h : Template.ofChars text = .ok t) :
    HasPairedBraces text := by
  obtain ⟨-, path, verb, tokens, hcut, hverb, hscan⟩ := exists_tokens_of_ofChars h
  obtain ⟨pieces, hplain, -, rfl, -⟩ := exists_pieces hcut hscan
  refine (hasPairedBraces_spell hplain).append (hasPairedBraces_of_notMem fun c hc => ?_)
  obtain ⟨-, hopen, hclose, -⟩ := ne_of_mem_verbText hverb c hc
  exact ⟨hopen, hclose⟩

/-- The braces of a text that is read come in pairs. -/
theorem hasPairedBraces_of_parse {text : String} {t : Template} (h : Template.parse text = .ok t) :
    HasPairedBraces text.toList := by
  obtain ⟨front, back, htext, hfront, hback⟩ := exists_trim text.toList
  obtain ⟨n, hn⟩ := hasPairedBraces_of_ofChars h
  -- what trimming leaves out are blanks, and no brace is blank
  have hblank : ∀ c, isBlank c = true → c ≠ '{' ∧ c ≠ '}' := fun c hc =>
    ⟨ne_of_isBlank rfl c hc, ne_of_isBlank rfl c hc⟩
  refine ⟨n, ?_⟩
  rw [htext, bracesOf_between (fun c hc => hblank c (hfront c hc))
    (fun c hc => hblank c (hback c hc)), hn]

end Braces

/-! ## Segments -/

section Segments

variable {text : String}

/-- Every literal in a variable is the text of one of its parts. -/
theorem exists_part_of_literal_mem {name : String} {parts : List Part}
    (h : .literal text ∈ segmentsOfParts name parts) :
    ∃ s, .text s ∈ parts ∧ text = String.ofList s := by
  induction parts with
  | nil => cases h
  | cons part parts ih =>
    rcases part with s | _ | _
    · obtain h | h := List.mem_cons.mp h
      · exact ⟨s, List.mem_cons_self, Segment.literal.inj h⟩
      · obtain ⟨s', hs', htext⟩ := ih h
        exact ⟨s', List.mem_cons_of_mem _ hs', htext⟩
    · cases parts <;> cases List.mem_singleton.mp h
    · cases List.mem_singleton.mp h

/-- What is matched verbatim in a route can be: it is a text of its own or one of a pattern. -/
theorem Element.IsLegal.isLiteral {e : Element} (he : e.IsLegal) (h : .literal text ∈ e.segments) :
    isLiteral text.toList = true := by
  rcases e with (s | _ | _) | ⟨name, _ | parts⟩
  · obtain rfl := Segment.literal.inj (List.mem_singleton.mp h)
    rw [String.toList_ofList]
    exact he.1
  · cases h
  · cases h
  · cases List.mem_singleton.mp h
  · obtain ⟨s, hs, rfl⟩ := exists_part_of_literal_mem h
    rw [String.toList_ofList]
    exact he.2.2 (.text s) hs

end Segments

/-! ## Templates without their last text -/

section Last

variable {t : Template} {front : List Segment} {text : String}

/-- A literal at the end adds no parameter. -/
theorem parameters_append_literal (front : List Segment) (text : String) :
    (front ++ [Segment.literal text]).filterMap Segment.name? = front.filterMap Segment.name? := by
  rw [List.filterMap_append]
  exact List.append_nil _

/-- Without its last text a template is well formed as well. -/
theorem Template.IsWellFormed.withoutLast (ht : t.IsWellFormed)
    (hsegments : t.segments = front ++ [.literal text]) : Template.IsWellFormed ⟨front, none⟩ := by
  constructor
  case segments =>
    intro s hs
    refine ht.segments s ?_
    rw [hsegments]
    exact List.mem_append_left _ hs
  case names_nodup =>
    have hnodup := ht.names_nodup
    rwa [Template.parameters, hsegments, parameters_append_literal] at hnodup
  case catchAll_last =>
    have hlast := ht.catchAll_last
    rw [hsegments, List.dropLast_concat] at hlast
    exact fun s hs => hlast s ((List.dropLast_sublist front).mem hs)
  case verb => simp

/-- Another text may take the place of the last one, and of the verb with it. -/
theorem Template.IsWellFormed.withLast (ht : t.IsWellFormed)
    (hsegments : t.segments = front ++ [.literal text]) {other : String}
    (hother : isLiteral other.toList = true) :
    Template.IsWellFormed ⟨front ++ [.literal other], none⟩ := by
  have hfront := ht.withoutLast hsegments
  constructor
  case segments =>
    exact List.forall_mem_append.mpr ⟨hfront.segments, List.forall_mem_singleton.mpr hother⟩
  case names_nodup =>
    rw [Template.parameters, parameters_append_literal]
    exact hfront.names_nodup
  case catchAll_last =>
    have hlast := ht.catchAll_last
    rw [hsegments, List.dropLast_concat] at hlast
    rwa [List.dropLast_concat]
  case verb => simp

end Last

/-! ## Main statement -/

section Templates

variable {text : String} {t : Template}

/-- What is read is well formed. -/
theorem isWellFormed_of_parse (h : Template.parse text = .ok t) : t.IsWellFormed := by
  have hread := isRead_of_parse h
  have hnodup := nodup_parameters_of_parse h
  -- an accepted text writes a legal template, whose texts are literals
  obtain ⟨w, hlegal, -, -, rfl⟩ := exists_written_of_ofChars h
  constructor
  case segments =>
    intro s hs
    cases s with
    | literal text =>
      obtain ⟨e, he, htext⟩ := List.mem_flatMap.mp hs
      exact (hlegal.elements e he).isLiteral htext
    | param name => exact hread.names _ hs name rfl
    | catchAll name => exact hread.names _ hs name rfl
  case names_nodup => exact hnodup
  case catchAll_last => exact hread.catchAll_last
  case verb =>
    intro verb hverb
    obtain ⟨v, hv, rfl⟩ := Option.map_eq_some_iff.mp hverb
    rw [String.toList_ofList]
    exact ⟨hlegal.verb v hv, hread.verb_literal (Option.isSome_iff_exists.mpr ⟨_, hverb⟩)⟩

/-- In every text that is read the braces come in pairs, and what is read is well formed: texts hold
no character of the notation, parameters have pairwise different names, a parameter for the rest of a
path is the last segment, and a verb is not empty, keeps to its characters and follows a text. -/
theorem parsed_templates_are_well_formed (h : Template.parse text = .ok t) :
    HasPairedBraces text.toList ∧ t.IsWellFormed :=
  ⟨hasPairedBraces_of_parse h, isWellFormed_of_parse h⟩

end Templates

/-- A template with two kinds of texts, two parameters and a verb. -/
theorem wellFormed_of_shelfPages :
    Template.parse " /v1//{shelf=shelves/*}/books/{book}/pages:list" =
      .ok ⟨[.literal "v1", .literal "shelves", .param "shelf", .literal "books", .param "book",
        .literal "pages"], some "list"⟩ ∧
    HasPairedBraces " /v1//{shelf=shelves/*}/books/{book}/pages:list".toList ∧
    Template.IsWellFormed
      ⟨[.literal "v1", .literal "shelves", .param "shelf", .literal "books", .param "book",
        .literal "pages"], some "list"⟩ := by
  have hparse : Template.parse " /v1//{shelf=shelves/*}/books/{book}/pages:list" =
      .ok ⟨[.literal "v1", .literal "shelves", .param "shelf", .literal "books", .param "book",
        .literal "pages"], some "list"⟩ := by
    decide +kernel
  exact ⟨hparse, parsed_templates_are_well_formed hparse⟩

end ProtoRest.Path
