import ProtoRest.Proofs.Path.WrittenTemplates

/-! # Texts that are accepted
Every text that is read holds a template, but it may not be one in the notation: slashes leave no
token, so a missing one goes unnoticed beside braces, and one before the verb does too.
`accepted_texts_hold_templates` says which texts that are read are in the notation, and
`separators_can_be_missing` that not all are. -/

namespace ProtoRest.Path

open ProtoRest.Result ProtoRest.Text

/-! ## Elements of pieces -/

section Elements

variable {s : List Char} {piece : Piece} {token : Token} {segments : List Segment}

/-- The part that stands between two slashes of a pattern. -/
def Part.ofChars (s : List Char) : Part :=
  if s = ['*'] then .one else if s = ['*', '*'] then .many else .text s

/-- The part made of a text is spelled as the text. -/
@[simp] theorem spelled_ofChars (s : List Char) : (Part.ofChars s).spelled = s := by
  rw [Part.ofChars]
  split_ifs with hone hmany
  · exact hone.symm
  · exact hmany.symm
  · rfl

/-- The part made of a text is legal when the text is not empty and, unless it is a wildcard, holds none
of the signs. -/
theorem isLegal_ofChars (hne : s ≠ []) (hs : ∀ c ∈ s, c ≠ '/' ∧ c ≠ '{' ∧ c ≠ '}')
    (hstar : '*' ∈ s → isWildcard s = true) : (Part.ofChars s).IsLegal := by
  rw [Part.ofChars]
  split_ifs with hone hmany
  · trivial
  · trivial
  · refine isLiteral_iff.mpr ⟨hne, fun c hc => ?_⟩
    obtain ⟨hslash, hopen, hclose⟩ := hs c hc
    refine ⟨hslash, hopen, hclose, ?_⟩
    rintro rfl
    have hwildcard := hstar hc
    rw [isWildcard, Bool.or_eq_true, beq_iff_eq, beq_iff_eq] at hwildcard
    exact hwildcard.elim hone hmany

/-- A name may be the text of a variable. -/
theorem isVariableText_of_isName (h : isName s = true) : isVariableText s = true := by
  refine isVariableText_iff.mpr fun c hc => ?_
  exact forall_isNameChar (fun c => isBlank c = false ∧ c ≠ '{' ∧ c ≠ '}' ∧ c ≠ '=') (by decide)
    (isNameChar_of_isName h c hc)

/-- The parts of a pattern that is read. -/
theorem exists_parts_of_variableSegments {name pattern : List Char}
    (h : variableSegments name (some pattern) = .ok segments)
    (hpattern : ∀ c ∈ pattern, c ≠ '{' ∧ c ≠ '}') :
    ∃ parts : List Part, (splitAt '/' pattern).filter (· ≠ []) = parts.map Part.spelled ∧
      parts ≠ [] ∧ ∀ p ∈ parts, p.IsLegal := by
  simp only [variableSegments] at h
  split_ifs at h with hempty
  split at h
  · cases h
  · next hfind =>
    refine ⟨((splitAt '/' pattern).filter (· ≠ [])).map Part.ofChars, ?_, by simpa using hempty, ?_⟩
    · have hspelled : Part.spelled ∘ Part.ofChars = id := funext spelled_ofChars
      rw [List.map_map, hspelled, List.map_id]
    rw [List.forall_mem_map]
    intro s hs
    rw [List.find?_eq_none] at hfind
    -- a star is refused unless it is a whole wildcard
    have hstar := hfind s hs
    obtain ⟨hs, hne⟩ := List.mem_filter.mp hs
    refine isLegal_ofChars (by simpa using hne) (fun c hc => ?_) (by simpa using hstar)
    obtain ⟨hc, hslash⟩ := mem_of_mem_splitAt hs hc
    exact ⟨hslash, hpattern c hc⟩

/-- A piece that is read as segments writes an element. -/
theorem Piece.IsPlain.exists_writes (hplain : piece.IsPlain) (htoken : piece.token? = some token)
    (h : token.segments = .ok segments) : ∃ e : Element, piece.Writes e ∧ e.IsLegal := by
  rcases piece with _ | s | body
  · cases htoken
  · obtain rfl := Option.some.inj htoken
    obtain ⟨segment, hsegment, -⟩ := bind_eq_ok_iff.mp h
    rw [literalSegment] at hsegment
    split_ifs at hsegment with hwildcard hstar
    refine ⟨.part (.text s), rfl, ?_, fun hc => (hplain.2 ':' hc).2.2.2 rfl⟩
    refine isLiteral_iff.mpr ⟨hplain.1, fun c hc => ?_⟩
    obtain ⟨hslash, hopen, hclose, -⟩ := hplain.2 c hc
    exact ⟨hslash, hopen, hclose, fun h => hstar (h ▸ hc)⟩
  · obtain rfl := Option.some.inj htoken
    rw [Token.ofBody] at h
    split at h
    · next front back hsplit =>
      -- braces with a pattern: a pattern that is read is made of parts
      obtain ⟨rfl, -⟩ := splitOnce_eq_some_iff.mp hsplit
      obtain ⟨⟨⟩, hname, h⟩ := bind_eq_ok_iff.mp h
      have hback : ∀ c ∈ trim back, c ≠ '{' ∧ c ≠ '}' := fun c hc =>
        hplain c (List.mem_append_right _ (List.mem_cons_of_mem _ (mem_of_mem_trim hc)))
      obtain ⟨parts, hparts, hne, hlegal⟩ := exists_parts_of_variableSegments h hback
      exact ⟨.variable (trim front) (some parts), ⟨front, back, rfl, rfl, hparts⟩,
        isVariableText_of_isName (checkName_eq_ok_iff.mp hname), hne, hlegal⟩
    · obtain ⟨⟨⟩, hname, -⟩ := bind_eq_ok_iff.mp h
      exact ⟨.variable (trim body) none, rfl,
        isVariableText_of_isName (checkName_eq_ok_iff.mp hname)⟩

/-- The slashes are the pieces without a token. -/
theorem token?_eq_none_iff : piece.token? = none ↔ piece.isSlash = true := by
  cases piece <;> simp [Piece.token?, Piece.isSlash]

/-- The pieces of a path that is read write elements. -/
theorem exists_elements {pieces : List Piece} (hplain : ∀ piece ∈ pieces, piece.IsPlain)
    (h : segmentsOf (pieces.filterMap Piece.token?) = .ok segments) :
    ∃ elements : List Element,
      List.Forall₂ Piece.Writes (pieces.filter (!·.isSlash)) elements ∧
        ∀ e ∈ elements, e.IsLegal := by
  induction pieces generalizing segments with
  | nil => exact ⟨[], .nil, by simp⟩
  | cons piece pieces ih =>
    rw [List.forall_mem_cons] at hplain
    cases htoken : piece.token? with
    | none =>
      -- a slash is neither read nor an element
      rw [List.filterMap_cons_none htoken] at h
      rw [List.filter_cons_of_neg (by simp [token?_eq_none_iff.mp htoken])]
      exact ih hplain.2 h
    | some token =>
      rw [List.filterMap_cons_some htoken, segmentsOf] at h
      obtain ⟨first, hfirst, h⟩ := bind_eq_ok_iff.mp h
      obtain ⟨rest, hrest, -⟩ := bind_eq_ok_iff.mp h
      obtain ⟨e, hwrites, he⟩ := hplain.1.exists_writes htoken hfirst
      obtain ⟨elements, hall, helements⟩ := ih hplain.2 hrest
      have hslash : piece.isSlash = false := by
        rw [Bool.eq_false_iff, ne_eq, ← token?_eq_none_iff, htoken]
        simp
      rw [List.filter_cons_of_pos (by simp [hslash])]
      exact ⟨e :: elements, .cons hwrites hall, List.forall_mem_cons.mpr ⟨he, helements⟩⟩

end Elements

/-- A text that is read holds a template. -/
theorem exists_written_of_ofChars {text : List Char} {t : Template}
    (h : Template.ofChars text = .ok t) :
    ∃ w : Written, w.IsLegal ∧ w.IsRoutable ∧ w.IsWrittenIn text ∧ t = w.template := by
  obtain ⟨hne, path, verb, tokens, hcut, hverb, hscan⟩ := exists_tokens_of_ofChars h
  obtain ⟨pieces, hplain, hrow, htext, rfl⟩ := exists_pieces hcut hscan
  -- the segments that are read say that every piece with a token writes an element
  have htemplate := h
  rw [ofChars_eq_templateOf hne hcut hverb hscan, templateOf_eq_ok_iff] at htemplate
  obtain ⟨elements, hlaid, hlegal⟩ := exists_elements hplain htemplate.1
  have hw : (⟨elements, verb⟩ : Written).IsLegal := ⟨hlegal, hverb⟩
  have hwritten : (⟨elements, verb⟩ : Written).IsWrittenIn text := ⟨pieces, hlaid, hrow, htext⟩
  obtain ⟨hroutable, ht⟩ := (ofChars_eq_ok_iff hw hwritten hne).mp h
  exact ⟨⟨elements, verb⟩, hw, hroutable, hwritten, ht⟩

/-! ## Braces and slashes -/

/-- Whether one character may follow another: a brace opens behind a slash, and a slash or the colon
of the verb stands behind one that closes. -/
def AreApart (c d : Char) : Prop := (d = '{' → c = '/') ∧ (c = '}' → d = '/' ∨ d = ':')

instance : DecidableRel AreApart := fun c d =>
  inferInstanceAs (Decidable ((d = '{' → c = '/') ∧ (c = '}' → d = '/' ∨ d = ':')))

/-- Whether all braces of a text are set off by slashes. -/
def BracesApart (text : List Char) : Prop := text.IsChain AreApart

instance : DecidablePred BracesApart := fun text =>
  inferInstanceAs (Decidable (text.IsChain AreApart))

/-- Whether no slash stands before the verb. -/
def VerbApart (verb : Option String) (text : List Char) : Prop :=
  ∀ v ∈ verb, ¬('/' :: ':' :: v.toList) <:+ text

/-- A text without braces keeps its braces apart. -/
theorem isChain_of_notMem {s : List Char} (hs : ∀ c ∈ s, c ≠ '{' ∧ c ≠ '}') :
    s.IsChain AreApart := by
  induction s with
  | nil => exact .nil
  | cons c s ih =>
    rw [List.forall_mem_cons] at hs
    refine List.isChain_cons.mpr ⟨fun d hd => ⟨fun h => ?_, fun h => absurd h hs.1.2⟩, ih hs.2⟩
    exact absurd h (hs.2 d (List.mem_of_head? hd)).1

section Pieces

variable {p q : Piece} {pieces : List Piece} {verb : Option (List Char)}

/-- A pair of braces ends with the one that closes. -/
theorem getLast?_braces (body : List Char) : (Piece.braces body).spelled.getLast? = some '}' :=
  List.getLast?_concat

/-- A plain piece keeps its braces apart. -/
theorem Piece.IsPlain.isChain_spelled (hp : p.IsPlain) : p.spelled.IsChain AreApart := by
  rcases p with _ | s | body
  · exact .singleton _
  · exact isChain_of_notMem fun c hc => ⟨(hp.2 c hc).2.1, (hp.2 c hc).2.2.1⟩
  · -- the brace that opens is the first character, and the one that closes is the last
    have hbody : (body ++ ['}']).IsChain AreApart := by
      refine List.isChain_append.mpr ⟨isChain_of_notMem hp, .singleton _, fun c hc d hd => ?_⟩
      obtain rfl : '}' = d := by simpa using hd
      exact ⟨fun h => absurd h (by decide), fun h => absurd h (hp c (List.mem_of_getLast? hc)).2⟩
    refine List.isChain_cons.mpr ⟨fun d hd => ⟨fun h => ?_, fun h => absurd h (by decide)⟩, hbody⟩
    obtain hd | hd := List.mem_append.mp (List.mem_of_head? hd)
    · exact absurd h (hp d hd).1
    · exact absurd (h.symm.trans (List.mem_singleton.mp hd)) (by decide)

/-- Where two pieces meet, a brace is set off if one of them is a slash. -/
theorem areApart_iff (hp : p.IsPlain) (hq : q.IsPlain) (htexts : ¬(p.isText = true ∧ q.isText = true))
    {c d : Char} (hc : p.spelled.getLast? = some c) (hd : q.spelled.head? = some d) :
    AreApart c d ↔ p.isSlash = true ∨ q.isSlash = true := by
  have hlast : p = .slash ∧ c = '/' ∨ p.isSlash = false ∧ c ≠ '/' ∧
      (p.isText = false → c = '}') := by
    rcases p with _ | s | body
    · exact .inl ⟨rfl, (Option.some.inj hc).symm⟩
    · exact .inr ⟨rfl, (hp.2 c (List.mem_of_getLast? hc)).1, fun h => by cases h⟩
    · obtain rfl := Option.some.inj ((getLast?_braces body).symm.trans hc)
      exact .inr ⟨rfl, by decide, fun _ => rfl⟩
  have hfirst : q = .slash ∧ d = '/' ∨ q.isSlash = false ∧ d ≠ '/' ∧ d ≠ ':' ∧
      (q.isText = false → d = '{') := by
    rcases q with _ | s | body
    · exact .inl ⟨rfl, (Option.some.inj hd).symm⟩
    · have hchars := hq.2 d (List.mem_of_head? hd)
      exact .inr ⟨rfl, hchars.1, hchars.2.2.2, fun h => by cases h⟩
    · obtain rfl := Option.some.inj hd
      exact .inr ⟨rfl, by decide, by decide, fun _ => rfl⟩
  rw [AreApart]
  obtain ⟨rfl, rfl⟩ | ⟨hpslash, hcslash, hclose⟩ := hlast
  · simp [Piece.isSlash]
  obtain ⟨rfl, rfl⟩ | ⟨hqslash, hdslash, hcolon, hopen⟩ := hfirst
  · simp [Piece.isSlash]
  -- one of two neighbours that are no slashes is a pair of braces
  rw [hpslash, hqslash]
  refine iff_of_false (fun h => ?_) (by simp)
  by_cases hqtext : q.isText = true
  · exact (h.2 (hclose (by simpa [hqtext] using htexts))).elim hdslash hcolon
  · exact hcslash (h.1 (hopen (by simpa using hqtext)))

/-- A verb's text keeps its braces apart. -/
theorem isChain_verbText (hverb : ∀ v ∈ verb, isVerb v = true) :
    (verbText verb).IsChain AreApart := by
  refine isChain_of_notMem fun c hc => ?_
  obtain ⟨-, hopen, hclose, -⟩ := ne_of_mem_verbText hverb c hc
  exact ⟨hopen, hclose⟩

/-- A piece is set off from what follows it in a text if a slash is between them; the colon of the verb
may follow any piece. -/
theorem areApart_head?_iff (hp : p.IsPlain) (hplain : ∀ piece ∈ pieces, piece.IsPlain)
    (htexts : ∀ next ∈ pieces.head?, ¬(p.isText = true ∧ next.isText = true)) :
    (∀ c ∈ p.spelled.getLast?, ∀ d ∈ (spell pieces ++ verbText verb).head?, AreApart c d) ↔
      ∀ next ∈ pieces.head?, p.isSlash = true ∨ next.isSlash = true := by
  cases pieces with
  | nil =>
    -- what follows the last piece is the verb, whose colon is apart from everything
    refine iff_of_true (fun c _ d hd => ?_) (by simp)
    cases verb with
    | none => cases hd
    | some v =>
      obtain rfl := Option.some.inj hd
      exact ⟨fun h => absurd h (by decide), fun _ => .inr rfl⟩
  | cons next pieces =>
    have hnext := hplain next List.mem_cons_self
    obtain ⟨c, hc⟩ := Option.ne_none_iff_exists'.mp
      (mt List.getLast?_eq_none_iff.mp hp.spelled_ne_nil)
    obtain ⟨d, hd⟩ := Option.ne_none_iff_exists'.mp
      (mt List.head?_eq_none_iff.mp hnext.spelled_ne_nil)
    have hhead : (spell (next :: pieces) ++ verbText verb).head? = some d := by
      rw [spell_cons, List.append_assoc, List.head?_append, hd]
      rfl
    rw [hc, hhead]
    simpa using areApart_iff hp hnext (htexts next rfl) hc hd

/-- A slash stands between any two elements if all braces are set off. -/
theorem isSpaced_iff (hplain : ∀ piece ∈ pieces, piece.IsPlain) (hrow : IsRow pieces)
    (hverb : ∀ v ∈ verb, isVerb v = true) :
    IsSpaced pieces ↔ BracesApart (spell pieces ++ verbText verb) := by
  induction pieces with
  | nil => exact iff_of_true .nil (isChain_verbText hverb)
  | cons p pieces ih =>
    rw [List.forall_mem_cons] at hplain
    obtain ⟨hp, hplain⟩ := hplain
    obtain ⟨htexts, hrow⟩ := isRow_cons.mp hrow
    rw [IsSpaced, List.isChain_cons, ← IsSpaced, ih hplain hrow,
      ← areApart_head?_iff hp hplain htexts, spell_cons, List.append_assoc]
    refine .trans ?_ List.isChain_append.symm
    exact ⟨fun h => ⟨hp.isChain_spelled, h.2, h.1⟩, fun h => ⟨h.2.2, h.2.1⟩⟩

/-- A row ends in a slash if its text does. -/
theorem getLast?_spell (hplain : ∀ piece ∈ pieces, piece.IsPlain) :
    (spell pieces).getLast? = some '/' ↔ pieces.getLast? = some .slash := by
  obtain rfl | ⟨front, last, rfl⟩ := List.eq_nil_or_concat' pieces
  · simp
  have hlast := hplain last (by simp)
  have hspell : spell (front ++ [last]) = spell front ++ last.spelled := by
    simp [spell]
  rw [hspell, List.getLast?_append_of_ne_nil _ hlast.spelled_ne_nil, List.getLast?_concat]
  rcases last with _ | s | body
  · simp [Piece.spelled]
  · refine iff_of_false (fun h => ?_) (by simp)
    exact (hlast.2 '/' (List.mem_of_getLast? h)).1 rfl
  · simp [getLast?_braces]

/-- No slash stands before the verb if the row does not end in one. -/
theorem verbApart_iff (hplain : ∀ piece ∈ pieces, piece.IsPlain) :
    VerbApart (verb.map String.ofList) (spell pieces ++ verbText verb) ↔
      (verb.isSome → pieces.getLast? ≠ some .slash) := by
  cases verb with
  | none => simp [VerbApart]
  | some v =>
    -- a slash stands in front of the verb exactly when the path ends in one
    have hsuffix : ('/' :: ':' :: v) <:+ spell pieces ++ ':' :: v ↔
        (spell pieces).getLast? = some '/' := by
      rw [List.getLast?_eq_some_iff]
      constructor
      · rintro ⟨front, h⟩
        rw [List.append_cons] at h
        exact ⟨front, (List.append_cancel_right h).symm⟩
      · rintro ⟨front, h⟩
        exact ⟨front, by rw [h, ← List.append_cons]⟩
    simp [VerbApart, verbText, hsuffix, getLast?_spell hplain]

end Pieces

/-! ## Main statement -/

section Texts

variable {text : List Char} {t : Template}

/-- A text that is read is a template in the notation when the braces in it are set off by slashes
and no slash stands before its verb. -/
theorem exists_isSpelledBy_iff (h : Template.ofChars text = .ok t) :
    (∃ w : Written, w.IsLegal ∧ w.IsSpelledBy text) ↔ BracesApart text ∧ VerbApart t.verb text := by
  have hne := (exists_tokens_of_ofChars h).1
  constructor
  · rintro ⟨w, hw, pieces, hlaid, hspaced, hlast, rfl⟩
    have hplain := hlaid.isPlain hw
    have hrow := IsSpaced.isRow hspaced
    obtain ⟨-, rfl⟩ := (ofChars_eq_ok_iff hw ⟨pieces, hlaid, hrow, rfl⟩ hne).mp h
    exact ⟨(isSpaced_iff hplain hrow hw.verb).mp hspaced, (verbApart_iff hplain).mpr hlast⟩
  · -- the text holds some template, and what is set off in it makes it one in the notation
    rintro ⟨hbraces, hverb⟩
    obtain ⟨w, hw, -, ⟨pieces, hlaid, hrow, rfl⟩, rfl⟩ := exists_written_of_ofChars h
    have hplain := hlaid.isPlain hw
    exact ⟨w, hw, pieces, hlaid, (isSpaced_iff hplain hrow hw.verb).mpr hbraces,
      (verbApart_iff hplain).mp hverb, rfl⟩

end Texts

/-- A text that is read holds a template with a route and is read as that. The text is a template in
the notation exactly when its braces are set off by slashes, where the colon of the verb may stand
behind one, and no slash stands before the verb. -/
theorem accepted_texts_hold_templates {text : String} {t : Template}
    (h : Template.parse text = .ok t) :
    (∃ w : Written, w.IsLegal ∧ w.IsRoutable ∧ w.IsWrittenIn (trim text.toList) ∧ t = w.template) ∧
    ((∃ w : Written, w.IsLegal ∧ w.IsSpelledBy (trim text.toList)) ↔
      BracesApart (trim text.toList) ∧ VerbApart t.verb (trim text.toList)) :=
  ⟨exists_written_of_ofChars h, exists_isSpelledBy_iff h⟩

/-- A pair of braces glued to a text is read as if a slash stood between them. -/
theorem reading_of_glued_braces :
    Template.parse "/v1/users{id}" = .ok ⟨[.literal "v1", .literal "users", .param "id"], none⟩ ∧
    ¬∃ w : Written, w.IsLegal ∧ w.IsSpelledBy (trim "/v1/users{id}".toList) := by
  have hparse : Template.parse "/v1/users{id}" =
      .ok ⟨[.literal "v1", .literal "users", .param "id"], none⟩ := by
    decide +kernel
  refine ⟨hparse, ?_⟩
  rw [(accepted_texts_hold_templates hparse).2]
  exact fun h => absurd h.1 (by decide +kernel)

/-- Not every text that is read is a template in the notation. -/
theorem separators_can_be_missing :
    ¬∀ text t, Template.parse text = .ok t →
      ∃ w : Written, w.IsLegal ∧ w.IsSpelledBy (trim text.toList) := by
  intro h
  have hparse : Template.parse "/v1/users{id}" =
      .ok ⟨[.literal "v1", .literal "users", .param "id"], none⟩ := by
    decide +kernel
  exact absurd ((exists_isSpelledBy_iff hparse).mp (h _ _ hparse)).1 (by decide +kernel)

end ProtoRest.Path
