import ProtoRest.Path.RoutePaths
import ProtoRest.Proofs.Path.TemplateTexts
import ProtoRest.Proofs.Path.WellFormedTemplates

/-! # Texts of routes
A route is read back as the segments it was written from. The verb of a template stands in the last
piece of its route, so a route is always one of a template without a verb (`route_joined`), and no text
or name of such a template has a mark of the notation (`segmentsOfRoute_route`). -/

namespace ProtoRest.Path

open ProtoRest.Text

/-! ## Verbs in the last text -/

/-- A template with its verb in its last text. -/
def Template.joined (t : Template) : Template :=
  match t.verb, t.segments.getLast? with
  | some verb, some (.literal text) =>
    ⟨t.segments.dropLast ++ [.literal (text ++ ":" ++ verb)], none⟩
  | _, _ => t

section Joined

variable {t : Template} {front : List Segment} {text verb : String}

/-- A verb joins the literal at the end, behind a colon. -/
theorem joined_concat (front : List Segment) (text verb : String) :
    Template.joined ⟨front ++ [.literal text], some verb⟩ =
      ⟨front ++ [.literal (text ++ ":" ++ verb)], none⟩ := by
  simp [Template.joined]

/-- A template has no verb, or its verb follows a last text. -/
theorem Template.IsWellFormed.verb_cases (ht : t.IsWellFormed) :
    (t.verb = none ∧ t.joined = t) ∨
      ∃ front text verb, t = ⟨front ++ [.literal text], some verb⟩ ∧ isVerb verb.toList = true := by
  obtain ⟨segments, verb⟩ := t
  cases verb with
  | none => exact .inl ⟨rfl, rfl⟩
  | some verb =>
    obtain ⟨hverb, hliteral⟩ := ht.verb verb rfl
    simp only [endsInLiteral] at hliteral
    split at hliteral
    · next text hlast =>
      obtain ⟨front, rfl⟩ := List.getLast?_eq_some_iff.mp hlast
      exact .inr ⟨front, text, verb, rfl, hverb⟩
    · cases hliteral

/-- A verb makes the text before it no worse. -/
theorem isLiteral_append_verb (htext : isLiteral text.toList = true)
    (hverb : isVerb verb.toList = true) : isLiteral (text ++ ":" ++ verb).toList = true := by
  obtain ⟨hne, hchars⟩ := isLiteral_iff.mp htext
  have hlist : (text ++ ":" ++ verb).toList = text.toList ++ verbText (some verb.toList) := by
    simp [verbText]
  rw [hlist]
  refine isLiteral_iff.mpr ⟨List.append_ne_nil_of_left_ne_nil hne _, ?_⟩
  refine List.forall_mem_append.mpr ⟨hchars, ne_of_mem_verbText ?_⟩
  rintro _ ⟨⟩
  exact hverb

/-- A well-formed template stays so when its verb joins the last literal. -/
theorem Template.IsWellFormed.joined (ht : t.IsWellFormed) : t.joined.IsWellFormed := by
  obtain ⟨-, hjoined⟩ | ⟨front, text, verb, rfl, hverb⟩ := ht.verb_cases
  · rwa [hjoined]
  · rw [joined_concat]
    refine ht.withLast rfl (isLiteral_append_verb ?_ hverb)
    exact ht.segments (.literal text) (List.mem_append_right _ (List.mem_singleton.mpr rfl))

/-- No verb is left once it has joined the last literal. -/
theorem Template.IsWellFormed.verb_joined (ht : t.IsWellFormed) : t.joined.verb = none := by
  obtain ⟨hverb, hjoined⟩ | ⟨front, text, verb, rfl, -⟩ := ht.verb_cases
  · rwa [hjoined]
  · rw [joined_concat]

/-- The route does not tell a verb from the text it follows. -/
theorem Template.IsWellFormed.route_joined (ht : t.IsWellFormed) : t.joined.route = t.route := by
  obtain ⟨-, hjoined⟩ | ⟨front, text, verb, rfl, -⟩ := ht.verb_cases
  · rw [hjoined]
  · rw [joined_concat, Template.route, Template.route, ← String.toList_inj, toList_write,
      toList_write, if_neg (by simp), if_neg (by simp), pathChars_append, pathChars_append]
    simp [pathChars, Segment.route, verbText]

end Joined

/-! ## Pieces of routes -/

/-- Whether the text or the name of a segment has no mark of the notation; a name may be empty. -/
def Segment.IsPlain : Segment → Prop
  | .literal text => isLiteral text.toList = true
  | .param name | .catchAll name => ∀ c ∈ name.toList, c ≠ '/' ∧ c ≠ '{' ∧ c ≠ '}' ∧ c ≠ '*'

/-- Whether segments are those of a route that can be read back. -/
structure IsPlainRoute (segments : List Segment) : Prop where
  /-- Every segment is plain. -/
  plain : ∀ s ∈ segments, s.IsPlain
  /-- What binds the rest of a path is the last segment. -/
  catchAll_last : ∀ s ∈ segments.dropLast, s.isCatchAll = false

section Pieces

variable {s : Segment} {segments : List Segment}

/-- A plain route begins with a plain segment, which takes the rest only at the end, and goes on as
a plain route. -/
theorem isPlainRoute_cons_iff : IsPlainRoute (s :: segments) ↔
    s.IsPlain ∧ (s.isCatchAll = true → segments = []) ∧ IsPlainRoute segments := by
  have hfirst : (segments ≠ [] → s.isCatchAll = false) ↔ (s.isCatchAll = true → segments = []) := by
    rw [← Bool.not_eq_true, not_imp_not]
  constructor
  · rintro ⟨hplain, hlast⟩
    rw [List.forall_mem_cons] at hplain
    rw [forall_mem_dropLast_cons, hfirst] at hlast
    exact ⟨hplain.1, hlast.1, hplain.2, hlast.2⟩
  · rintro ⟨hs, hlast, hsegments⟩
    refine ⟨List.forall_mem_cons.mpr ⟨hs, hsegments.plain⟩, ?_⟩
    exact forall_mem_dropLast_cons.mpr ⟨hfirst.mpr hlast, hsegments.catchAll_last⟩

/-- The characters of a name are none of the notation. -/
theorem ne_of_mem_name {name : List Char} (h : isName name = true) :
    ∀ c ∈ name, c ≠ '/' ∧ c ≠ '{' ∧ c ≠ '}' ∧ c ≠ '*' := fun _ hc =>
  forall_isNameChar (fun c => c ≠ '/' ∧ c ≠ '{' ∧ c ≠ '}' ∧ c ≠ '*') (by decide)
    (isNameChar_of_isName h _ hc)

/-- A well-formed segment is plain. -/
theorem Segment.IsWellFormed.isPlain (hs : s.IsWellFormed) : s.IsPlain := by
  cases s with
  | literal => exact hs
  | param | catchAll => exact ne_of_mem_name hs

/-- A segment is written as one piece. -/
theorem isPiece_route (hs : s.IsPlain) : s.route.toList ≠ [] ∧ '/' ∉ s.route.toList := by
  rw [toList_route]
  cases s with
  | literal text =>
    obtain ⟨hne, hchars⟩ := isLiteral_iff.mp hs
    exact ⟨hne, fun hmem => (hchars '/' hmem).1 rfl⟩
  | param name | catchAll name =>
    have hslash : '/' ∉ name.toList := fun hmem => (hs '/' hmem).1 rfl
    exact ⟨by simp, by simp [hslash]⟩

/-- The piece of a segment is read as this segment. -/
theorem segmentOfPiece_route (hs : s.IsPlain) {isLast : Bool}
    (hlast : s.isCatchAll = true → isLast = true) : segmentOfPiece isLast s.route.toList = s := by
  have hinside (name : List Char) : insideBraces? ('{' :: name ++ ['}']) = some name := by
    rw [List.cons_append, insideBraces?, List.getLast?_concat, if_pos rfl, List.dropLast_concat]
  rw [toList_route]
  cases s with
  | literal text =>
    have hnone : insideBraces? text.toList = none := by
      rw [insideBraces?]
      rintro rest hrest
      exact ((isLiteral_iff.mp hs).2 '{' (by rw [hrest]; exact List.mem_cons_self)).2.1 rfl
    simp only [segmentOfPiece, hnone, String.ofList_toList]
  | param name =>
    -- no name starts with the star of the other kind
    have hstar : ∀ rest, name.toList ≠ '*' :: rest := fun rest hrest =>
      (hs '*' (by rw [hrest]; exact List.mem_cons_self)).2.2.2 rfl
    rw [segmentOfPiece, hinside]
    split
    · next heq => exact absurd (Option.some.inj heq) (hstar _)
    · next heq =>
      obtain rfl := Option.some.inj heq
      rw [String.ofList_toList]
    · next heq => cases heq
  | catchAll name =>
    have hbraces : insideBraces? ('{' :: '*' :: name.toList ++ ['}']) = some ('*' :: name.toList) :=
      hinside ('*' :: name.toList)
    simp only [segmentOfPiece, hbraces, hlast rfl, if_true, String.ofList_toList]

/-- The segments of a plain route are read back from their texts. -/
theorem segmentsOfPieces_map (h : IsPlainRoute segments) :
    segmentsOfPieces (segments.map (·.route.toList)) = segments := by
  induction segments with
  | nil => rfl
  | cons s segments ih =>
    obtain ⟨hs, hlast, hsegments⟩ := isPlainRoute_cons_iff.mp h
    have hpiece : segmentOfPiece (segments.map (·.route.toList)).isEmpty s.route.toList = s :=
      segmentOfPiece_route hs fun hcatchAll => by simp [hlast hcatchAll]
    rw [List.map_cons, segmentsOfPieces, hpiece, ih hsegments]

/-- Splitting a path at its slashes gives the texts of its segments. -/
theorem splitAt_append_pathChars {front : List Char} (hfront : '/' ∉ front)
    (hplain : ∀ s ∈ segments, s.IsPlain) :
    splitAt '/' (front ++ pathChars Segment.route segments) =
      front :: segments.map (·.route.toList) := by
  induction segments generalizing front with
  | nil => rw [pathChars_nil, List.append_nil, splitAt_of_notMem hfront, List.map_nil]
  | cons s segments ih =>
    rw [List.forall_mem_cons] at hplain
    rw [pathChars_cons, List.cons_append, splitAt_append hfront, ih (isPiece_route hplain.1).2 hplain.2,
      List.map_cons]

end Pieces

/-! ## Routes -/

/-- The characters of a route; the slash alone stands for no segment. -/
def routeChars (segments : List Segment) : List Char :=
  if segments = [] then ['/'] else pathChars Segment.route segments

section Routes

variable {segments : List Segment} {route : String} {t : Template}

/-- A route of plain segments is read back. -/
theorem segmentsOfRoute_eq (h : IsPlainRoute segments) (hroute : route.toList = routeChars segments) :
    segmentsOfRoute route = segments := by
  have hpieces : (splitAt '/' route.toList).filter (· ≠ []) = segments.map (·.route.toList) := by
    rw [hroute, routeChars]
    split_ifs with hnil
    · subst hnil
      decide
    · have hsplit := splitAt_append_pathChars List.not_mem_nil h.plain
      have hkept : (segments.map (·.route.toList)).filter (· ≠ []) =
          segments.map (·.route.toList) := by
        refine List.filter_eq_self.mpr fun piece hpiece => ?_
        obtain ⟨s, hs, rfl⟩ := List.mem_map.mp hpiece
        exact decide_eq_true (isPiece_route (h.plain s hs)).1
      rw [List.nil_append] at hsplit
      rw [hsplit, List.filter_cons_of_neg (by simp), hkept]
  rw [segmentsOfRoute, hpieces, segmentsOfPieces_map h]

/-- The route of a template is written from its segments with the verb joined to the last. -/
theorem Template.IsWellFormed.toList_route (ht : t.IsWellFormed) :
    t.route.toList = routeChars t.joined.segments := by
  rw [← ht.route_joined, Template.route, toList_write, ht.verb_joined]
  exact List.append_nil _

/-- The segments of a well-formed template form a plain route. -/
theorem Template.IsWellFormed.isPlainRoute (ht : t.IsWellFormed) : IsPlainRoute t.joined.segments :=
  ⟨fun s hs => (ht.joined.segments s hs).isPlain, ht.joined.catchAll_last⟩

/-- The router reads a route as it was written. -/
theorem segmentsOfRoute_route (ht : t.IsWellFormed) :
    segmentsOfRoute t.route = t.joined.segments :=
  segmentsOfRoute_eq ht.isPlainRoute ht.toList_route

end Routes

end ProtoRest.Path
