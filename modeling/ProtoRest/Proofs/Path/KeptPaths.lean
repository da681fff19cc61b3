import ProtoRest.Proofs.Path.WrittenTemplates

/-! # Paths kept by routes
A route matches every path that its template matches, and no other path when no pattern has a wildcard
before its end (`route_keeps_paths`). What follows the first wildcard of a pattern is forgotten: the
parameter in its place takes the rest of the path. -/

namespace ProtoRest.Path

open ProtoRest.Text

/-! ## Matching in order -/

section InOrder

variable {α β : Type} {m : α → RequestPath → Prop} {n : β → RequestPath → Prop}

/-- A single entry matches in order what it matches. -/
@[simp] theorem matchesInOrder_singleton {a : α} {path : RequestPath} :
    MatchesInOrder m [a] path ↔ m a path := by
  simp [MatchesInOrder]

/-- Two lists in a row match the paths that fall into one for each. -/
theorem matchesInOrder_append {as bs : List α} {path : RequestPath} :
    MatchesInOrder m (as ++ bs) path ↔
      ∃ front back, path = front ++ back ∧ MatchesInOrder m as front ∧ MatchesInOrder m bs back := by
  induction as generalizing path with
  | nil => simp
  | cons a as ih =>
    simp only [List.cons_append, MatchesInOrder, ih]
    constructor
    · rintro ⟨first, _, rfl, hfirst, middle, back, rfl, hmiddle, hback⟩
      exact ⟨first ++ middle, back, (List.append_assoc ..).symm,
        ⟨first, middle, rfl, hfirst, hmiddle⟩, hback⟩
    · rintro ⟨_, back, rfl, ⟨first, middle, rfl, hfirst, hmiddle⟩, hback⟩
      exact ⟨first, middle ++ back, List.append_assoc .., hfirst, middle, back, rfl, hmiddle, hback⟩

/-- What takes the place of an element may be a list. -/
theorem matchesInOrder_flatMap {f : α → List β} {as : List α} {path : RequestPath} :
    MatchesInOrder n (as.flatMap f) path ↔
      MatchesInOrder (fun a => MatchesInOrder n (f a)) as path := by
  induction as generalizing path with
  | nil => rfl
  | cons a as ih => simp only [List.flatMap_cons, matchesInOrder_append, MatchesInOrder, ih]

/-- What matches more by itself matches more in order. -/
theorem MatchesInOrder.mono {m' : α → RequestPath → Prop} {as : List α} {path : RequestPath}
    (hm : ∀ a ∈ as, ∀ front, m a front → m' a front) (h : MatchesInOrder m as path) :
    MatchesInOrder m' as path := by
  induction as generalizing path with
  | nil => exact h
  | cons a as ih =>
    rw [List.forall_mem_cons] at hm
    obtain ⟨front, back, rfl, hfront, hback⟩ := h
    exact ⟨front, back, rfl, hm.1 front hfront, ih hm.2 hback⟩

end InOrder

/-! ## Elements -/

section Elements

variable {name : String} {parts : List Part} {path : RequestPath} {e : Element}

/-- A wildcard matches no empty stretch. -/
theorem Part.Matches.ne_nil {p : Part} (h : p.Matches path) : path ≠ [] := by
  rintro rfl
  rcases p with s | _ | _
  · cases h
  · cases h
  · exact h rfl

/-- What a pattern matches is matched by its segments. -/
theorem segmentsOfParts_keeps_paths (h : MatchesInOrder Part.Matches parts path) :
    MatchesInOrder Segment.Matches (segmentsOfParts name parts) path := by
  induction parts generalizing path with
  | nil => exact h
  | cons p parts ih =>
    obtain ⟨front, back, rfl, hfront, hback⟩ := h
    -- what stands for a wildcard and all parts behind it has to take this much
    have hne : front ++ back ≠ [] := List.append_ne_nil_of_left_ne_nil hfront.ne_nil back
    rcases p with s | _ | _
    · exact ⟨front, back, rfl, hfront, ih hback⟩
    · cases parts with
      | nil =>
        obtain rfl : back = [] := hback
        exact matchesInOrder_singleton.mpr (by rwa [List.append_nil])
      | cons => exact matchesInOrder_singleton.mpr hne
    · exact matchesInOrder_singleton.mpr hne

/-- A pattern whose only wildcard is at its end matches what its segments do. -/
theorem matches_of_segmentsOfParts (hparts : ∀ p ∈ parts.dropLast, p.isWildcard = false)
    (h : MatchesInOrder Segment.Matches (segmentsOfParts name parts) path) :
    MatchesInOrder Part.Matches parts path := by
  induction parts generalizing path with
  | nil => exact h
  | cons p parts ih =>
    rw [forall_mem_dropLast_cons] at hparts
    rcases p with s | _ | _
    · obtain ⟨front, back, rfl, hfront, hback⟩ := h
      exact ⟨front, back, rfl, hfront, ih hparts.2 hback⟩
    all_goals
      -- a wildcard is the last part
      obtain rfl : parts = [] := by
        by_contra hne
        cases hparts.1 hne
      exact matchesInOrder_singleton.mpr (matchesInOrder_singleton.mp h)

/-- The segments of an element match every path that the element matches. -/
theorem Element.segments_keep_paths (he : e.IsRoutable) (h : e.Matches path) :
    MatchesInOrder Segment.Matches e.segments path := by
  rcases e with (s | _ | _) | ⟨name, _ | parts⟩
  · exact matchesInOrder_singleton.mpr h
  · cases he
  · cases he
  · exact matchesInOrder_singleton.mpr h
  · exact segmentsOfParts_keeps_paths h

/-- The segments of an exact element match nothing else than the element does. -/
theorem Element.matches_of_segments (he : e.IsRoutable) (hexact : e.IsExact)
    (h : MatchesInOrder Segment.Matches e.segments path) : e.Matches path := by
  rcases e with (s | _ | _) | ⟨name, _ | parts⟩
  · exact matchesInOrder_singleton.mp h
  · cases he
  · cases he
  · exact matchesInOrder_singleton.mp h
  · exact matches_of_segmentsOfParts hexact h

end Elements

/-! ## Main statement -/

section Templates

variable {w : Written} {text : String} {t : Template}

/-- Every path that a template matches is matched by what it is read as. When every pattern is exact,
both match the same paths. -/
theorem route_keeps_paths (hw : w.IsLegal) (htext : w.IsWrittenIn (trim text.toList))
    (h : Template.parse text = .ok t) (path : RequestPath) :
    (w.Matches path → t.Matches path) ∧
    ((∀ e ∈ w.elements, e.IsExact) → (w.Matches path ↔ t.Matches path)) := by
  obtain ⟨hroutable, rfl⟩ := (ofChars_eq_ok_iff hw htext (exists_tokens_of_ofChars h).1).mp h
  -- a verb is added behind what is matched on both sides, so only the elements are compared
  have hkept : w.Matches path → w.template.Matches path := by
    rintro ⟨plain, hplain, rfl⟩
    refine ⟨plain, matchesInOrder_flatMap.mpr (hplain.mono fun e he _ => ?_), rfl⟩
    exact Element.segments_keep_paths (hroutable.elements e he)
  refine ⟨hkept, fun hexact => ⟨hkept, ?_⟩⟩
  rintro ⟨plain, hplain, rfl⟩
  refine ⟨plain, (matchesInOrder_flatMap.mp hplain).mono fun e he _ => ?_, rfl⟩
  exact Element.matches_of_segments (hroutable.elements e he) (hexact e he)

end Templates

/-- All books on one shelf. -/
def shelfBooks : Written where
  elements :=
    [.part (.text "v1".toList), .variable "shelf".toList (some [.text "shelves".toList, .one]),
      .part (.text "books".toList)]
  verb := some "list".toList

/-- Its only wildcard ends a pattern, so its route matches the same paths. -/
theorem paths_of_shelfBooks :
    Template.parse "/v1/{shelf=shelves/*}/books:list" =
      .ok ⟨[.literal "v1", .literal "shelves", .param "shelf", .literal "books"], some "list"⟩ ∧
    ∀ path, shelfBooks.Matches path ↔
      Template.Matches
        ⟨[.literal "v1", .literal "shelves", .param "shelf", .literal "books"], some "list"⟩ path := by
  have hparse : Template.parse "/v1/{shelf=shelves/*}/books:list" =
      .ok ⟨[.literal "v1", .literal "shelves", .param "shelf", .literal "books"], some "list"⟩ := by
    decide +kernel
  have hlegal : shelfBooks.IsLegal := ⟨by decide +kernel, by decide +kernel⟩
  -- the text is divided into the pieces that spell it
  have hwritten : shelfBooks.IsWrittenIn (trim "/v1/{shelf=shelves/*}/books:list".toList) := by
    refine ⟨[.slash, .text "v1".toList, .slash, .braces "shelf=shelves/*".toList, .slash,
      .text "books".toList], ?_, ?_, ?_⟩
    · exact .cons rfl (.cons ⟨"shelf".toList, "shelves/*".toList, by decide +kernel⟩ (.cons rfl .nil))
    · simp [IsRow, Piece.isText]
    · decide +kernel
  refine ⟨hparse, fun path => ?_⟩
  refine (route_keeps_paths hlegal hwritten hparse path).2 ?_
  simp [shelfBooks, Element.IsExact, Part.isWildcard]

end ProtoRest.Path
