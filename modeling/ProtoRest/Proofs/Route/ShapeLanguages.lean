import ProtoRest.Proofs.Path.KeptPaths
import ProtoRest.Proofs.Path.RouteTexts
import ProtoRest.Route.Table

/-! # Paths of one shape
Two routes have one shape exactly when they match the same paths (`shape_eq_iff_same_paths`). The shape
is the route of the segments without their names (`toList_shape_route`), and what a segment matches does
not depend on its name. Conversely a segment is known, up to its name, by what it matches: a piece that
no text can be (`fresh`) tells a text from a parameter, and two such pieces tell a parameter for one
segment from one for the rest. -/

namespace ProtoRest.Route

open ProtoRest.Path ProtoRest.Text

/-! ## Segments without names -/

/-- A segment without the name of its parameter. -/
def unnamed : Segment → Segment
  | .literal text => .literal text
  | .param _ => .param ""
  | .catchAll _ => .catchAll ""

section Unnamed

variable {s : Segment} {segments : List Segment} {path : RequestPath}

/-- A plain segment is plain without its name. -/
theorem isPlain_unnamed (hs : s.IsPlain) : (unnamed s).IsPlain := by
  cases s with
  | literal => exact hs
  | param | catchAll => simp [unnamed, Segment.IsPlain]

/-- A segment takes the rest with or without its name. -/
@[simp] theorem isCatchAll_unnamed (s : Segment) : (unnamed s).isCatchAll = s.isCatchAll := by
  cases s <;> rfl

/-- A plain route is plain without its names. -/
theorem isPlainRoute_map_unnamed (h : IsPlainRoute segments) :
    IsPlainRoute (segments.map unnamed) := by
  refine ⟨List.forall_mem_map.mpr fun s hs => isPlain_unnamed (h.plain s hs), ?_⟩
  rw [← List.map_dropLast]
  refine List.forall_mem_map.mpr fun s hs => ?_
  rw [isCatchAll_unnamed, h.catchAll_last s hs]

/-- What is matched does not depend on the names. -/
theorem matches_unnamed : (unnamed s).Matches path ↔ s.Matches path := by
  cases s <;> rfl

/-- Segments match the same paths with or without their names. -/
theorem matchesInOrder_unnamed :
    MatchesInOrder Segment.Matches (segments.map unnamed) path ↔
      MatchesInOrder Segment.Matches segments path := by
  induction segments generalizing path with
  | nil => rfl
  | cons s segments ih => simp only [List.map_cons, MatchesInOrder, matches_unnamed, ih]

end Unnamed

/-! ## Shapes of texts -/

section Shapes

variable {text name : List Char} {s : Segment} {segments : List Segment} {t t' : Template}

/-- Outside of braces everything is kept. -/
theorem shapeFrom_text (htext : ∀ c ∈ text, c ≠ '{' ∧ c ≠ '}') (cs : List Char) :
    shapeFrom false (text ++ cs) = text ++ shapeFrom false cs := by
  induction text with
  | nil => rfl
  | cons c text ih =>
    rw [List.forall_mem_cons] at htext
    rw [List.cons_append, shapeFrom, if_neg htext.1.1, if_neg htext.1.2, if_neg Bool.false_ne_true,
      ih htext.2]
    rfl

/-- Inside of braces a name is left out. -/
theorem shapeFrom_name (hname : ∀ c ∈ name, c ≠ '{' ∧ c ≠ '}' ∧ c ≠ '*') (cs : List Char) :
    shapeFrom true (name ++ '}' :: cs) = '}' :: shapeFrom false cs := by
  induction name with
  | nil => rfl
  | cons c name ih =>
    rw [List.forall_mem_cons] at hname
    obtain ⟨⟨hopen, hclose, hstar⟩, hname⟩ := hname
    rw [List.cons_append, shapeFrom, if_neg hopen, if_neg hclose, if_pos rfl, if_neg hstar, ih hname]

/-- The shape of a segment is the route of the segment without its name. -/
theorem shapeFrom_route (hs : s.IsPlain) (cs : List Char) :
    shapeFrom false ('/' :: s.route.toList ++ cs) =
      '/' :: (unnamed s).route.toList ++ shapeFrom false cs := by
  rw [toList_route, toList_route]
  cases s with
  | literal text =>
    have htext : ∀ c ∈ '/' :: text.toList, c ≠ '{' ∧ c ≠ '}' :=
      List.forall_mem_cons.mpr ⟨by decide, fun c hc =>
        ⟨((isLiteral_iff.mp hs).2 c hc).2.1, ((isLiteral_iff.mp hs).2 c hc).2.2.1⟩⟩
    exact shapeFrom_text htext cs
  | param name =>
    have hname := shapeFrom_name (fun c hc => (hs c hc).2) cs
    simp [unnamed, shapeFrom, hname]
  | catchAll name =>
    have hname := shapeFrom_name (fun c hc => (hs c hc).2) cs
    simp [unnamed, shapeFrom, hname]

/-- The shape of a path is the path of its segments without their names. -/
theorem shapeFrom_pathChars (hplain : ∀ s ∈ segments, s.IsPlain) :
    shapeFrom false (pathChars Segment.route segments) =
      pathChars Segment.route (segments.map unnamed) := by
  induction segments with
  | nil => rfl
  | cons s segments ih =>
    rw [List.forall_mem_cons] at hplain
    rw [List.map_cons, pathChars_cons, pathChars_cons, shapeFrom_route hplain.1, ih hplain.2]

/-- The shape of a route is the route of its segments without their names. -/
theorem shapeFrom_routeChars (hplain : ∀ s ∈ segments, s.IsPlain) :
    shapeFrom false (routeChars segments) = routeChars (segments.map unnamed) := by
  rw [routeChars, routeChars]
  by_cases hnil : segments = []
  · rw [hnil]
    rfl
  · have hnames : segments.map unnamed ≠ [] := by simpa using hnil
    rw [if_neg hnil, if_neg hnames, shapeFrom_pathChars hplain]

/-- The shape of a route is the route of its segments without their names. -/
theorem toList_shape_route (ht : t.IsWellFormed) :
    (shape t.route).toList = routeChars (t.joined.segments.map unnamed) := by
  rw [shape, String.toList_ofList, ht.toList_route, shapeFrom_routeChars ht.isPlainRoute.plain]

/-- A shape holds everything but the names. -/
theorem shape_route_eq_iff (ht : t.IsWellFormed) (ht' : t'.IsWellFormed) :
    shape t.route = shape t'.route ↔
      t.joined.segments.map unnamed = t'.joined.segments.map unnamed := by
  have hread {t : Template} (ht : t.IsWellFormed) :
      segmentsOfRoute (shape t.route) = t.joined.segments.map unnamed :=
    segmentsOfRoute_eq (isPlainRoute_map_unnamed ht.isPlainRoute) (toList_shape_route ht)
  constructor
  · intro heq
    rw [← hread ht, ← hread ht', heq]
  · intro heq
    rw [← String.toList_inj, toList_shape_route ht, toList_shape_route ht', heq]

end Shapes

/-! ## Routes that match the same paths -/

/-- Whether each path that a list of segments matches is matched by another list. -/
def Covers (segments segments' : List Segment) : Prop :=
  ∀ path, IsRequestPath path → MatchesInOrder Segment.Matches segments path →
    MatchesInOrder Segment.Matches segments' path

/-- A piece of a path that is the text of no segment. -/
def fresh : String := "\x7b"

section Languages

variable {s s' : Segment} {segments segments' : List Segment} {path : RequestPath} {piece : String}

/-- The fresh piece is no literal. -/
theorem fresh_ne_of_isLiteral {text : String} (h : isLiteral text.toList = true) : fresh ≠ text := by
  rintro rfl
  exact absurd h (by decide)

/-- Every segment takes something. -/
theorem ne_nil_of_matches (h : s.Matches path) : path ≠ [] := by
  rintro rfl
  cases s with
  | literal => cases h
  | param => cases h
  | catchAll => exact h rfl

/-- The path of a slash alone is matched by the route without segments only. -/
theorem matchesInOrder_nil_iff : MatchesInOrder Segment.Matches segments [] ↔ segments = [] := by
  cases segments with
  | nil => simp
  | cons s segments =>
    refine iff_of_false ?_ (List.cons_ne_nil _ _)
    rintro ⟨front, back, hpath, hfront, -⟩
    exact ne_nil_of_matches hfront (List.append_eq_nil_iff.mp hpath.symm).1

/-- A segment that is not for the rest takes the first piece of a path. -/
theorem matchesInOrder_cons_iff (hs : s.isCatchAll = false) :
    MatchesInOrder Segment.Matches (s :: segments) (piece :: path) ↔
      s.Matches [piece] ∧ MatchesInOrder Segment.Matches segments path := by
  have hone {front : RequestPath} (hfront : s.Matches front) : ∃ piece, front = [piece] := by
    cases s with
    | literal text => exact ⟨text, hfront⟩
    | param => exact List.length_eq_one_iff.mp hfront
    | catchAll => cases hs
  constructor
  · rintro ⟨front, back, hpath, hfront, hback⟩
    obtain ⟨first, rfl⟩ := hone hfront
    obtain ⟨rfl, rfl⟩ := List.cons.inj hpath
    exact ⟨hfront, hback⟩
  · rintro ⟨hfirst, hrest⟩
    exact ⟨[piece], path, rfl, hfirst, hrest⟩

/-- A segment for the rest stands at the end, and matches everything but nothing. -/
theorem matchesInOrder_catchAll_iff {name : String} :
    MatchesInOrder Segment.Matches [.catchAll name] path ↔ path ≠ [] :=
  matchesInOrder_singleton

/-- Every segment takes some piece, and a parameter takes the fresh one. -/
theorem exists_piece (hs : s.IsPlain) : ∃ piece, piece ≠ "" ∧ s.Matches [piece] ∧
    ((∀ text, s ≠ .literal text) → piece = fresh) := by
  cases s with
  | literal text =>
    refine ⟨text, ?_, rfl, fun h => absurd rfl (h text)⟩
    rintro rfl
    exact absurd rfl (isLiteral_iff.mp hs).1
  | param name => exact ⟨fresh, by decide, rfl, fun _ => rfl⟩
  | catchAll name => exact ⟨fresh, by decide, List.cons_ne_nil _ _, fun _ => rfl⟩

/-- Every list of segments matches some path. -/
theorem exists_path (hplain : ∀ s ∈ segments, s.IsPlain) :
    ∃ path, IsRequestPath path ∧ MatchesInOrder Segment.Matches segments path := by
  induction segments with
  | nil => exact ⟨[], List.forall_mem_nil _, rfl⟩
  | cons s segments ih =>
    rw [List.forall_mem_cons] at hplain
    obtain ⟨path, hpath, hmatches⟩ := ih hplain.2
    obtain ⟨piece, hne, hpiece, -⟩ := exists_piece hplain.1
    exact ⟨piece :: path, List.forall_mem_cons.mpr ⟨hne, hpath⟩, [piece], path, rfl, hpiece, hmatches⟩

/-- Whether a segment can only be matched where another one is: a text by itself or by a parameter,
and a parameter by one that reaches at least as far. -/
def Within : Segment → Segment → Prop
  | .literal text, .literal text' => text = text'
  | .param _, .literal _ | .catchAll _, .literal _ | .catchAll _, .param _ => False
  | _, _ => True

/-- Segments that lie within each other are equal up to their names. -/
theorem unnamed_eq_of_within (h : Within s s') (h' : Within s' s) : unnamed s = unnamed s' := by
  cases s <;> cases s' <;> simp_all [Within, unnamed]

/-- The first segment of a route lies within the one that covers it. -/
theorem within_of_covers (h : IsPlainRoute (s :: segments)) (hs' : s'.IsPlain)
    (hcovers : Covers (s :: segments) (s' :: segments')) : Within s s' := by
  obtain ⟨hs, hlast, hsegments⟩ := isPlainRoute_cons_iff.mp h
  obtain ⟨path, hpath, hrest⟩ := exists_path hsegments.plain
  obtain ⟨piece, hne, hpiece, hfresh⟩ := exists_piece hs
  have hcovered := hcovers (piece :: path) (List.forall_mem_cons.mpr ⟨hne, hpath⟩)
    ⟨[piece], path, rfl, hpiece, hrest⟩
  cases s' with
  | literal text' =>
    have htext : [piece] = [text'] := ((matchesInOrder_cons_iff rfl).mp hcovered).1
    obtain rfl := List.singleton_inj.mp htext
    cases s with
    | literal text => exact (List.singleton_inj.mp hpiece).symm
    | param | catchAll => exact fresh_ne_of_isLiteral hs' (hfresh (by simp)).symm
  | param name' =>
    cases s with
    | literal | param => trivial
    | catchAll name =>
      -- no list behind a parameter for one segment takes both nothing and a piece
      obtain rfl := hlast rfl
      have hpath : IsRequestPath [fresh] := List.forall_mem_singleton.mpr (by decide)
      have hlong : IsRequestPath [fresh, fresh] := List.forall_mem_cons.mpr ⟨by decide, hpath⟩
      have hone := hcovers [fresh] hpath (matchesInOrder_catchAll_iff.mpr (by decide))
      have htwo := hcovers [fresh, fresh] hlong (matchesInOrder_catchAll_iff.mpr (by decide))
      have hend := ((matchesInOrder_cons_iff rfl).mp hone).2
      have hmore := ((matchesInOrder_cons_iff rfl).mp htwo).2
      rw [matchesInOrder_nil_iff.mp hend] at hmore
      cases hmore
  | catchAll name' => cases s <;> trivial

/-- Behind two segments that match the same pieces one by one, what is left covers what is left. -/
theorem covers_tail (hs : s.IsPlain) (hone : s.isCatchAll = false)
    (hunnamed : unnamed s = unnamed s') (hcovers : Covers (s :: segments) (s' :: segments')) :
    Covers segments segments' := by
  intro path hpath hrest
  obtain ⟨piece, hne, hpiece, -⟩ := exists_piece hs
  have hone' : s'.isCatchAll = false := by
    rw [← isCatchAll_unnamed, ← hunnamed, isCatchAll_unnamed, hone]
  have hcovered := hcovers (piece :: path) (List.forall_mem_cons.mpr ⟨hne, hpath⟩)
    ⟨[piece], path, rfl, hpiece, hrest⟩
  exact ((matchesInOrder_cons_iff hone').mp hcovered).2

/-- Routes that cover each other differ in names only. -/
theorem map_unnamed_eq_of_covers (h : IsPlainRoute segments) (h' : IsPlainRoute segments')
    (hcovers : Covers segments segments') (hcovers' : Covers segments' segments) :
    segments.map unnamed = segments'.map unnamed := by
  have hroot : IsRequestPath [] := List.forall_mem_nil _
  induction segments generalizing segments' with
  | nil => rw [matchesInOrder_nil_iff.mp (hcovers [] hroot rfl)]
  | cons s segments ih =>
    cases segments' with
    | nil => rw [matchesInOrder_nil_iff.mp (hcovers' [] hroot rfl)]
    | cons s' segments' =>
      obtain ⟨hs, hlast, hsegments⟩ := isPlainRoute_cons_iff.mp h
      obtain ⟨hs', hlast', hsegments'⟩ := isPlainRoute_cons_iff.mp h'
      have hunnamed : unnamed s = unnamed s' :=
        unnamed_eq_of_within (within_of_covers h hs' hcovers) (within_of_covers h' hs hcovers')
      have hcatchAll : s'.isCatchAll = s.isCatchAll := by
        rw [← isCatchAll_unnamed, ← hunnamed, isCatchAll_unnamed]
      rw [List.map_cons, List.map_cons, hunnamed]
      -- nothing follows a parameter for the rest; behind other segments the routes cover each other
      cases hrest : s.isCatchAll with
      | true => rw [hlast hrest, hlast' (hcatchAll.trans hrest)]
      | false =>
        have htail := covers_tail hs hrest hunnamed hcovers
        have htail' := covers_tail hs' (hcatchAll.trans hrest) hunnamed.symm hcovers'
        rw [ih hsegments hsegments' htail htail']

end Languages

/-! ## Main statement -/

/-- The routes of two templates have one shape exactly when they match the same paths. -/
theorem shape_eq_iff_same_paths {text text' : String} {t t' : Template}
    (h : Template.parse text = .ok t) (h' : Template.parse text' = .ok t') :
    shape t.route = shape t'.route ↔
      ∀ path, IsRequestPath path → (RouteMatches t.route path ↔ RouteMatches t'.route path) := by
  have ht := isWellFormed_of_parse h
  have ht' := isWellFormed_of_parse h'
  simp only [shape_route_eq_iff ht ht', RouteMatches, segmentsOfRoute_route ht,
    segmentsOfRoute_route ht']
  constructor
  · intro heq path _
    rw [← matchesInOrder_unnamed, heq, matchesInOrder_unnamed]
  · intro hsame
    refine map_unnamed_eq_of_covers ht.isPlainRoute ht'.isPlainRoute ?_ ?_
    · exact fun path hpath => (hsame path hpath).mp
    · exact fun path hpath => (hsame path hpath).mpr

/-- Two routes with one parameter match the same paths under any name of it, and other paths than the
route with a parameter for the rest. -/
theorem paths_of_fileRoutes :
    (∀ path, IsRequestPath path →
      (RouteMatches "/files/\x7bname\x7d" path ↔ RouteMatches "/files/\x7bid\x7d" path)) ∧
    ¬ ∀ path, IsRequestPath path →
      (RouteMatches "/files/\x7bid\x7d" path ↔ RouteMatches "/files/\x7b*path\x7d" path) := by
  have hname : Template.parse "/\x7bname=files/*\x7d" =
      .ok ⟨[.literal "files", .param "name"], none⟩ := by decide +kernel
  have hid : Template.parse "/files/\x7bid\x7d" = .ok ⟨[.literal "files", .param "id"], none⟩ := by
    decide +kernel
  have hrest : Template.parse "/files/\x7bpath=**\x7d" =
      .ok ⟨[.literal "files", .catchAll "path"], none⟩ := by decide +kernel
  exact ⟨(shape_eq_iff_same_paths hname hid).mp (by decide +kernel),
    fun hsame => absurd ((shape_eq_iff_same_paths hid hrest).mpr hsame) (by decide +kernel)⟩

end ProtoRest.Route
