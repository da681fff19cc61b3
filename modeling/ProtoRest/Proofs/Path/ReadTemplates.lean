import ProtoRest.Path.Written
import ProtoRest.Proofs.Related
import ProtoRest.Proofs.Result
import ProtoRest.Schema.Name

/-! # Templates that were read
What reading ensures of a template (`isRead_of_parse`), and how its two texts differ: they are equal
unless the last segment binds the rest of the path, and then the route has a star after its last
opening brace that the documentation leaves out (`IsRead.route_cases`). -/

namespace ProtoRest.Path

open ProtoRest.Result ProtoRest.Schema ProtoRest.Text

/-! ## What reading ensures -/

/-- A template as reading leaves it. -/
structure Template.IsRead (t : Template) : Prop where
  /-- Every parameter has a name. -/
  names : ∀ s ∈ t.segments, ∀ name ∈ s.name?, isName name.toList = true
  /-- What binds the rest of a path is the last segment. -/
  catchAll_last : ∀ s ∈ t.segments.dropLast, s.isCatchAll = false
  /-- A verb follows a text. -/
  verb_literal : t.verb.isSome → endsInLiteral t.segments = true

/-- The segments of a variable's pattern bear the variable's name or none. -/
theorem name?_patternSegments {name : String} {parts : List (List Char)} {s : Segment}
    (hs : s ∈ patternSegments name parts) : ∀ n ∈ s.name?, n = name := by
  induction parts with
  | nil => cases hs
  | cons part parts ih =>
    rw [patternSegments] at hs
    split_ifs at hs
    · obtain rfl := List.mem_singleton.mp hs
      rintro n ⟨⟩
      rfl
    · obtain rfl := List.mem_singleton.mp hs
      rintro n ⟨⟩
      rfl
    · obtain rfl | hs := List.mem_cons.mp hs
      · rintro n ⟨⟩
      · exact ih hs

/-- The segments of a variable bear its name or none. -/
theorem name?_variableSegments {name : List Char} {pattern : Option (List Char)}
    {segments : List Segment} (h : variableSegments name pattern = .ok segments) :
    ∀ s ∈ segments, ∀ n ∈ s.name?, n = String.ofList name := by
  intro s hs
  cases pattern with
  | none =>
    obtain rfl := Except.ok.inj h
    obtain rfl := List.mem_singleton.mp hs
    rintro n ⟨⟩
    rfl
  | some pattern =>
    simp only [variableSegments] at h
    split_ifs at h
    split at h
    · cases h
    · obtain rfl := Except.ok.inj h
      exact name?_patternSegments hs

/-- The parameters of a token have names. -/
theorem isName_of_segments {token : Token} {segments : List Segment}
    (h : token.segments = .ok segments) :
    ∀ s ∈ segments, ∀ name ∈ s.name?, isName name.toList = true := by
  intro s hs name hname
  rcases token with text | ⟨text, pattern⟩
  · obtain ⟨segment, hsegment, h⟩ := bind_eq_ok_iff.mp h
    obtain rfl := pure_eq_ok_iff.mp h
    obtain rfl := List.mem_singleton.mp hs
    rw [literalSegment] at hsegment
    split_ifs at hsegment
    obtain rfl := Except.ok.inj hsegment
    cases hname
  · obtain ⟨⟨⟩, hcheck, h⟩ := bind_eq_ok_iff.mp h
    rw [name?_variableSegments h s hs name hname, String.toList_ofList]
    rw [checkName] at hcheck
    split_ifs at hcheck with hdot hisName
    exact hisName

/-- The parameters among the segments of tokens are proper names. -/
theorem isName_of_segmentsOf {tokens : List Token} {segments : List Segment}
    (h : segmentsOf tokens = .ok segments) :
    ∀ s ∈ segments, ∀ name ∈ s.name?, isName name.toList = true := by
  induction tokens generalizing segments with
  | nil =>
    obtain rfl := Except.ok.inj h
    simp
  | cons token tokens ih =>
    obtain ⟨first, hfirst, h⟩ := bind_eq_ok_iff.mp h
    obtain ⟨rest, hrest, h⟩ := bind_eq_ok_iff.mp h
    obtain rfl := pure_eq_ok_iff.mp h
    intro s hs
    obtain hs | hs := List.mem_append.mp hs
    · exact isName_of_segments hfirst s hs
    · exact ih hrest s hs

/-- What holds of all entries but the last holds of the first when another follows it, and of those
behind it but the last. -/
theorem forall_mem_dropLast_cons {α : Type} {p : α → Prop} {a : α} {as : List α} :
    (∀ x ∈ (a :: as).dropLast, p x) ↔ (as ≠ [] → p a) ∧ ∀ x ∈ as.dropLast, p x := by
  cases as with
  | nil => simp
  | cons b bs => simp

/-- The order of segments is right when what binds the rest of a path is the last segment, and no
name is bound twice or was seen before. -/
theorem checkOrder_eq_ok_iff {seen : List String} {segments : List Segment} :
    checkOrder seen segments = .ok () ↔
      (∀ s ∈ segments.dropLast, s.isCatchAll = false) ∧
      (segments.filterMap Segment.name?).Nodup ∧
      ∀ name ∈ segments.filterMap Segment.name?, name ∉ seen := by
  induction segments generalizing seen with
  | nil => simp [checkOrder]
  | cons first rest ih =>
    rw [forall_mem_dropLast_cons]
    -- a name that is bound is one that the segments after it have seen
    have hbind (name : String) (hname : first.name? = some name)
        (hfirst : rest ≠ [] → first.isCatchAll = false) :
        (if name ∈ seen then .error (.duplicateParameter name) else checkOrder (name :: seen) rest) =
            (Except.ok () : Except Template.Fault Unit) ↔
          ((rest ≠ [] → first.isCatchAll = false) ∧ ∀ s ∈ rest.dropLast, s.isCatchAll = false) ∧
          ((first :: rest).filterMap Segment.name?).Nodup ∧
          ∀ name ∈ (first :: rest).filterMap Segment.name?, name ∉ seen := by
      rw [List.filterMap_cons_some hname, List.nodup_cons, List.forall_mem_cons]
      split_ifs with hseen
      · simp [hseen]
      · rw [ih]
        simp only [List.mem_cons, not_or]
        grind
    cases first with
    | literal text =>
      rw [checkOrder, ih, List.filterMap_cons_none rfl]
      simp [Segment.isCatchAll]
    | param name => exact hbind name rfl fun _ => rfl
    | catchAll name =>
      rw [checkOrder]
      by_cases hrest : rest = []
      · rw [if_neg (not_not.mpr hrest)]
        exact hbind name rfl fun h => absurd hrest h
      · rw [if_pos hrest]
        simp [hrest, Segment.isCatchAll]

/-- What reading makes of the tokens and the verb that it has found. -/
def templateOf (tokens : List Token) (verb : Option (List Char)) :
    Except Template.Fault Template := do
  let segments ← segmentsOf tokens
  checkOrder [] segments
  if let some verb := verb then
    if !endsInLiteral segments then throw (.misplacedVerb (String.ofList verb))
  return ⟨segments, verb.map String.ofList⟩

/-- Tokens and a verb give a template exactly when the segments can be read, stand in order and end
in a literal under the verb. -/
theorem templateOf_eq_ok_iff {tokens : List Token} {verb : Option (List Char)} {t : Template} :
    templateOf tokens verb = .ok t ↔
      segmentsOf tokens = .ok t.segments ∧ checkOrder [] t.segments = .ok () ∧
        (verb.isSome → endsInLiteral t.segments = true) ∧ t.verb = verb.map String.ofList := by
  rw [templateOf, bind_eq_ok_iff]
  simp only [bind_eq_ok_iff]
  constructor
  · rintro ⟨segments, hsegments, ⟨⟩, horder, h⟩
    cases verb with
    | none =>
      obtain rfl := pure_eq_ok_iff.mp h
      exact ⟨hsegments, horder, by simp, rfl⟩
    | some verb =>
      simp only at h
      -- a verb is refused behind anything but a literal
      split_ifs at h with hliteral
      · cases h
      · obtain rfl := pure_eq_ok_iff.mp h
        exact ⟨hsegments, horder, fun _ => by simpa using hliteral, rfl⟩
  · rintro ⟨hsegments, horder, hliteral, hverb⟩
    refine ⟨t.segments, hsegments, (), horder, ?_⟩
    obtain ⟨segments, tverb⟩ := t
    obtain rfl := hverb
    cases verb with
    | none => rfl
    | some verb =>
      simp only [hliteral rfl, Bool.not_true, Bool.false_eq_true, if_false]
      rfl

/-- A text with a verb and tokens is read as what these make. -/
theorem ofChars_eq_templateOf {text path : List Char} {verb : Option (List Char)}
    {tokens : List Token} (hne : text ≠ []) (hcut : cutVerb 0 text = (path, verb))
    (hverb : ∀ v ∈ verb, isVerb v = true) (hscan : scan (.outside []) path = some tokens) :
    Template.ofChars text = templateOf tokens verb := by
  rw [Template.ofChars, if_neg hne, hcut, templateOf]
  simp only [hscan]
  cases verb with
  | none => rfl
  | some verb => simp only [hverb verb rfl, Bool.not_true, Bool.false_eq_true, if_false, pure_bind]

/-- Only a text with a verb and tokens is read. -/
theorem exists_tokens_of_ofChars {text : List Char} {t : Template} (h : Template.ofChars text = .ok t) :
    text ≠ [] ∧ ∃ path verb tokens, cutVerb 0 text = (path, verb) ∧
      (∀ v ∈ verb, isVerb v = true) ∧ scan (.outside []) path = some tokens := by
  rw [Template.ofChars] at h
  by_cases hempty : text = []
  · rw [if_pos hempty] at h
    cases h
  rw [if_neg hempty] at h
  refine ⟨hempty, ?_⟩
  generalize cutVerb 0 text = cut at h
  obtain ⟨path, verb⟩ := cut
  simp only at h
  cases hscan : scan (.outside []) path with
  | none =>
    -- a path that cannot be scanned is refused, with a verb and without one
    rw [hscan] at h
    cases verb with
    | none => cases h
    | some verb =>
      simp only at h
      split_ifs at h <;> cases h
  | some tokens =>
    refine ⟨path, verb, tokens, rfl, ?_, hscan⟩
    rintro v ⟨⟩
    simp only at h
    split_ifs at h with hverb
    · cases h
    · simpa using hverb

/-- Every template read off a text comes of some tokens and a verb. -/
theorem exists_templateOf_of_ofChars {text : List Char} {t : Template}
    (h : Template.ofChars text = .ok t) : ∃ tokens verb, templateOf tokens verb = .ok t := by
  obtain ⟨hne, path, verb, tokens, hcut, hverb, hscan⟩ := exists_tokens_of_ofChars h
  rw [ofChars_eq_templateOf hne hcut hverb hscan] at h
  exact ⟨tokens, verb, h⟩

/-- A template read off a text has what reading guarantees. -/
theorem isRead_of_ofChars {text : List Char} {t : Template} (h : Template.ofChars text = .ok t) :
    t.IsRead := by
  obtain ⟨tokens, verb, h⟩ := exists_templateOf_of_ofChars h
  obtain ⟨hsegments, horder, hliteral, hverb⟩ := templateOf_eq_ok_iff.mp h
  refine ⟨isName_of_segmentsOf hsegments, (checkOrder_eq_ok_iff.mp horder).1, ?_⟩
  rwa [hverb, Option.isSome_map]

/-- Reading a template ensures that it can be routed. -/
theorem isRead_of_parse {text : String} {t : Template} (h : Template.parse text = .ok t) :
    t.IsRead :=
  isRead_of_ofChars h

/-- The parameters of a template are pairwise different. -/
theorem nodup_parameters_of_parse {text : String} {t : Template}
    (h : Template.parse text = .ok t) : t.parameters.Nodup := by
  obtain ⟨tokens, verb, h⟩ := exists_templateOf_of_ofChars h
  obtain ⟨-, horder, -⟩ := templateOf_eq_ok_iff.mp h
  exact (checkOrder_eq_ok_iff.mp horder).2.1

/-! ## The two texts of a template -/

/-- Two routes that differ only in how their last parameter binds: the first takes one segment of a
path and the second takes the rest. -/
def DifferInRest (one rest : String) : Prop :=
  ∃ front name, isName name.toList = true ∧ one = front ++ "\x7b" ++ name ++ "\x7d" ∧
    rest = front ++ "\x7b*" ++ name ++ "\x7d"

/-- A segment that takes no rest is documented as it is routed. -/
theorem Segment.route_eq_docPath {s : Segment} (h : s.isCatchAll = false) : s.route = s.docPath := by
  cases s with
  | literal | param => rfl
  | catchAll => cases h

/-- A template without a rest is documented as it is routed. -/
theorem write_of_forall {t : Template} (h : ∀ s ∈ t.segments, s.isCatchAll = false) :
    t.route = t.docPath := by
  have hsegments : t.segments.map (fun s => "/" ++ s.route) =
      t.segments.map fun s => "/" ++ s.docPath :=
    List.map_congr_left fun s hs => by rw [Segment.route_eq_docPath (h s hs)]
  rw [Template.route, Template.docPath, Template.write, Template.write, hsegments]

/-- The text of a template without a verb is that of its segments, when there are any. -/
theorem write_of_append {t : Template} {front : List Segment} {last : Segment}
    (hsegments : t.segments = front ++ [last]) (hverb : t.verb = none) (f : Segment → String) :
    t.write f = String.join (front.map fun s => "/" ++ f s) ++ "/" ++ f last := by
  have hjoin : String.join (t.segments.map fun s => "/" ++ f s) =
      String.join (front.map fun s => "/" ++ f s) ++ "/" ++ f last := by
    rw [hsegments, List.map_append, String.join_append, String.append_assoc]
    simp [String.join_cons]
  have hne : (String.join (t.segments.map fun s => "/" ++ f s)).isEmpty = false := by
    rw [hjoin]
    simp
  rw [Template.write, hverb]
  simp only [hne, Bool.false_eq_true, if_false]
  exact hjoin

/-- The route of a template is its path in the documentation, up to a last parameter that takes the
rest of the path. -/
theorem Template.IsRead.route_cases {t : Template} (h : t.IsRead) :
    t.route = t.docPath ∨ DifferInRest t.docPath t.route := by
  by_cases hall : ∀ s ∈ t.segments, s.isCatchAll = false
  · exact .inl (write_of_forall hall)
  obtain ⟨last, hlast, hrest⟩ : ∃ s ∈ t.segments, s.isCatchAll = true := by simpa using hall
  obtain ⟨front, final, hsegments⟩ : ∃ front final, t.segments = front ++ [final] :=
    List.eq_nil_or_concat' t.segments |>.resolve_left (List.ne_nil_of_mem hlast)
  have hfront : ∀ s ∈ front, s.isCatchAll = false := by
    have hdrop := h.catchAll_last
    rwa [hsegments, List.dropLast_concat] at hdrop
  -- only the final segment can take the rest, so it does
  obtain rfl : last = final := by
    rw [hsegments, List.mem_append, List.mem_singleton] at hlast
    obtain hlast | hlast := hlast
    · rw [hfront last hlast] at hrest
      cases hrest
    · exact hlast
  cases last with
  | literal | param => cases hrest
  | catchAll name =>
    have hverb : t.verb = none := by
      by_contra hsome
      have hliteral := h.verb_literal (Option.isSome_iff_ne_none.mpr hsome)
      rw [endsInLiteral, hsegments, List.getLast?_concat] at hliteral
      cases hliteral
    have hname : isName name.toList = true :=
      h.names (.catchAll name) (by simp [hsegments]) name rfl
    have hjoin : front.map (fun s => "/" ++ s.route) = front.map fun s => "/" ++ s.docPath :=
      List.map_congr_left fun s hs => by rw [Segment.route_eq_docPath (hfront s hs)]
    right
    refine ⟨String.join (front.map fun s => "/" ++ s.docPath) ++ "/", name, hname, ?_, ?_⟩
    · rw [Template.docPath, write_of_append hsegments hverb, Segment.docPath]
      simp only [String.append_assoc]
    · rw [Template.route, write_of_append hsegments hverb, Segment.route, hjoin]
      simp only [String.append_assoc]

/-! ## Templates with one text in the documentation -/

/-- Names have letters, digits and underscores only. -/
theorem isNameChar_of_isName {name : List Char} (h : isName name = true) :
    ∀ c ∈ name, isNameChar c = true := by
  cases name with
  | nil => simp
  | cons first rest =>
    rw [isName, Bool.and_eq_true, Bool.or_eq_true, List.all_eq_true] at h
    obtain ⟨hfirst, hrest⟩ := h
    refine List.forall_mem_cons.mpr ⟨?_, hrest⟩
    rw [isNameChar, Char.isAlphanum, Bool.or_eq_true, Bool.or_eq_true]
    exact hfirst.imp_left .inl

/-- A character that is neither alphanumeric nor an underscore stands in no name. -/
theorem notMem_of_isName {name : List Char} (h : isName name = true) {c : Char}
    (hc : c.isAlphanum = false) (hunderscore : c ≠ '_') : c ∉ name := by
  intro hmem
  have hname := isNameChar_of_isName h c hmem
  simp [isNameChar, hc, hunderscore] at hname

/-- A route with one segment for its last parameter differs from one route only. -/
theorem DifferInRest.unique {one rest rest' : String} (h : DifferInRest one rest)
    (h' : DifferInRest one rest') : rest = rest' := by
  obtain ⟨front, name, hname, rfl, rfl⟩ := h
  obtain ⟨front', name', hname', hone, rfl⟩ := h'
  have hbrace {n : String} (hn : isName n.toList = true) : '\x7b' ∉ (n.toList ++ ['\x7d']) := by
    rw [List.mem_append, not_or]
    exact ⟨notMem_of_isName hn rfl (by decide), by decide⟩
  have hlist := congrArg String.toList hone
  simp only [String.toList_append, List.append_assoc] at hlist
  -- the brace of the last parameter is the last one that opens
  obtain ⟨hfront, hrest⟩ := append_cons_inj (hbrace hname) (hbrace hname') hlist
  rw [List.append_cancel_right_eq, String.toList_inj] at hrest
  rw [String.toList_inj] at hfront
  rw [hfront, hrest]

/-- Templates with one path in the documentation have one route, or two routes of which one takes
the rest where the other takes one segment. -/
theorem Template.IsRead.routes_of_docPath_eq {t u : Template} (ht : t.IsRead) (hu : u.IsRead)
    (h : t.docPath = u.docPath) :
    t.route = u.route ∨ DifferInRest t.route u.route ∨ DifferInRest u.route t.route := by
  obtain htroute | htroute := ht.route_cases <;> obtain huroute | huroute := hu.route_cases
  · exact .inl (by rw [htroute, huroute, h])
  · exact .inr (.inl (by rw [htroute, h]; exact huroute))
  · exact .inr (.inr (by rw [huroute, ← h]; exact htroute))
  · exact .inl (htroute.unique (h ▸ huroute))

end ProtoRest.Path
