import ProtoRest.Path.Layout
import ProtoRest.Path.Matching

/-! # Texts of templates
Every text of a template has one layout: the segments with a slash before each, and the verb behind
them (`toList_write`). -/

namespace ProtoRest.Path

/-- The characters of a path: its segments as they are written, with a slash before each. -/
def pathChars (segment : Segment → String) (segments : List Segment) : List Char :=
  segments.flatMap fun s => '/' :: (segment s).toList

@[simp] theorem pathChars_nil (segment : Segment → String) : pathChars segment [] = [] := rfl

/-- A path with one more segment in front begins with a slash and that segment. -/
theorem pathChars_cons (segment : Segment → String) (s : Segment) (segments : List Segment) :
    pathChars segment (s :: segments) = '/' :: (segment s).toList ++ pathChars segment segments :=
  List.flatMap_cons

/-- The path of two lists of segments is that of the first and then that of the second. -/
theorem pathChars_append (segment : Segment → String) (front back : List Segment) :
    pathChars segment (front ++ back) = pathChars segment front ++ pathChars segment back :=
  List.flatMap_append

/-- The characters of a segment's route: a literal as it stands, a parameter in braces. -/
theorem toList_route (s : Segment) :
    s.route.toList = match s with
      | .literal text => text.toList
      | .param name => '{' :: name.toList ++ ['}']
      | .catchAll name => '{' :: '*' :: name.toList ++ ['}'] := by
  cases s <;> simp [Segment.route]

/-- The characters of a segment's documented path: parameters of both sorts look alike. -/
theorem toList_docPath (s : Segment) :
    s.docPath.toList = match s with
      | .literal text => text.toList
      | .param name | .catchAll name => '{' :: name.toList ++ ['}'] := by
  cases s <;> simp [Segment.docPath]

/-- Segments joined behind slashes are written as their path. -/
theorem toList_join_map (segment : Segment → String) (segments : List Segment) :
    (String.join (segments.map fun s => "/" ++ segment s)).toList = pathChars segment segments := by
  rw [String.toList_join, List.flatMap_map]
  refine List.flatMap_congr fun s _ => ?_
  rw [String.toList_append]
  rfl

/-- The text of a template; the slash alone stands for no segment. -/
theorem toList_write (segment : Segment → String) (t : Template) :
    (t.write segment).toList =
      (if t.segments = [] then ['/'] else pathChars segment t.segments) ++
        verbText (t.verb.map String.toList) := by
  -- a template without segments is written as a lone slash
  have hempty : (String.join (t.segments.map fun s => "/" ++ segment s)).isEmpty = true ↔
      t.segments = [] := by
    rw [String.isEmpty_iff, ← String.toList_eq_nil_iff, toList_join_map]
    cases t.segments with
    | nil => simp
    | cons s segments => simp [pathChars_cons]
  have hpath : (if (String.join (t.segments.map fun s => "/" ++ segment s)).isEmpty then "/"
      else String.join (t.segments.map fun s => "/" ++ segment s)).toList =
        if t.segments = [] then ['/'] else pathChars segment t.segments := by
    by_cases hnil : t.segments = []
    · rw [if_pos (hempty.mpr hnil), if_pos hnil]
      rfl
    · rw [if_neg (mt hempty.mp hnil), if_neg hnil, toList_join_map]
  rw [← hpath, Template.write]
  cases t.verb with
  | none => simp [verbText]
  | some verb => simp [verbText]

end ProtoRest.Path
