import ProtoRest.Proofs.Schema.EnumPlaces
import ProtoRest.Proofs.Text.Pieces

/-! # Loaded comments
The comment of a place is loaded on one line, with all its words, and a comment that is on one line is
loaded as it is (`comments_keep_words`). -/

namespace ProtoRest.Schema

open ProtoRest.Descriptor ProtoRest.Result ProtoRest.Text

/-! ## One comment -/

/-- A text is on one line: it has no line feed, and no blank at either end. -/
structure IsLine (text : String) : Prop where
  /-- It has no line feed. -/
  unbroken : '\n' ∉ text.toList
  /-- It neither starts nor ends in a blank. -/
  trimmed : IsTrimmed text.toList

/-- A shown comment is the flattened text, empty without a comment. -/
theorem toList_shownComment (comment : Option String) :
    (shownComment comment).toList = flatten (comment.getD "").toList :=
  String.toList_ofList

/-- A shown comment is one line. -/
theorem isLine_shownComment (comment : Option String) : IsLine (shownComment comment) := by
  constructor
  · rw [toList_shownComment]
    exact newline_notMem_flatten _
  · rw [toList_shownComment]
    exact isTrimmed_flatten _

/-- A comment on one line is shown as it is. -/
theorem shownComment_of_isLine {text : String} (h : IsLine text) : shownComment (some text) = text := by
  rw [← String.toList_inj, toList_shownComment]
  exact flatten_eq_self_iff.mpr ⟨h.unbroken, h.trimmed⟩

/-- What is loaded for a place is the comment that it has, as it is shown. -/
theorem comment_eq {l : Loader} {place : List Int} {comment : Option String}
    (h : HasComment place l.file.locations comment) : l.comment place = shownComment comment := by
  rw [Loader.comment]
  generalize l.file.locations = locations at h
  cases h with
  | none hnone =>
    have hfind : locations.find? (·.path == place) = none :=
      List.find?_eq_none.mpr fun location hmem => by simpa using hnone location hmem
    rw [hfind]
    rfl
  | @first before after location hbefore hplace =>
    have hfind : (before ++ location :: after).find? (·.path == place) = some location :=
      List.find?_eq_some_iff_append.mpr ⟨by simpa using hplace, before, after, rfl,
        fun other hmem => by simpa using hbefore other hmem⟩
    rw [hfind]
    rfl

/-- The comment loaded for a place is one line. -/
theorem isLine_comment (l : Loader) (place : List Int) : IsLine (l.comment place) := by
  obtain ⟨comment, -, hcomment⟩ := exists_comment l place
  rw [hcomment]
  exact isLine_shownComment comment

/-! ## Main statement -/

/-- The comment of a place is loaded without a line feed and without blanks around it, and it has the
words of the comment that was written, in order. A comment that is written as it would be loaded is
loaded as it is. -/
theorem comments_keep_words {l : Loader} {place : List Int} {comment : Option String}
    (h : HasComment place l.file.locations comment) :
    '\n' ∉ (l.comment place).toList ∧ IsTrimmed (l.comment place).toList ∧
    words (l.comment place).toList = words (comment.getD "").toList ∧
    ∀ (other : Loader) (place' : List Int),
      HasComment place' other.file.locations (some (l.comment place)) →
        other.comment place' = l.comment place := by
  have hline := isLine_comment l place
  refine ⟨hline.unbroken, hline.trimmed, ?_, fun other place' hother => ?_⟩
  · rw [comment_eq h, toList_shownComment, words_flatten]
  · rw [comment_eq hother, shownComment_of_isLine hline]

/-- A file with nothing but comments at the place of its first service. -/
def commentedFile (comment : String) : Loader where
  pool := ⟨[]⟩
  file :=
    { name := "shelf.proto", package := "shelf", messages := [], enums := [], services := []
      extensions := [], locations := [⟨[6], some "All services."⟩, ⟨[6, 0], some comment⟩] }

/-- The file that shows a comment has it at the place of its service. -/
theorem hasComment_commentedFile (comment : String) :
    HasComment [6, 0] (commentedFile comment).file.locations (some comment) := by
  have hbefore : ∀ other ∈ [(⟨[6], some "All services."⟩ : Location)], other.path ≠ [6, 0] := by
    decide
  exact .first hbefore rfl

/-- A comment of three lines, one of them blank, with line ends of both kinds. -/
theorem words_of_commentedFile :
    (commentedFile " Lends books,\r\n\n\tand keeps\u3000shelves. \n").comment [6, 0] =
      "Lends books, and keeps\u3000shelves." ∧
    words "Lends books, and keeps\u3000shelves.".toList =
      words " Lends books,\r\n\n\tand keeps\u3000shelves. \n".toList ∧
    (commentedFile "Lends books, and keeps\u3000shelves.").comment [6, 0] =
      "Lends books, and keeps\u3000shelves." := by
  have hcomment : (commentedFile " Lends books,\r\n\n\tand keeps\u3000shelves. \n").comment [6, 0] =
      "Lends books, and keeps\u3000shelves." := by
    decide +kernel
  obtain ⟨-, -, hwords, hagain⟩ := comments_keep_words
    (hasComment_commentedFile " Lends books,\r\n\n\tand keeps\u3000shelves. \n")
  rw [hcomment] at hwords hagain
  exact ⟨hcomment, hwords, hagain _ _ (hasComment_commentedFile _)⟩

end ProtoRest.Schema
