/-! # Similarity of names
`jaro` is the Jaro similarity of two texts, between zero and one. Two equal characters match when
they are near enough; the similarity is the mean of the matched shares of both texts and of the
share of matches that are in order. `mostSimilar` picks the candidate to suggest for a name. -/

namespace ProtoRest.Text

/-- Marks the first unmarked `c` at a position in `[low, high)`, if there is one; `i` is the
position of the head. -/
def markFirst (c : Char) (low high : Nat) : Nat → List (Char × Bool) → Option (List (Char × Bool))
  | _, [] => none
  | i, (d, used) :: rest =>
    if low ≤ i ∧ i < high ∧ c = d ∧ used = false then some ((d, true) :: rest)
    else (markFirst c low high (i + 1) rest).map ((d, used) :: ·)

/-- The matched characters of the first text in order and the marks of the second text. -/
def matchChars (range : Nat) : Nat → List Char → List (Char × Bool) → List Char × List (Char × Bool)
  | _, [], marks => ([], marks)
  | i, c :: cs, marks =>
    match markFirst c (i - range) (i + range + 1) 0 marks with
    | none => matchChars range (i + 1) cs marks
    | some marks =>
      let rest := matchChars range (i + 1) cs marks
      (c :: rest.1, rest.2)

/-- The Jaro similarity of two texts. -/
def jaro (a b : List Char) : Float :=
  if a = [] ∧ b = [] then 1.0
  else if a = [] ∨ b = [] then 0.0
  else
    let range := max a.length b.length / 2 - 1
    let (left, marks) := matchChars range 0 a (b.map (·, false))
    let right := (marks.filter (·.2)).map (·.1)
    let outOfOrder := (List.zipWith (· != ·) left right).count true / 2
    if left = [] then 0.0
    else
      let found := left.length.toFloat
      (found / a.length.toFloat + found / b.length.toFloat +
        (left.length - outOfOrder).toFloat / found) / 3.0

/-- The least similarity that is worth a suggestion is above this one. -/
def suggestionBound : Float := 0.7

/-- The most similar of the candidates that are similar enough; the last one when several are
equally similar. -/
def mostSimilar (name : String) (candidates : List String) : Option String :=
  let scored := candidates.map fun c => (jaro name.toList c.toList, c)
  let best := (scored.filter (·.1 > suggestionBound)).foldl
    (fun (best : Option (Float × String)) s =>
      match best with
      | none => some s
      | some b => if s.1 < b.1 then some b else some s) none
  best.map (·.2)

end ProtoRest.Text
