/-! # Sets of characters
A Unicode property is kept as a list of **runs** of code points: first, last and step, since in many
blocks the letters alternate between two properties. `Run.mem` decides membership in one run,
`inRuns` in a list of them, and `inRanges` is the plain case of step one. -/

namespace ProtoRest.Text

/-- The code points `first`, `first + step`, … up to `last`. -/
structure Run where
  /-- The least code point of the run. -/
  first : Nat
  /-- No code point of the run is above this one. -/
  last : Nat
  /-- The distance of two neighbours. -/
  step : Nat

/-- Whether a code point lies on a run. -/
def Run.mem (r : Run) (n : Nat) : Bool :=
  r.first ≤ n && n ≤ r.last && (n - r.first) % r.step == 0

/-- Whether a code point lies on one of several runs. -/
def inRuns (rs : List Run) (n : Nat) : Bool := rs.any (·.mem n)

@[simp] theorem inRuns_nil (n : Nat) : inRuns [] n = false := rfl

@[simp] theorem inRuns_cons (r : Run) (rs : List Run) (n : Nat) :
    inRuns (r :: rs) n = (r.mem n || inRuns rs n) := rfl

/-- Whether a code point lies in one of several inclusive ranges. -/
def inRanges (rs : List (Nat × Nat)) (n : Nat) : Bool :=
  rs.any fun r => r.1 ≤ n && n ≤ r.2

@[simp] theorem inRanges_nil (n : Nat) : inRanges [] n = false := rfl

@[simp] theorem inRanges_cons (r : Nat × Nat) (rs : List (Nat × Nat)) (n : Nat) :
    inRanges (r :: rs) n = ((r.1 ≤ n && n ≤ r.2) || inRanges rs n) := rfl

end ProtoRest.Text
