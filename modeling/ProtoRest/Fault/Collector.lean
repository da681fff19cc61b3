import ProtoRest.Fault

/-! # Collecting faults
A collector gathers the faults of independent pieces of work, so that one run reports all of them.
`Collector.add` appends a fault, `Collector.keep` takes a result apart, and `Collector.joined?`
gives everything back as one fault. `Collector.gather` collects in stages. -/

namespace ProtoRest.Fault

/-- The faults found so far, in order. -/
structure Collector where
  /-- The faults in the order they were added. -/
  faults : List Fault := []
  deriving Repr

namespace Collector

/-- One more fault. -/
def add (c : Collector) (fault : Fault) : Collector := ⟨c.faults ++ [fault]⟩

/-- A fault is added behind those there are. -/
@[simp] theorem faults_add (c : Collector) (fault : Fault) :
    (c.add fault).faults = c.faults ++ [fault] := rfl

/-- The value of a result, or its fault added to the collector. -/
def keep {α : Type} (c : Collector) : Except Fault α → Option α × Collector
  | .ok value => (some value, c)
  | .error fault => (none, c.add fault)

/-- The number of faults. -/
def size (c : Collector) : Nat := c.faults.length

/-- Whether there is no fault. -/
def isEmpty (c : Collector) : Bool := c.faults.isEmpty

/-- All faults joined, or nothing. -/
def joined? (c : Collector) : Option Fault := Fault.joined? c.faults

/-- Success when there is no fault, the joined faults otherwise. -/
def result (c : Collector) : Except Fault Unit :=
  match c.joined? with
  | none => .ok ()
  | some fault => .error fault

end Collector

/-! ## Stages
Work can be done in stages, each with a collector of its own. What the collector of a stage has found
is joined and kept as one fault by the collector around it. -/

/-- What there is to collect. -/
inductive Staged
  /-- One fault. -/
  | found (fault : Fault)
  /-- What is found in a stage, in order. -/
  | stage (parts : List Staged)

mutual

/-- Collects a fault, or the result of a stage that has a collector of its own. -/
def Collector.gather (c : Collector) : Staged → Collector
  | .found fault => c.add fault
  | .stage parts => (c.keep (Collector.gatherAll {} parts).result).2

/-- Collects faults and stages one after the other. -/
def Collector.gatherAll (c : Collector) : List Staged → Collector
  | [] => c
  | part :: parts => (c.gather part).gatherAll parts

end

mutual

/-- The faults in what there is to collect that are not joined ones, from left to right. -/
def Staged.leaves : Staged → List Fault
  | .found fault => fault.leaves
  | .stage parts => Staged.leavesOfAll parts

/-- The faults in all that there is to collect that are not joined ones. -/
def Staged.leavesOfAll : List Staged → List Fault
  | [] => []
  | part :: parts => part.leaves ++ Staged.leavesOfAll parts

end

end ProtoRest.Fault
