import Mathlib.Data.List.Basic
import ProtoRest.Fault.Collector

/-! # Joined faults
However faults are joined, nothing of them is lost: a fault in which no joined one is empty shows the
texts of its leaves (`IsFilled.message_eq`) and is fatal exactly when one of them is
(`IsFilled.isFatal_iff`). What a collector holds after some stages has the leaves of all that was found
(`Collector.Holds.gather`), so it reports the same as a collector without stages
(`joined_faults_report_leaves`). -/

namespace ProtoRest.Fault

/-! ## Leaves -/

/-- A fault is not joined from others. -/
def IsLeaf (fault : Fault) : Prop := ∀ faults, fault ≠ .several faults

/-- No joined fault in a fault is empty. -/
inductive IsFilled : Fault → Prop
  /-- The fault is not joined from others. -/
  | leaf {fault : Fault} (h : fault.IsLeaf) : IsFilled fault
  /-- The fault is joined from others, one at least. -/
  | several {faults : List Fault} (hne : faults ≠ []) (h : ∀ fault ∈ faults, IsFilled fault) :
    IsFilled (.several faults)

variable {fault : Fault}

/-- A joined fault is fatal exactly when one of its faults is. -/
theorem isFatal_several (faults : List Fault) :
    (Fault.several faults).isFatal = faults.any isFatal := by
  rw [isFatal, anyFatal_eq_any]

/-- A joined fault's message has a line for each of its faults. -/
theorem message_several (faults : List Fault) :
    (Fault.several faults).message = "\n".intercalate (faults.map message) :=
  messageLines_eq_intercalate faults

/-- A leaf is its own only leaf. -/
theorem IsLeaf.leaves_eq (h : fault.IsLeaf) : fault.leaves = [fault] := by
  rw [leaves]
  exact h

namespace IsFilled

/-- A filled fault has a leaf. -/
theorem leaves_ne_nil (h : fault.IsFilled) : fault.leaves ≠ [] := by
  induction h with
  | leaf h => simp [h.leaves_eq]
  | several hne _ ih =>
    obtain ⟨first, rest, rfl⟩ := List.exists_cons_of_ne_nil hne
    rw [leaves_several, leavesOfAll]
    exact List.append_ne_nil_of_left_ne_nil (ih first List.mem_cons_self) _

/-- The leaves of a filled fault are leaves. -/
theorem isLeaf_of_mem_leaves (h : fault.IsFilled) : ∀ leaf ∈ fault.leaves, leaf.IsLeaf := by
  induction h with
  | leaf h => simpa [h.leaves_eq] using h
  | several _ _ ih =>
    rw [leaves_several, leavesOfAll_eq_flatMap]
    intro leaf hleaf
    obtain ⟨fault, hfault, hleaf⟩ := List.mem_flatMap.mp hleaf
    exact ih fault hfault leaf hleaf

/-- A fault is fatal exactly when one of its leaves is. -/
theorem isFatal_iff (h : fault.IsFilled) :
    fault.isFatal = true ↔ ∃ leaf ∈ fault.leaves, leaf.isFatal = true := by
  induction h with
  | leaf h => simp [h.leaves_eq]
  | several _ _ ih =>
    rw [isFatal_several, List.any_eq_true, leaves_several, leavesOfAll_eq_flatMap]
    constructor
    · rintro ⟨fault, hfault, hfatal⟩
      obtain ⟨leaf, hleaf, hfatal⟩ := (ih fault hfault).mp hfatal
      exact ⟨leaf, List.mem_flatMap.mpr ⟨fault, hfault, hleaf⟩, hfatal⟩
    · rintro ⟨leaf, hleaf, hfatal⟩
      obtain ⟨fault, hfault, hleaf⟩ := List.mem_flatMap.mp hleaf
      exact ⟨fault, hfault, (ih fault hfault).mpr ⟨leaf, hleaf, hfatal⟩⟩

end IsFilled

/-! ## Texts -/

/-- Joining texts in parts that are not empty is joining them at once. -/
theorem intercalate_flatMap (sep : String) {texts : Fault → List String} {faults : List Fault}
    (h : ∀ fault ∈ faults, texts fault ≠ []) :
    sep.intercalate (faults.flatMap texts) =
      sep.intercalate (faults.map fun fault => sep.intercalate (texts fault)) := by
  induction faults with
  | nil => rfl
  | cons fault faults ih =>
    rw [List.forall_mem_cons] at h
    cases faults with
    | nil => simp
    | cons next faults =>
      have hrest : (next :: faults).flatMap texts ≠ [] :=
        List.append_ne_nil_of_left_ne_nil (h.2 next List.mem_cons_self) _
      rw [List.flatMap_cons, String.intercalate_append_of_ne_nil h.1 hrest, ih h.2, List.map_cons,
        List.map_cons, List.map_cons, String.intercalate_cons_cons]

/-- A fault shows the texts of its leaves, one per line. -/
theorem IsFilled.message_eq (h : fault.IsFilled) :
    fault.message = "\n".intercalate (fault.leaves.map message) := by
  induction h with
  | leaf h => rw [h.leaves_eq, List.map_singleton, String.intercalate_singleton]
  | @several faults _ hfilled ih =>
    -- a part without leaves would have an empty line of its own
    have hne : ∀ fault ∈ faults, fault.leaves.map message ≠ [] := fun fault hfault =>
      mt List.map_eq_nil_iff.mp (hfilled fault hfault).leaves_ne_nil
    calc (Fault.several faults).message
        = "\n".intercalate (faults.map message) := message_several faults
      _ = "\n".intercalate (faults.map fun fault => "\n".intercalate (fault.leaves.map message)) := by
        rw [List.map_congr_left ih]
      _ = "\n".intercalate ((Fault.several faults).leaves.map message) := by
        rw [← intercalate_flatMap "\n" hne, leaves_several, leavesOfAll_eq_flatMap, List.map_flatMap]

/-! ## Stages -/

/-- No joined fault in what there is to collect is empty. -/
inductive Staged.IsFilled : Staged → Prop
  /-- It is one fault. -/
  | found {fault : Fault} (h : fault.IsFilled) : IsFilled (.found fault)
  /-- It is a stage, empty or not. -/
  | stage {parts : List Staged} (h : ∀ part ∈ parts, IsFilled part) : IsFilled (.stage parts)

/-- Two faults show the same text and have the same consequence for the run. -/
structure SameReport (fault other : Fault) : Prop where
  /-- The texts are the same. -/
  message : fault.message = other.message
  /-- Both concern the whole run, or neither does. -/
  isFatal : fault.isFatal = other.isFatal

namespace Collector

variable {c inner : Collector} {found found' : List Fault}

/-- A collector holds faults with just these leaves, and no empty one. -/
structure Holds (c : Collector) (found : List Fault) : Prop where
  /-- No joined fault is empty. -/
  filled : ∀ fault ∈ c.faults, fault.IsFilled
  /-- The leaves, in order. -/
  leaves : leavesOfAll c.faults = found

/-- An empty collector holds no leaves. -/
theorem holds_empty : Holds {} [] := ⟨List.forall_mem_nil _, rfl⟩

/-- A collector that gets a fault holds the fault's leaves behind those it held. -/
theorem Holds.add (h : c.Holds found) (hfault : fault.IsFilled) :
    (c.add fault).Holds (found ++ fault.leaves) := by
  constructor
  · rw [faults_add, List.forall_mem_append, List.forall_mem_singleton]
    exact ⟨h.filled, hfault⟩
  · rw [faults_add, leavesOfAll_eq_flatMap, List.flatMap_append, List.flatMap_singleton,
      ← leavesOfAll_eq_flatMap, h.leaves]

/-- A stage leaves nothing behind when it has found nothing, and otherwise one fault with all that
it has found. -/
theorem Holds.keep (h : c.Holds found) (hinner : inner.Holds found') :
    (c.keep inner.result).2.Holds (found ++ found') := by
  obtain ⟨faults⟩ := inner
  obtain ⟨hfilled, rfl⟩ := hinner
  cases faults with
  | nil =>
    -- the result is a success, which adds nothing
    rw [leavesOfAll, List.append_nil]
    exact h
  | cons first rest =>
    have hadd := h.add (.several (List.cons_ne_nil first rest) hfilled)
    rwa [leaves_several] at hadd

/-- What every part keeps, all of them keep. -/
theorem Holds.gatherAll_of {parts : List Staged}
    (hstep : ∀ part ∈ parts, ∀ {c : Collector} {found : List Fault}, c.Holds found →
      (c.gather part).Holds (found ++ part.leaves))
    (h : c.Holds found) : (c.gatherAll parts).Holds (found ++ Staged.leavesOfAll parts) := by
  induction parts generalizing c found with
  | nil =>
    rw [gatherAll, Staged.leavesOfAll, List.append_nil]
    exact h
  | cons part parts ih =>
    rw [List.forall_mem_cons] at hstep
    rw [gatherAll, Staged.leavesOfAll, ← List.append_assoc]
    exact ih hstep.2 (hstep.1 h)

/-- A collector that gathers a stage holds the stage's leaves behind those it held. -/
theorem Holds.gather {part : Staged} (hpart : part.IsFilled) (h : c.Holds found) :
    (c.gather part).Holds (found ++ part.leaves) := by
  induction hpart generalizing c found with
  | found hfault =>
    rw [Collector.gather, Staged.leaves]
    exact h.add hfault
  | stage _ ih =>
    -- the collector of the stage starts empty, whatever the one around it holds
    rw [Collector.gather, Staged.leaves]
    exact h.keep (holds_empty.gatherAll_of fun part hpart => ih part hpart)

/-- A collector that gathers several stages holds their leaves, in order, behind those it held. -/
theorem Holds.gatherAll {parts : List Staged} (hparts : ∀ part ∈ parts, part.IsFilled)
    (h : c.Holds found) : (c.gatherAll parts).Holds (found ++ Staged.leavesOfAll parts) :=
  h.gatherAll_of fun part hpart => Holds.gather (hparts part hpart)

/-- A collector keeps the faults it gets, in order. -/
theorem faults_foldl_add (c : Collector) (faults : List Fault) :
    (faults.foldl Collector.add c).faults = c.faults ++ faults := by
  induction faults generalizing c with
  | nil => rw [List.foldl_nil, List.append_nil]
  | cons fault faults ih => rw [List.foldl_cons, ih, faults_add, List.append_assoc]; rfl

/-- A collector reports the same as one to which its leaves were added one by one. -/
theorem Holds.rel_joined? (h : c.Holds found) :
    Option.Rel SameReport c.joined? (found.foldl Collector.add {}).joined? := by
  have hdirect : (found.foldl Collector.add {}).faults = found := faults_foldl_add {} found
  rw [joined?, joined?, hdirect]
  obtain ⟨faults⟩ := c
  obtain ⟨hfilled, rfl⟩ := h
  cases faults with
  | nil =>
    rw [leavesOfAll]
    exact .none
  | cons first rest =>
    have hfilled : (Fault.several (first :: rest)).IsFilled :=
      .several (List.cons_ne_nil first rest) hfilled
    -- something was found, so the collector of the leaves is not empty either
    have hne := hfilled.leaves_ne_nil
    have hmessage := hfilled.message_eq
    have hfatal := hfilled.isFatal_iff
    rw [leaves_several] at hne hmessage hfatal
    obtain ⟨leaf, leaves, hleaves⟩ := List.exists_cons_of_ne_nil hne
    rw [hleaves] at hmessage hfatal ⊢
    refine .some ⟨?_, ?_⟩
    · rw [hmessage, message_several]
    · rw [Bool.eq_iff_iff, hfatal, isFatal_several, List.any_eq_true]

end Collector

/-! ## Main statement -/

/-- A fault in which no joined one is empty concerns the whole run exactly when one of its leaves does,
and it shows the texts of its leaves from left to right, one per line. Faults that are collected in
stages are reported as their leaves would be when they are collected one by one: nothing is reported of
either, or the same text with the same consequence for the run. -/
theorem joined_faults_report_leaves :
    (∀ fault : Fault, fault.IsFilled →
      (∀ leaf ∈ fault.leaves, leaf.IsLeaf) ∧
      (fault.isFatal = true ↔ ∃ leaf ∈ fault.leaves, leaf.isFatal = true) ∧
      fault.message = "\n".intercalate (fault.leaves.map message)) ∧
    ∀ parts : List Staged, (∀ part ∈ parts, part.IsFilled) →
      Option.Rel SameReport (Collector.gatherAll {} parts).joined?
        ((Staged.leavesOfAll parts).foldl Collector.add {}).joined? := by
  refine ⟨fun fault h => ⟨h.isLeaf_of_mem_leaves, h.isFatal_iff, h.message_eq⟩, fun parts h => ?_⟩
  have hheld : (Collector.gatherAll {} parts).Holds (Staged.leavesOfAll parts) :=
    Collector.holds_empty.gatherAll h
  exact hheld.rel_joined?

/-- Three faults, two of them found in stages, with an empty stage between these. -/
def nestedStages : List Staged :=
  [.found (.schema "books.proto" "books.Books.Get" "no path"),
   .stage
    [.found (.options "loans.proto" "bad status"), .stage [], .stage [.found (.template "broken")]]]

/-- The three faults as they are joined. -/
def nestedFault : Fault :=
  .several
    [.schema "books.proto" "books.Books.Get" "no path",
     .several [.options "loans.proto" "bad status", .several [.template "broken"]]]

/-- A fatal fault two stages deep makes all of them fatal, and every fault has its line. -/
theorem report_of_nestedStages :
    nestedFault.IsFilled ∧ (∀ part ∈ nestedStages, part.IsFilled) ∧
    (Collector.gatherAll {} nestedStages).joined? = some nestedFault ∧
    nestedFault.isFatal = true ∧
    nestedFault.message =
      "books.proto: books.Books.Get: no path\nloans.proto: failed to parse options: bad status\n" ++
        "Template error: broken" ∧
    Option.Rel SameReport (some nestedFault)
      ((Staged.leavesOfAll nestedStages).foldl Collector.add {}).joined? := by
  have hschema : IsFilled (.schema "books.proto" "books.Books.Get" "no path") := .leaf nofun
  have hoptions : IsFilled (.options "loans.proto" "bad status") := .leaf nofun
  have htemplate : IsFilled (.template "broken") := .leaf nofun
  -- the stages join two levels deep, and each level holds a fault
  have hrest : IsFilled (.several [.options "loans.proto" "bad status", .several [.template "broken"]]) :=
    .several (by simp) (by simpa using ⟨hoptions, .several (by simp) (by simpa using htemplate)⟩)
  have hfilled : nestedFault.IsFilled := .several (by simp) (by simpa using ⟨hschema, hrest⟩)
  have hparts : ∀ part ∈ nestedStages, part.IsFilled := by
    have hlast : Staged.IsFilled (.stage [.found (.template "broken")]) :=
      .stage (by simpa using .found htemplate)
    have hempty : Staged.IsFilled (.stage []) := .stage nofun
    simpa [nestedStages] using
      ⟨.found hschema, .stage (by simpa using ⟨.found hoptions, hempty, hlast⟩)⟩
  obtain ⟨hleaves, hstages⟩ := joined_faults_report_leaves
  obtain ⟨-, hfatal, hmessage⟩ := hleaves nestedFault hfilled
  refine ⟨hfilled, hparts, rfl, hfatal.mpr ⟨.template "broken", ?_, rfl⟩, ?_, hstages _ hparts⟩
  · exact .tail _ (.tail _ (.head _))
  · rw [hmessage]
    decide +kernel

end ProtoRest.Fault
