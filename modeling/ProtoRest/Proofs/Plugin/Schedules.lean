import ProtoRest.Plugin.Workers
import ProtoRest.Proofs.Related

/-! # Schedules
Whatever the number of workers and the order of their turns, a run with at most one fatal outcome
ends with the response that the outcomes have in the order of the request
(`respondWith_eq_expected`). Two invariants carry this: a worker reports its chunk, with outcomes
left out only when the run is aborted (`Worker.Follows`), and a run is aborted only after a fatal
outcome was reported (`Workers.Follows`). -/

namespace ProtoRest.Plugin

/-! ## Outcomes one after the other -/

/-- The fault of a worker that stops is fatal. -/
theorem isFatal_crashFault : Outcome.crashFault.isFatal = true := by
  rw [Outcome.crashFault, Fault.isFatal]

/-- A failure with that fault is the fatal outcome. -/
theorem fatal?_failed_crashFault :
    (Outcome.failed Outcome.crashFault).fatal? = some Outcome.crashFault := by
  rw [Outcome.fatal?, if_pos isFatal_crashFault]

namespace Response

/-- The outcomes are collected up to the first fatal one; without one, files and faults are kept in
order. -/
theorem collect_eq (c : Fault.Collector) (files : List OutputFile) (outcomes : List Outcome) :
    collect c files outcomes =
      match outcomes.findSome? Outcome.fatal? with
      | some fault => .error fault
      | none => .ok
          { error := (Fault.joined? (c.faults ++ outcomes.filterMap Outcome.local?)).map
              (·.message)
            features := some supportedFeatures
            files := files ++ outcomes.filterMap Outcome.file? } := by
  induction outcomes generalizing c files with
  | nil => simp [collect, Fault.Collector.joined?]
  | cons o outcomes ih =>
    -- a fatal outcome ends the loop, and after any other one the rest decides
    cases o with
    | nothing =>
      simp [collect, ih, List.findSome?_cons, List.filterMap_cons, Outcome.fatal?, Outcome.local?,
        Outcome.file?]
    | made file =>
      simp [collect, ih, List.findSome?_cons, List.filterMap_cons, Outcome.fatal?, Outcome.local?,
        Outcome.file?]
    | crashed => simp [collect, List.findSome?_cons, Outcome.fatal?]
    | failed fault =>
      cases hfatal : fault.isFatal with
      | true => simp [collect, hfatal, Outcome.fatal?]
      | false =>
        simp [collect, ih, hfatal, List.filterMap_cons, Outcome.fatal?, Outcome.local?,
          Outcome.file?]

/-- Going through the outcomes gives the response that a run should have. -/
theorem ofOutcomes_eq_expected (outcomes : List Outcome) :
    ofOutcomes outcomes = expected outcomes := by
  rw [ofOutcomes, collect_eq, expected]
  cases outcomes.findSome? Outcome.fatal? with
  | some fault => rfl
  | none => simp only [List.nil_append, Fault.map_message_joined?]

end Response

/-! ## What a worker reports -/

namespace Worker

/-- An outcome is reported as it is, or left out when the run is aborted. -/
def Reported (aborted : Bool) (o reported : Outcome) : Prop :=
  reported = o ∨ aborted = true ∧ reported = .nothing

/-- A worker is on its way through a chunk: it reported the outcomes that it has handled, unless
one of the chunk stopped it. -/
structure Follows (aborted : Bool) (chunk : List Outcome) (w : Worker) : Prop where
  /-- A worker stops without a report only at an outcome that does so. -/
  crashed : w.crashed = true → .crashed ∈ chunk
  /-- The other outcomes of the chunk are still to be handled. -/
  handled : w.crashed = false → ∃ seen, chunk = seen ++ (w.current.toList ++ w.todo) ∧
    List.Forall₂ (Reported aborted) seen w.done

/-- What may be reported while a run is not aborted may be reported when it is. -/
theorem Reported.mono {aborted : Bool} {o reported : Outcome} (more : Bool)
    (h : Reported aborted o reported) : Reported (aborted || more) o reported := by
  obtain h | ⟨haborted, h⟩ := h
  · exact .inl h
  · exact .inr ⟨by rw [haborted, Bool.true_or], h⟩

/-- A worker on its way stays so when the run is aborted. -/
theorem Follows.mono {aborted : Bool} {chunk : List Outcome} {w : Worker} (more : Bool)
    (h : Follows aborted chunk w) : Follows (aborted || more) chunk w := by
  refine ⟨h.crashed, fun hcrashed => ?_⟩
  obtain ⟨seen, hchunk, hdone⟩ := h.handled hcrashed
  exact ⟨seen, hchunk, hdone.imp fun _ _ => Reported.mono more⟩

/-- Everything that a step can do: nothing when the worker is finished, or stop at an outcome, or
report one, or leave one out, or take the next one. -/
theorem step_cases (sees : Bool) (w : Worker) :
    (w.isFinished = true ∧ w.step sees = (w, false)) ∨
    (w.crashed = false ∧ w.current = some .crashed ∧
      w.step sees = ({ w with current := none, crashed := true }, false)) ∨
    (∃ o, w.crashed = false ∧ w.current = some o ∧
      w.step sees = ({ w with current := none, done := w.done ++ [o] }, o.fatal?.isSome)) ∨
    (∃ o os, w.crashed = false ∧ w.current = none ∧ w.todo = o :: os ∧ sees = true ∧
      w.step sees = ({ w with todo := os, done := w.done ++ [.nothing] }, false)) ∨
    (∃ o os, w.crashed = false ∧ w.current = none ∧ w.todo = o :: os ∧ sees = false ∧
      w.step sees = ({ w with todo := os, current := some o }, false)) := by
  -- a worker is finished, ends the file it is at, or takes the next one
  obtain ⟨todo, current, done, crashed⟩ := w
  cases crashed with
  | true => exact .inl ⟨rfl, rfl⟩
  | false =>
    cases current with
    | some o =>
      cases o with
      | crashed => exact .inr (.inl ⟨rfl, rfl, rfl⟩)
      | _ => exact .inr (.inr (.inl ⟨_, rfl, rfl, rfl⟩))
    | none =>
      cases todo with
      | nil => exact .inl ⟨rfl, rfl⟩
      | cons o os =>
        cases sees with
        | true => exact .inr (.inr (.inr (.inl ⟨o, os, rfl, rfl, rfl, rfl, rfl⟩)))
        | false => exact .inr (.inr (.inr (.inr ⟨o, os, rfl, rfl, rfl, rfl, rfl⟩)))

/-- A step keeps a worker on its way, when it sees the run aborted only if it is. -/
theorem Follows.step {aborted sees : Bool} {chunk : List Outcome} {w : Worker}
    (hsees : sees = true → aborted = true) (h : Follows aborted chunk w) :
    Follows aborted chunk (w.step sees).1 := by
  obtain ⟨-, hstep⟩ | ⟨hcrashed, hcurrent, hstep⟩ | ⟨o, hcrashed, hcurrent, hstep⟩ |
    ⟨o, os, hcrashed, hcurrent, htodo, htrue, hstep⟩ |
    ⟨o, os, hcrashed, hcurrent, htodo, -, hstep⟩ := step_cases sees w
  · -- a finished worker stays as it is
    rw [hstep]
    exact h
  · -- a worker that stops does so at an outcome of its chunk
    obtain ⟨seen, hchunk, -⟩ := h.handled hcrashed
    rw [hstep]
    refine ⟨fun _ => ?_, fun hfalse => Bool.noConfusion hfalse⟩
    rw [hchunk, hcurrent]
    simp
  · -- the outcome in hand is reported
    obtain ⟨seen, hchunk, hdone⟩ := h.handled hcrashed
    rw [hstep]
    refine ⟨h.crashed, fun _ => ⟨seen ++ [o], ?_, ?_⟩⟩
    · simp [hchunk, hcurrent]
    · exact List.rel_append hdone (.cons (.inl rfl) .nil)
  · -- the next outcome is left out, which only an aborted run allows
    obtain ⟨seen, hchunk, hdone⟩ := h.handled hcrashed
    rw [hstep]
    refine ⟨h.crashed, fun _ => ⟨seen ++ [o], ?_, ?_⟩⟩
    · simp [hchunk, hcurrent, htodo]
    · exact List.rel_append hdone (.cons (.inr ⟨hsees htrue, rfl⟩) .nil)
  · -- the next outcome is taken in hand and counts neither as done nor as left
    obtain ⟨seen, hchunk, hdone⟩ := h.handled hcrashed
    rw [hstep]
    refine ⟨h.crashed, fun _ => ⟨seen, ?_, hdone⟩⟩
    simp [hchunk, hcurrent, htodo]

/-- Whether a worker reported a fatal outcome. -/
def HasReportedFatal (w : Worker) : Prop := ∃ o ∈ w.done, o.fatal?.isSome = true

/-- A worker that reported a fatal outcome goes on having reported it. -/
theorem HasReportedFatal.step {sees : Bool} {w : Worker} (h : w.HasReportedFatal) :
    (w.step sees).1.HasReportedFatal := by
  obtain ⟨o, ho, hfatal⟩ := h
  refine ⟨o, ?_, hfatal⟩
  obtain ⟨-, hstep⟩ | ⟨-, -, hstep⟩ | ⟨_, -, -, hstep⟩ | ⟨_, _, -, -, -, -, hstep⟩ |
    ⟨_, _, -, -, -, -, hstep⟩ := step_cases sees w <;> rw [hstep] <;> simp [ho]

/-- A step that aborts the run reported a fatal outcome. -/
theorem hasReportedFatal_of_step {sees : Bool} {w : Worker} (h : (w.step sees).2 = true) :
    (w.step sees).1.HasReportedFatal := by
  obtain ⟨-, hstep⟩ | ⟨-, -, hstep⟩ | ⟨o, -, -, hstep⟩ | ⟨_, _, -, -, -, -, hstep⟩ |
    ⟨_, _, -, -, -, -, hstep⟩ := step_cases sees w <;> rw [hstep] at h ⊢
  case inr.inr.inl => exact ⟨o, by simp, h⟩
  all_goals cases h

/-! ## What a finished worker gives back -/

/-- A worker that stopped gives back the fault of that. -/
theorem outcomes_of_crashed {w : Worker} (h : w.crashed = true) :
    w.outcomes = [.failed Outcome.crashFault] := if_pos h

/-- A worker that did not stop gives back what it reported. -/
theorem outcomes_of_not_crashed {w : Worker} (h : w.crashed = false) : w.outcomes = w.done :=
  if_neg (by simp [h])

/-- A finished worker that did not stop early has reported its whole chunk. -/
theorem Follows.forall₂_outcomes {aborted : Bool} {chunk : List Outcome} {w : Worker}
    (h : Follows aborted chunk w) (hfinished : w.isFinished = true) (hcrashed : w.crashed = false) :
    List.Forall₂ (Reported aborted) chunk w.outcomes := by
  obtain ⟨seen, hchunk, hdone⟩ := h.handled hcrashed
  rw [isFinished, hcrashed, Bool.false_or, Bool.and_eq_true, List.isEmpty_iff,
    Option.isNone_iff_eq_none] at hfinished
  rw [hfinished.1, hfinished.2, Option.toList_none, List.append_nil, List.append_nil] at hchunk
  rw [outcomes_of_not_crashed hcrashed, hchunk]
  exact hdone

/-- A fatal outcome that was reported is given back, or the fault of a worker that stopped is. -/
theorem HasReportedFatal.outcomes {w : Worker} (h : w.HasReportedFatal) :
    ∃ o ∈ w.outcomes, o.fatal?.isSome = true := by
  cases hcrashed : w.crashed with
  | true =>
    rw [outcomes_of_crashed hcrashed]
    exact ⟨_, List.mem_singleton_self _, by rw [fatal?_failed_crashFault]; rfl⟩
  | false =>
    rw [outcomes_of_not_crashed hcrashed]
    exact h

end Worker

/-! ## Outcomes that are reported -/

/-- A reported outcome is one of the chunk, or none. -/
theorem mem_or_eq_nothing_of_reported {aborted : Bool} {os reported : List Outcome}
    (h : List.Forall₂ (Worker.Reported aborted) os reported) {o : Outcome} (ho : o ∈ reported) :
    o ∈ os ∨ o = .nothing := by
  induction h with
  | nil => cases ho
  | cons hab _ ih =>
    obtain rfl | ho := List.mem_cons.mp ho
    · obtain rfl | ⟨-, rfl⟩ := hab
      · exact .inl List.mem_cons_self
      · exact .inr rfl
    · exact (ih ho).imp (List.mem_cons_of_mem _) id

/-- In a run that is not aborted every outcome is reported as it is. -/
theorem eq_of_reported {os reported : List Outcome}
    (h : List.Forall₂ (Worker.Reported false) os reported) : reported = os := by
  induction h with
  | nil => rfl
  | cons hab _ ih =>
    obtain rfl | ⟨hfalse, -⟩ := hab
    · rw [ih]
    · cases hfalse

/-- A fatal outcome that a worker gives back stands for a fatal outcome of its chunk. -/
theorem Worker.Follows.exists_fatal {aborted : Bool} {chunk : List Outcome} {w : Worker}
    (h : w.Follows aborted chunk) (hfinished : w.isFinished = true) {o : Outcome} {fault : Fault}
    (ho : o ∈ w.outcomes) (hfatal : o.fatal? = some fault) :
    ∃ o' ∈ chunk, o'.fatal? = some fault := by
  cases hcrashed : w.crashed with
  | true =>
    rw [outcomes_of_crashed hcrashed, List.mem_singleton] at ho
    rw [ho, fatal?_failed_crashFault] at hfatal
    exact ⟨.crashed, h.crashed hcrashed, hfatal⟩
  | false =>
    obtain ho | rfl := mem_or_eq_nothing_of_reported (h.forall₂_outcomes hfinished hcrashed) ho
    · exact ⟨o, ho, hfatal⟩
    · cases hfatal

/-- When the run is not aborted, a worker gives back a fatal outcome for one of its chunk, and the
chunk itself when there is none. -/
theorem Worker.Follows.not_aborted {chunk : List Outcome} {w : Worker}
    (h : w.Follows false chunk) (hfinished : w.isFinished = true) :
    ((∃ o ∈ chunk, o.fatal?.isSome = true) → ∃ o ∈ w.outcomes, o.fatal?.isSome = true) ∧
      ((∀ o ∈ chunk, o.fatal? = none) → w.outcomes = chunk) := by
  cases hcrashed : w.crashed with
  | true =>
    rw [outcomes_of_crashed hcrashed]
    refine ⟨fun _ => ⟨_, List.mem_singleton_self _, by rw [fatal?_failed_crashFault]; rfl⟩, ?_⟩
    intro hnone
    cases hnone _ (h.crashed hcrashed)
  | false =>
    rw [eq_of_reported (h.forall₂_outcomes hfinished hcrashed)]
    exact ⟨id, fun _ => rfl⟩

/-! ## Runs -/

namespace Workers

/-- The workers of a run are on their way through their chunks, and it is aborted only when one of
them reported a fatal outcome. -/
structure Follows (parts : List (List Outcome)) (r : Workers) : Prop where
  /-- Each worker is on its way. -/
  workers : List.Forall₂ (Worker.Follows r.aborted) parts r.workers
  /-- Some worker aborted the run. -/
  aborted : r.aborted = true → ∃ w ∈ r.workers, w.HasReportedFatal

/-- At the start the workers are on their way. -/
theorem follows_ofChunks (parts : List (List Outcome)) : Follows parts (ofChunks parts) := by
  refine ⟨?_, fun hfalse => Bool.noConfusion hfalse⟩
  rw [ofChunks, List.forall₂_map_right_iff, List.forall₂_same]
  exact fun chunk _ => ⟨fun hfalse => Bool.noConfusion hfalse, fun _ => ⟨[], rfl, .nil⟩⟩

/-- A turn of no worker changes nothing. -/
theorem step_of_getElem?_eq_none {r : Workers} {turn : Turn}
    (h : r.workers[turn.worker]? = none) : r.step turn = r := by
  rw [step, h]

/-- A turn is a step of its worker, which may abort the run. -/
theorem step_of_getElem?_eq_some {r : Workers} {turn : Turn} {w : Worker}
    (h : r.workers[turn.worker]? = some w) :
    r.step turn =
      { workers := r.workers.set turn.worker (w.step (r.aborted && !turn.late)).1
        aborted := r.aborted || (w.step (r.aborted && !turn.late)).2 } := by
  rw [step, h]

/-- A turn keeps the workers on their way. -/
theorem Follows.step {parts : List (List Outcome)} {r : Workers} (h : Follows parts r)
    (turn : Turn) : Follows parts (r.step turn) := by
  cases hw : r.workers[turn.worker]? with
  | none =>
    rw [step_of_getElem?_eq_none hw]
    exact h
  | some w =>
    rw [step_of_getElem?_eq_some hw]
    have hsees : (r.aborted && !turn.late) = true → r.aborted = true := fun hs =>
      (Bool.and_eq_true_iff.mp hs).1
    constructor
    · refine (forall₂_set h.workers hw fun chunk hchunk => hchunk.step hsees).imp ?_
      exact fun _ _ hfollows => hfollows.mono _
    · intro haborted
      have hlt : turn.worker < r.workers.length := (List.getElem?_eq_some_iff.mp hw).1
      obtain haborted | haborts := Bool.or_eq_true_iff.mp haborted
      · obtain ⟨v, hv, hfatal⟩ := h.aborted haborted
        obtain ⟨i, hi, rfl⟩ := List.mem_iff_getElem.mp hv
        -- the worker that reported it is another one, or it still has reported it
        by_cases hiw : turn.worker = i
        · subst hiw
          rw [List.getElem?_eq_getElem hi, Option.some.injEq] at hw
          exact ⟨_, List.mem_set hlt _, hw ▸ hfatal.step⟩
        · refine ⟨_, List.mem_iff_getElem.mpr ⟨i, by simpa using hi, rfl⟩, ?_⟩
          rw [List.getElem_set_ne hiw]
          exact hfatal
      · exact ⟨_, List.mem_set hlt _, Worker.hasReportedFatal_of_step haborts⟩

/-- The turns of a schedule keep the workers on their way. -/
theorem Follows.run {parts : List (List Outcome)} {r : Workers} (h : Follows parts r)
    (schedule : List Turn) : Follows parts (r.run schedule) := by
  induction schedule generalizing r with
  | nil => exact h
  | cons turn schedule ih => exact ih (h.step turn)

/-- A fatal outcome that a finished run gives back is that of a requested file. -/
theorem Follows.exists_fatal {parts : List (List Outcome)} {r : Workers} (h : Follows parts r)
    (hfinished : r.isFinished = true) {o : Outcome} {fault : Fault} (ho : o ∈ r.outcomes)
    (hfatal : o.fatal? = some fault) : ∃ o' ∈ parts.flatten, o'.fatal? = some fault := by
  obtain ⟨w, hw, ho⟩ := List.mem_flatMap.mp ho
  obtain ⟨chunk, hchunk, hfollows⟩ := exists_left_of_forall₂ h.workers w hw
  obtain ⟨o', ho', hfatal'⟩ :=
    hfollows.exists_fatal (List.all_eq_true.mp hfinished w hw) ho hfatal
  exact ⟨o', List.mem_flatten_of_mem hchunk ho', hfatal'⟩

/-- When all fatal outcomes of the requested files report one fault, a finished run gives back
outcomes with the response that those of the files have in order. -/
theorem Follows.expected_outcomes {parts : List (List Outcome)} {r : Workers} (h : Follows parts r)
    (hfinished : r.isFinished = true)
    (hone : ∀ o ∈ parts.flatten, ∀ p ∈ parts.flatten, ∀ fault other, o.fatal? = some fault →
      p.fatal? = some other → fault = other) :
    Response.expected r.outcomes = Response.expected parts.flatten := by
  have hreported : ∀ w ∈ r.workers, (∃ o ∈ w.outcomes, o.fatal?.isSome = true) →
      ∃ o ∈ r.outcomes, o.fatal?.isSome = true := by
    rintro w hw ⟨o, ho, hfatal⟩
    exact ⟨o, List.mem_flatMap_of_mem hw ho, hfatal⟩
  -- without a fatal outcome no run is aborted; with one, some worker gets to report such a one
  cases hfirst : parts.flatten.findSome? Outcome.fatal? with
  | none =>
    have hnone := List.findSome?_eq_none_iff.mp hfirst
    have haborted : r.aborted = false := by
      by_contra haborted
      rw [Bool.not_eq_false] at haborted
      obtain ⟨w, hw, hfatal⟩ := h.aborted haborted
      obtain ⟨o, ho, hfatal⟩ := hreported w hw hfatal.outcomes
      obtain ⟨fault, hfatal⟩ := Option.isSome_iff_exists.mp hfatal
      obtain ⟨o', ho', hfatal'⟩ := h.exists_fatal hfinished ho hfatal
      rw [hnone o' ho'] at hfatal'
      cases hfatal'
    have hworkers := h.workers
    rw [haborted] at hworkers
    have hall : r.outcomes = parts.flatten := by
      refine flatMap_eq_flatten_of_forall₂ hworkers fun chunk hchunk w hw hfollows => ?_
      refine (hfollows.not_aborted (List.all_eq_true.mp hfinished w hw)).2 fun o ho => ?_
      exact hnone o (List.mem_flatten_of_mem hchunk ho)
    rw [hall]
  | some fault =>
    obtain ⟨o, ho, hfatal⟩ := List.exists_of_findSome?_eq_some hfirst
    have hex : ∃ p ∈ r.outcomes, p.fatal?.isSome = true := by
      cases haborted : r.aborted with
      | true =>
        obtain ⟨w, hw, hfatal⟩ := h.aborted haborted
        exact hreported w hw hfatal.outcomes
      | false =>
        obtain ⟨chunk, hchunk, ho⟩ := List.mem_flatten.mp ho
        obtain ⟨w, hw, hfollows⟩ := exists_right_of_forall₂ h.workers chunk hchunk
        rw [haborted] at hfollows
        exact hreported w hw ((hfollows.not_aborted (List.all_eq_true.mp hfinished w hw)).1
          ⟨o, ho, by rw [hfatal]; rfl⟩)
    have hfirst' : (r.outcomes.findSome? Outcome.fatal?).isSome = true := by
      rw [List.findSome?_isSome_iff]
      exact hex
    obtain ⟨other, hother⟩ := Option.isSome_iff_exists.mp hfirst'
    obtain ⟨p, hp, hpfatal⟩ := List.exists_of_findSome?_eq_some hother
    obtain ⟨o', ho', hfatal'⟩ := h.exists_fatal hfinished hp hpfatal
    obtain rfl := hone o ho o' ho' fault other hfatal hfatal'
    rw [Response.expected, Response.expected, hfirst, hother]

end Workers

/-! ## Progress -/

/-- The number of steps that a worker has left at most. -/
def Worker.left (w : Worker) : Nat :=
  if w.crashed then 0 else 2 * w.todo.length + w.current.toList.length

/-- A worker without steps left is finished. -/
theorem Worker.isFinished_of_left {w : Worker} (h : w.left = 0) : w.isFinished = true := by
  obtain ⟨todo, current, done, crashed⟩ := w
  cases crashed with
  | true => rfl
  | false =>
    simp only [left, Bool.false_eq_true, if_false] at h
    have htodo : todo = [] := List.length_eq_zero_iff.mp (by omega)
    have hcurrent : current = none := by
      cases current with
      | none => rfl
      | some o => simp at h
    rw [isFinished, htodo, hcurrent]
    rfl

/-- A step leaves one step less, if any was left. -/
theorem Worker.left_step (sees : Bool) (w : Worker) : (w.step sees).1.left ≤ w.left - 1 := by
  obtain ⟨hfinished, hstep⟩ | ⟨hcrashed, hcurrent, hstep⟩ | ⟨o, hcrashed, hcurrent, hstep⟩ |
    ⟨o, os, hcrashed, hcurrent, htodo, -, hstep⟩ |
    ⟨o, os, hcrashed, hcurrent, htodo, -, hstep⟩ := step_cases sees w
  · -- a finished worker has nothing left
    rw [hstep]
    obtain ⟨todo, current, done, crashed⟩ := w
    cases crashed with
    | true => exact Nat.zero_le _
    | false =>
      rw [isFinished, Bool.false_or, Bool.and_eq_true, List.isEmpty_iff,
        Option.isNone_iff_eq_none] at hfinished
      obtain ⟨rfl, rfl⟩ := hfinished
      exact Nat.le_refl _
  · rw [hstep]
    exact Nat.zero_le _
  · rw [hstep, left, left, hcrashed, hcurrent]
    simp
  · rw [hstep, left, left, hcrashed, hcurrent, htodo]
    simp only [Bool.false_eq_true, if_false, List.length_cons]
    omega
  · -- an outcome counts twice before it is taken in hand, and once after
    rw [hstep, left, left, hcrashed, hcurrent, htodo]
    simp only [Bool.false_eq_true, if_false, List.length_cons, Option.toList_some, Option.toList_none,
      List.length_nil]
    omega

/-- The number of turns of a worker. -/
def turns (position : Nat) (schedule : List Turn) : Nat :=
  schedule.countP fun turn => turn.worker == position

namespace Workers

/-- A turn keeps the number of workers. -/
theorem length_step (r : Workers) (turn : Turn) : (r.step turn).workers.length = r.workers.length := by
  cases hw : r.workers[turn.worker]? with
  | none => rw [step_of_getElem?_eq_none hw]
  | some w =>
    rw [step_of_getElem?_eq_some hw]
    exact List.length_set

/-- A schedule keeps the number of workers. -/
theorem length_run (r : Workers) (schedule : List Turn) :
    (r.run schedule).workers.length = r.workers.length := by
  induction schedule generalizing r with
  | nil => rfl
  | cons turn schedule ih => exact (ih (r.step turn)).trans (length_step r turn)

/-- Every turn of a worker brings it one step further, and the turns of the others do not concern
it. -/
theorem left_run (schedule : List Turn) {r : Workers} {position : Nat} {w : Worker}
    (hw : r.workers[position]? = some w) :
    ∃ w', (r.run schedule).workers[position]? = some w' ∧
      w'.left ≤ w.left - turns position schedule := by
  induction schedule generalizing r w with
  | nil => exact ⟨w, hw, Nat.le_refl _⟩
  | cons turn schedule ih =>
    have hlt : position < r.workers.length := (List.getElem?_eq_some_iff.mp hw).1
    -- only the turns of this worker count, and those of the others leave it as it is
    by_cases hturn : turn.worker = position
    · subst hturn
      have hstep : (r.step turn).workers[turn.worker]? =
          some (w.step (r.aborted && !turn.late)).1 := by
        rw [step_of_getElem?_eq_some hw]
        exact List.getElem?_set_self hlt
      obtain ⟨w', hw', hleft⟩ := ih hstep
      refine ⟨w', hw', ?_⟩
      have hone := w.left_step (r.aborted && !turn.late)
      rw [turns] at hleft
      rw [turns, List.countP_cons_of_pos (by simp)]
      omega
    · have hstep : (r.step turn).workers[position]? = some w := by
        cases hother : r.workers[turn.worker]? with
        | none => rw [step_of_getElem?_eq_none hother, hw]
        | some v =>
          rw [step_of_getElem?_eq_some hother]
          exact (List.getElem?_set_ne hturn).trans hw
      obtain ⟨w', hw', hleft⟩ := ih hstep
      refine ⟨w', hw', ?_⟩
      rw [turns] at hleft
      rw [turns, List.countP_cons_of_neg (by simpa using hturn)]
      exact hleft

/-- A run is finished once every worker has had enough turns for its chunk. -/
theorem isFinished_of_turns {parts : List (List Outcome)} {schedule : List Turn}
    (h : ∀ (position : Nat) (chunk : List Outcome), parts[position]? = some chunk →
      2 * chunk.length ≤ turns position schedule) :
    ((ofChunks parts).run schedule).isFinished = true := by
  rw [isFinished, List.all_eq_true]
  intro w hw
  obtain ⟨position, hposition, rfl⟩ := List.mem_iff_getElem.mp hw
  have hlt : position < parts.length := by
    rw [length_run] at hposition
    simpa [ofChunks] using hposition
  have hstart : (ofChunks parts).workers[position]? = some { todo := parts[position] } := by
    rw [ofChunks, List.getElem?_map, List.getElem?_eq_getElem hlt]
    rfl
  -- a worker has two steps of work for each file, and every turn takes one off
  obtain ⟨w', hw', hleft⟩ := left_run schedule hstart
  rw [List.getElem?_eq_getElem hposition, Option.some.injEq] at hw'
  have henough := h position parts[position] (List.getElem?_eq_getElem hlt)
  have hwork : Worker.left { todo := parts[position] } = 2 * parts[position].length := rfl
  refine Worker.isFinished_of_left ?_
  rw [hw']
  omega

end Workers

/-! ## Chunks -/

/-- The chunks are the list again, when the fuel is enough. -/
theorem flatten_chunks {α : Type} {size : Nat} (hsize : 0 < size) (fuel : Nat) (as : List α)
    (h : as.length ≤ fuel) : (chunks size fuel as).flatten = as := by
  induction fuel generalizing as with
  | zero =>
    rw [List.length_eq_zero_iff.mp (Nat.le_zero.mp h)]
    rfl
  | succ fuel ih =>
    cases as with
    | nil => rfl
    | cons a as =>
      have hdrop : ((a :: as).drop size).length ≤ fuel := by
        rw [List.length_drop]
        rw [List.length_cons] at h ⊢
        omega
      rw [chunks, List.flatten_cons, ih _ hdrop, List.take_append_drop]

/-- No chunk is longer than the chunk size. -/
theorem length_le_of_mem_chunks {α : Type} {size fuel : Nat} {as part : List α}
    (h : part ∈ chunks size fuel as) : part.length ≤ size := by
  induction fuel generalizing as with
  | zero => cases h
  | succ fuel ih =>
    cases as with
    | nil => cases h
    | cons a as =>
      rw [chunks, List.mem_cons] at h
      obtain rfl | h := h
      · exact List.length_take_le size (a :: as)
      · exact ih h

/-- A list that is no longer than the chunk size is one chunk. -/
theorem length_chunks_le_one {α : Type} {size fuel : Nat} {as : List α} (h : as.length ≤ size) :
    (chunks size fuel as).length ≤ 1 := by
  cases fuel with
  | zero => exact Nat.zero_le _
  | succ fuel =>
    cases as with
    | nil => exact Nat.zero_le _
    | cons a as =>
      rw [chunks, List.drop_eq_nil_of_le h, List.length_cons]
      cases fuel <;> exact Nat.le_refl _

/-- Chunks are not empty. -/
theorem chunkSize_pos (files workers : Nat) : 0 < chunkSize files workers :=
  Nat.lt_of_lt_of_le Nat.zero_lt_one (Nat.le_max_left _ _)

/-- The chunks of the workers are the outcomes in order. -/
theorem flatten_start (workers : Nat) (outcomes : List Outcome) :
    (chunks (chunkSize outcomes.length workers) outcomes.length outcomes).flatten = outcomes :=
  flatten_chunks (chunkSize_pos _ _) _ _ (Nat.le_refl _)

/-! ## Main statement -/

/-- Of elements of a kind that occurs once, any two are equal. -/
theorem eq_of_countP_le_one {α : Type} {p : α → Bool} {as : List α} (h : as.countP p ≤ 1) {a b : α}
    (ha : a ∈ as) (hb : b ∈ as) (hpa : p a = true) (hpb : p b = true) : a = b := by
  rw [List.countP_eq_length_filter] at h
  have ha' : a ∈ as.filter p := List.mem_filter.mpr ⟨ha, hpa⟩
  have hb' : b ∈ as.filter p := List.mem_filter.mpr ⟨hb, hpb⟩
  obtain ⟨c, hc⟩ := List.length_eq_one_iff.mp
    (Nat.le_antisymm h (List.length_pos_of_mem ha'))
  rw [hc, List.mem_singleton] at ha' hb'
  rw [ha', hb']

/-- However the outcomes are cut into chunks and whatever turns the workers take, the outcomes that
a finished run gives back make the response that those of the files make in order. -/
theorem ofOutcomes_run_eq_expected {parts : List (List Outcome)}
    (hone : parts.flatten.countP (·.fatal?.isSome) ≤ 1) {schedule : List Turn}
    (hfinished : ((Workers.ofChunks parts).run schedule).isFinished = true) :
    Response.ofOutcomes ((Workers.ofChunks parts).run schedule).outcomes =
      Response.expected parts.flatten := by
  rw [Response.ofOutcomes_eq_expected]
  refine ((Workers.follows_ofChunks parts).run schedule).expected_outcomes hfinished ?_
  intro o ho p hp fault other hfault hother
  obtain rfl := eq_of_countP_le_one hone ho hp (by rw [hfault]; rfl) (by rw [hother]; rfl)
  rw [hfault] at hother
  exact Option.some.inj hother

/-- One worker finishes with two turns for each file. -/
theorem isFinished_soloSchedule (outcomes : List Outcome) :
    ((Workers.start 1 outcomes).run (soloSchedule outcomes.length)).isFinished = true := by
  refine Workers.isFinished_of_turns fun position chunk hchunk => ?_
  have hsize : outcomes.length ≤ chunkSize outcomes.length 1 := by
    rw [chunkSize]
    have hused : max 1 (min 1 outcomes.length) = 1 := by omega
    rw [hused, Nat.div_one]
    omega
  -- one worker has all files in its one chunk
  have hlength : (chunks (chunkSize outcomes.length 1) outcomes.length outcomes).length ≤ 1 :=
    length_chunks_le_one hsize
  have hposition : position = 0 := by
    have hlt := (List.getElem?_eq_some_iff.mp hchunk).1
    omega
  have hmem := List.mem_of_getElem? hchunk
  have hle : chunk.length ≤ outcomes.length := by
    have hsub := (List.sublist_flatten_of_mem hmem).length_le
    rwa [flatten_start] at hsub
  rw [hposition, turns, soloSchedule, List.countP_replicate, if_pos (beq_self_eq_true 0)]
  exact Nat.mul_le_mul_left 2 hle

/-- A run refines going through the requested files one after the other. When at most one of their
outcomes is fatal, every number of workers and every order of their turns that lets them finish, also
when they are late to see that the run is aborted, ends with the response that the outcomes have in
the order of the request; and the workers do finish when each has two turns for each file of a chunk.
So does the one worker of the tools. -/
theorem respondWith_eq_expected (workers : Nat) (outcomes : List Outcome)
    (hone : outcomes.countP (·.fatal?.isSome) ≤ 1) :
    (∀ schedule, ((Workers.start workers outcomes).run schedule).isFinished = true →
      respondWith workers schedule outcomes = Response.expected outcomes) ∧
    (∀ schedule, (∀ position < (Workers.start workers outcomes).workers.length,
        2 * chunkSize outcomes.length workers ≤ turns position schedule) →
      ((Workers.start workers outcomes).run schedule).isFinished = true) ∧
    respond outcomes = Response.expected outcomes := by
  have hresponse : ∀ workers schedule,
      ((Workers.start workers outcomes).run schedule).isFinished = true →
      respondWith workers schedule outcomes = Response.expected outcomes := by
    intro workers schedule hfinished
    have hflatten := flatten_start workers outcomes
    have hexpected := ofOutcomes_run_eq_expected (by rwa [hflatten]) hfinished
    rw [hflatten] at hexpected
    exact hexpected
  refine ⟨hresponse workers, fun schedule hturns => ?_, ?_⟩
  · -- no chunk is longer than the chunk size
    refine Workers.isFinished_of_turns fun position chunk hchunk => ?_
    have hlt : position < (Workers.start workers outcomes).workers.length := by
      rw [Workers.start, Workers.ofChunks, List.length_map]
      exact (List.getElem?_eq_some_iff.mp hchunk).1
    have hle := length_le_of_mem_chunks (List.mem_of_getElem? hchunk)
    exact Nat.le_trans (Nat.mul_le_mul_left 2 hle) (hturns position hlt)
  · exact hresponse 1 _ (isFinished_soloSchedule outcomes)

/-- A worker that stops without a report ends the run of two workers, in which the other one does not
see it. -/
theorem respondWith_of_crash :
    [Outcome.made ⟨"a", "x"⟩, .nothing, .crashed].countP (·.fatal?.isSome) ≤ 1 ∧
      respondWith 2 [⟨1, false⟩, ⟨0, true⟩, ⟨1, false⟩, ⟨0, true⟩, ⟨0, true⟩, ⟨0, true⟩]
        [.made ⟨"a", "x"⟩, .nothing, .crashed] = .error Outcome.crashFault :=
  ⟨by decide, (respondWith_eq_expected 2 [.made ⟨"a", "x"⟩, .nothing, .crashed] (by decide)).1
    [⟨1, false⟩, ⟨0, true⟩, ⟨1, false⟩, ⟨0, true⟩, ⟨0, true⟩, ⟨0, true⟩] rfl⟩

end ProtoRest.Plugin
