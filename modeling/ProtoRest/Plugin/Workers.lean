import ProtoRest.Plugin.Outcome

/-! # Workers
The requested files are cut into chunks, one for each worker. A worker takes the files of its chunk
one after the other; before each it looks whether the run is aborted, and if so it skips the file.
A fatal fault aborts the run. A worker that stops without a report loses what it has done. A
schedule says which worker takes the next turn, and whether it is late to see that the run is
aborted; the outcomes are put together in the order of the chunks. -/

namespace ProtoRest.Plugin

/-- A worker. -/
structure Worker where
  /-- The outcomes of the files that it has not taken yet. -/
  todo : List Outcome
  /-- The outcome of the file that it is working on. -/
  current : Option Outcome := none
  /-- The outcomes that it has reported. -/
  done : List Outcome := []
  /-- Whether it stopped without a report. -/
  crashed : Bool := false
  deriving Repr

namespace Worker

/-- Whether a worker has nothing left to do. -/
def isFinished (w : Worker) : Bool := w.crashed || (w.todo.isEmpty && w.current.isNone)

/-- What a worker gives back. -/
def outcomes (w : Worker) : List Outcome :=
  if w.crashed then [.failed Outcome.crashFault] else w.done

/-- The next step of a worker, given whether it sees the run aborted, and whether the step aborts
the run. -/
def step (aborted : Bool) (w : Worker) : Worker × Bool :=
  if w.crashed then (w, false)
  else
    match w.current with
    | some .crashed => ({ w with current := none, crashed := true }, false)
    | some o => ({ w with current := none, done := w.done ++ [o] }, o.fatal?.isSome)
    | none =>
      match w.todo with
      | [] => (w, false)
      | o :: os =>
        if aborted then ({ w with todo := os, done := w.done ++ [.nothing] }, false)
        else ({ w with todo := os, current := some o }, false)

end Worker

/-- A turn of a worker. -/
structure Turn where
  /-- The position of the worker. -/
  worker : Nat
  /-- Whether it does not see yet that the run is aborted. -/
  late : Bool := false
  deriving Repr

/-- A run in progress. -/
structure Workers where
  /-- The workers in the order of their chunks. -/
  workers : List Worker
  /-- Whether the run is aborted. -/
  aborted : Bool := false
  deriving Repr

/-- Cuts a list into chunks of a size, as many as needed; the fuel bounds their number. -/
def chunks {α : Type} (size : Nat) : Nat → List α → List (List α)
  | 0, _ => []
  | _ + 1, [] => []
  | fuel + 1, a :: as =>
    (a :: as).take size :: chunks size fuel ((a :: as).drop size)

/-- The size of the chunks for a number of files and workers: no worker gets more than it must. -/
def chunkSize (files workers : Nat) : Nat :=
  let used := max 1 (min workers files)
  max 1 ((files + used - 1) / used)

namespace Workers

/-- The start of a run with one worker for each chunk. -/
def ofChunks (parts : List (List Outcome)) : Workers where
  workers := parts.map fun todo => { todo }

/-- The start of a run with a number of workers. -/
def start (count : Nat) (outcomes : List Outcome) : Workers :=
  ofChunks (chunks (chunkSize outcomes.length count) outcomes.length outcomes)

/-- The run after a turn. -/
def step (r : Workers) (turn : Turn) : Workers :=
  match r.workers[turn.worker]? with
  | none => r
  | some w =>
    -- a late worker does not see yet what another one has found
    let (w, aborts) := w.step (r.aborted && !turn.late)
    { workers := r.workers.set turn.worker w, aborted := r.aborted || aborts }

/-- The run after the turns of a schedule. -/
def run (r : Workers) (schedule : List Turn) : Workers := schedule.foldl step r

/-- Whether all workers have nothing left to do. -/
def isFinished (r : Workers) : Bool := r.workers.all (·.isFinished)

/-- What the workers give back, in the order of the chunks. -/
def outcomes (r : Workers) : List Outcome := r.workers.flatMap (·.outcomes)

end Workers

/-- The schedule in which one worker does all the work. -/
def soloSchedule (files : Nat) : List Turn := List.replicate (2 * files) { worker := 0 }

/-- The response to the outcomes of files that a number of workers handle on a schedule. -/
def respondWith (workers : Nat) (schedule : List Turn) (outcomes : List Outcome) :
    Except Fault Response :=
  Response.ofOutcomes ((Workers.start workers outcomes).run schedule).outcomes

/-- The response to the outcomes of files that one worker handles. -/
def respond (outcomes : List Outcome) : Except Fault Response :=
  respondWith 1 (soloSchedule outcomes.length) outcomes

end ProtoRest.Plugin
