import ProtoRest.Fault.Collector
import ProtoRest.Plugin.Response

/-! # Outcomes
What comes of one requested file, and the response to the outcomes of all. A fault that concerns the
whole run is the result instead of a response; other faults are shown together, next to the files
that could be generated. -/

namespace ProtoRest.Plugin

/-- What comes of one requested file. -/
inductive Outcome
  /-- Nothing is generated. -/
  | nothing
  /-- A file is generated. -/
  | made (file : OutputFile)
  /-- A fault was found. -/
  | failed (fault : Fault)
  /-- The work stopped without a report. -/
  | crashed
  deriving Repr

namespace Outcome

/-- The outcome of the work on a file. -/
def ofResult : Except Failure (Option OutputFile) → Outcome
  | .ok none => .nothing
  | .ok (some file) => .made file
  | .error (.fault fault) => .failed fault
  | .error .crash => .crashed

/-- The fault that is reported for work that stopped without a report. -/
def crashFault : Fault := .template "a generator worker panicked"

/-- The fault that ends the whole run, if the outcome does. -/
def fatal? : Outcome → Option Fault
  | .failed fault => if fault.isFatal then some fault else none
  | .crashed => some crashFault
  | .nothing | .made _ => none

/-- The generated file. -/
def file? : Outcome → Option OutputFile
  | .made file => some file
  | .nothing | .failed _ | .crashed => none

/-- The fault that concerns only the file. -/
def local? : Outcome → Option Fault
  | .failed fault => if fault.isFatal then none else some fault
  | .nothing | .made _ | .crashed => none

end Outcome

namespace Response

/-- Goes through outcomes, given the faults and the files of those before them. -/
def collect (faults : Fault.Collector) (files : List OutputFile) :
    List Outcome → Except Fault Response
  | [] => .ok ⟨faults.joined?.map (·.message), some supportedFeatures, files⟩
  | .nothing :: os => collect faults files os
  | .made file :: os => collect faults (files ++ [file]) os
  | .failed fault :: os =>
    if fault.isFatal then .error fault else collect (faults.add fault) files os
  | .crashed :: _ => .error Outcome.crashFault

/-- The response to outcomes in the order of the request. -/
def ofOutcomes (outcomes : List Outcome) : Except Fault Response := collect {} [] outcomes

/-- What a run gives: its first fatal fault, or else a response with every generated file and the
texts of all other faults, one per line. -/
def expected (outcomes : List Outcome) : Except Fault Response :=
  match outcomes.findSome? Outcome.fatal? with
  | some fault => .error fault
  | none =>
    let faults := outcomes.filterMap Outcome.local?
    .ok
      { error := if faults = [] then none else some ("\n".intercalate (faults.map (·.message)))
        features := some supportedFeatures
        files := outcomes.filterMap Outcome.file? }

end Response

end ProtoRest.Plugin
