import ProtoRest.Plugin.Request
import ProtoRest.Plugin.Workers
import ProtoRest.Schema.Load

/-! # Jobs
A request with the pool of its declarations. Every requested file has to be among them. `Job.file`
loads a file, and `Job.run` does some work on each requested file. -/

namespace ProtoRest.Plugin

open ProtoRest.Descriptor ProtoRest.Schema

/-- A request with its pool. -/
structure Job where
  /-- The request. -/
  request : Request
  /-- The pool of its declarations. -/
  pool : Pool
  deriving Repr

namespace Job

/-- Reads a request and builds its pool. -/
def read (bs : Wire.Bytes) : Except Failure Job := do
  let request ← (Request.read bs).mapError .fault
  let pool ← Pool.read request.declarations
  match request.files.find? fun name => (pool.file? name).isNone with
  | some name =>
    throw (.fault (.decode ("file to generate `" ++ name ++ "` is missing from the request")))
  | none => return { request, pool }

/-- The parameter, unless it is empty. -/
def parameter (j : Job) : Option String := j.request.parameter.filter (· ≠ "")

/-- The version of the compiler as it is shown. -/
def compilerVersion (j : Job) : Option String := j.request.version.map (·.text)

/-- Whether code is generated for a file. -/
def isRequested (j : Job) (name : String) : Bool := j.request.files.contains name

/-- Loads a file. -/
def file (j : Job) (name : String) : Except Failure File :=
  match j.pool.file? name with
  | none => .error (.fault (.decode ("unknown file `" ++ name ++ "`")))
  | some file => Loader.load ⟨j.pool, file⟩

/-- The outcome of some work on a requested file. -/
def outcome (j : Job) (work : File → Except Failure (Option OutputFile)) (name : String) :
    Outcome :=
  .ofResult (j.file name >>= work)

/-- Does some work on each requested file. -/
def run (j : Job) (work : File → Except Failure (Option OutputFile)) : Except Fault Response :=
  respond (j.request.files.map (j.outcome work))

end Job

end ProtoRest.Plugin
