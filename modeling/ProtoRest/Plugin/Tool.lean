import ProtoRest.Code.Header
import ProtoRest.ErrorSet.Accessors
import ProtoRest.Plugin.Job
import ProtoRest.Route.Server
import ProtoRest.Route.Table
import ProtoRest.Setting.Settings

/-! # Tools
The two tools: one writes route bindings, the other error sets. `Tool.generate` answers a request,
and `Tool.respond` does so as a program: what makes an answer impossible becomes the answer. -/

namespace ProtoRest.Plugin

open ProtoRest.Schema ProtoRest.Setting

/-! ## Files -/

/-- The file of route bindings for a schema file, unless it binds no method. -/
def routesFile (settings : RouteSettings) (compilerVersion : Option String) (file : File) :
    Except Failure (Option OutputFile) := do
  let table ← (Route.Table.ofFile settings file).mapError .fault
  if table.isEmpty then return none
  let content ← table.render (Code.header routesCommand.name compilerVersion file.name)
  return some { name := file.stem ++ ".sphere.rs", content }

/-- The file of error sets for a schema file, unless it has none. -/
def errorsFile (compilerVersion : Option String) (file : File) :
    Except Failure (Option OutputFile) := do
  let table ← (ErrorSet.Table.ofFile file).mapError .fault
  if table.isEmpty then return none
  let content ← table.render (Code.header errorsCommand.name compilerVersion file.name)
  return some { name := file.stem ++ ".errors.rs", content }

/-! ## Tools -/

/-- A tool. -/
inductive Tool
  /-- It writes route bindings. -/
  | routes
  /-- It writes error sets. -/
  | errors
  deriving DecidableEq, Repr

namespace Tool

/-- The command of a tool. -/
def command : Tool → Command
  | routes => routesCommand
  | errors => errorsCommand

/-- The tool with a command of a name. -/
def ofName? (name : String) : Option Tool := [routes, errors].find? (·.command.name == name)

/-- What a tool does with a file, given the arguments of the process. -/
def work (tool : Tool) (arguments : List String) (job : Job) :
    Except Fault (File → Except Failure (Option OutputFile)) :=
  match tool with
  | routes =>
    (RouteSettings.ofSources arguments job.parameter).map fun settings =>
      routesFile settings job.compilerVersion
  | errors =>
    (checkErrorSources arguments job.parameter).map fun _ => errorsFile job.compilerVersion

/-- Answers a request, given the arguments of the process, the program's name first. -/
def generate (tool : Tool) (arguments : List String) (request : Wire.Bytes) :
    Except Failure Response := do
  let job ← Job.read request
  let work ← (tool.work arguments job).mapError .fault
  (job.run work).mapError .fault

/-- How a program ends. -/
structure Ending where
  /-- The number that it ends with. -/
  exit : Nat
  /-- What it prints. -/
  output : Wire.Bytes
  deriving DecidableEq, Repr

/-- The ending of a program that stops without a report. -/
def crashed : Ending := ⟨101, []⟩

/-- The ending of a program with a response. -/
def respond (response : Response) : Ending :=
  ⟨if response.error.isSome then 1 else 0, response.write⟩

/-- What the arguments of a process ask for before the input is read: the text to print for help or the
version, or nothing. Arguments that cannot be read end the process. -/
def early (tool : Tool) (process : List String) : Option Ending :=
  let c := tool.command
  match c.readProcess process with
  | .ok _ => none
  | .error .help => some ⟨0, Wire.bytesOfText (c.helpText (c.shownName process.head?))⟩
  | .error .version => some ⟨0, Wire.bytesOfText c.versionText⟩
  | .error _ => some ⟨2, []⟩

/-- The answer of a process to its input. -/
def answer (tool : Tool) (process : List String) (input : Wire.Bytes) : Ending :=
  match tool.generate process input with
  | .ok response => respond response
  | .error (.fault fault) => respond (.ofFault fault)
  | .error .crash => crashed

/-- A process of a tool, given its arguments, the program's name first, and its input. -/
def run (tool : Tool) (process : List String) (input : Wire.Bytes) : Ending :=
  (tool.early process).getD (tool.answer process input)

/-- The program of a tool, run under its own name. -/
def program (tool : Tool) (arguments : List String) (input : Wire.Bytes) : Ending :=
  tool.run (tool.command.name :: arguments) input

end Tool

end ProtoRest.Plugin
