import ProtoRest.Plugin.Tool

/-! # Command line
The first argument names the tool; the others are its arguments. The request is read from the
standard input and the response is written to the standard output. -/

namespace ProtoRest

open ProtoRest.Plugin

/-- Reads bytes up to their end. -/
partial def readAll (input : IO.FS.Stream) (before : ByteArray) : IO ByteArray := do
  let part ← input.read 65536
  if part.isEmpty then return before else readAll input (before ++ part)

/-- Prints what a program prints and gives back the number that it ends with. -/
def finish (ending : Tool.Ending) : IO UInt32 := do
  let output ← IO.getStdout
  output.write ⟨ending.output.toArray⟩
  output.flush
  return ending.exit.toUInt32

/-- Runs the tool that the first argument names. -/
def runTool : List String → IO UInt32
  | [] => return 2
  | name :: arguments =>
    match Tool.ofName? name with
    | none => return 2
    | some tool =>
      let process := name :: arguments
      match tool.early process with
      | some ending => finish ending
      | none => do
        let input ← readAll (← IO.getStdin) .empty
        finish (tool.answer process input.data.toList)

end ProtoRest

/-- The command line of both tools. -/
def main (arguments : List String) : IO UInt32 := ProtoRest.runTool arguments
