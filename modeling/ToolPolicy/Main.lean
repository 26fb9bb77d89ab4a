import ToolPolicy.Command.Reach

/-!
# The program

Runs a command line on this machine. The places within reach are looked at once, before the run;
the run itself is `Run.outcome`. The answer goes to the standard output, and the log and errors
go to the standard error.
-/

namespace ToolPolicy

/-- A place as a name that the machine understands. -/
def machineName (place : List Text) : String := Text.toString (⟨1, place⟩ : Path).text

/-- What is at a place of this machine; what cannot be read counts as not there. -/
def nodeAt (place : List Text) : IO (Option FileSystem.Node) := do
  match ← (IO.FS.readBinFile (machineName place)).toBaseIO with
  | .ok bytes => return some (.file bytes.toList)
  | .error (.inappropriateType ..) => return some .directory
  | .error _ => return none

/-- A place together with what is at it. -/
def findNode (place : List Text) : IO (Option (List Text × FileSystem.Node)) := do
  return (← nodeAt place).map fun node => (place, node)

/-- The setting of this run before any file has been looked at. -/
def bareSetting (arguments : List Text) : IO Setting := do
  let directory := (Path.ofText (Text.ofString (toString (← IO.currentDir)))).parts
  let home := (← IO.getEnv "HOME").getD "/"
  let debug := (← IO.getEnv (Diagnostics.debugVariable).toString).map fun v =>
    (Diagnostics.debugVariable, Text.ofString v)
  let input ← if arguments.contains Command.Name.hook.label then (← IO.getStdin).readBinToEnd
    else pure .empty
  return ⟨.empty directory, .ofText (Text.ofString home), debug.toList, input.toList⟩

/-- The setting of this run with the files within reach. -/
def setting (arguments : List Text) : IO Setting := do
  let bare ← bareSetting arguments
  let nodes ← (Reach.places bare arguments).filterMapM findNode
  return { bare with files := .ofNodes bare.files.workingDirectory nodes }

/-- Writes a text as bytes. -/
def writeText (stream : IO.FS.Stream) (t : Text) : IO Unit := do
  stream.write ⟨(Utf8.encode t).toArray⟩
  stream.flush

/-- Writes a line of its own. -/
def writeLine (stream : IO.FS.Stream) (t : Text) : IO Unit := writeText stream (t ++ [10])

/-- The exit code of a run, after what has to be said about how it ended. -/
def report (stream : IO.FS.Stream) : Run.Verdict → IO UInt32
  | .exit code => return code.toUInt32
  | .usage e => do
    writeLine stream ("Error: " ++ e.message)
    return 2
  | .fault f => do
    writeLine stream (f.kind ++ ": " ++ f.message.getD [])
    return 1

end ToolPolicy

open ToolPolicy in
/-- Runs the command line. -/
def main (words : List String) : IO UInt32 := do
  let arguments := words.map Text.ofString
  let o := Run.outcome (← setting arguments) arguments
  let errors ← IO.getStderr
  for record in o.log do
    writeLine errors (Diagnostics.line record.text)
  writeText (← IO.getStdout) o.output
  report errors o.verdict
