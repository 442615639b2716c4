import DiagramBridge.CommandLine.Run
import DiagramBridge.Settings.Basic

/-!
# The program

Reads the settings, the arguments and one text, runs the command, and writes what comes out.
-/

namespace DiagramBridge

open CommandLine

/-- The values of the variables that the environment sets. -/
def readEnvironment : IO (List (String × String)) := do
  let values ← Settings.variableNames.mapM fun name => do
    return (← IO.getEnv name).map fun value => (name, value)
  return values.filterMap id

/-- The bindings of the first of some files that exists. -/
def readBindings : List String → IO (List EnvFile.Binding)
  | [] => return []
  | path :: paths => do
    let file := (← IO.currentDir) / path
    if ← file.pathExists then
      if ← file.isDir then return []
      else return EnvFile.bindings (← IO.FS.readFile file)
    else readBindings paths

def readSettings : IO (Settings × List SettingWarning) := do
  let environment ← readEnvironment
  let directory := (← IO.currentDir).components.filter (· != "")
  let places := (EnvFile.places directory).map fun names => "/" ++ String.intercalate "/" names
  return Settings.ofSources (fun name => environment.lookup name) (← readBindings places)

def readSource : Source → IO Found
  | .standardInput => return .ofInput (← (← IO.getStdin).readToEnd)
  | .file path => do
    let file := (← IO.currentDir) / path.text
    if ← file.pathExists then
      return .ofBytes (← IO.FS.readBinFile file).toList
    else return .missing

/-- Writes a file and the directories that it is to stand in. -/
def writeFile (w : Written) : IO Unit := do
  let file := (← IO.currentDir) / w.path.text
  match file.parent with
  | some directory => IO.FS.createDirAll directory
  | none => pure ()
  IO.FS.writeFile file w.text

/-- Shows and writes what a command leaves behind. -/
def finish (outcome : Outcome) : IO UInt32 := do
  IO.print outcome.output
  match outcome.file with
  | some w => writeFile w
  | none => pure ()
  outcome.log.forM IO.eprintln
  return UInt32.ofNat outcome.exitCode

/-- Runs the command that the arguments name. -/
def runProgram (args : List String) : IO UInt32 := do
  let (settings, warnings) ← readSettings
  warnings.forM fun w => IO.eprintln w.text
  match Command.parse settings args with
  | .error stop =>
    IO.eprintln "usage: interchange (to-mermaid|to-drawio|pages|validate|graph) --input FILE ..."
    return UInt32.ofNat stop.exitCode
  | .ok command => finish (command.run (← readSource command.source))

end DiagramBridge

/-- The program. -/
def main (args : List String) : IO UInt32 :=
  DiagramBridge.runProgram args
