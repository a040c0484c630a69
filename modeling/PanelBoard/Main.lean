import PanelBoard.Daemon.Launch
import PanelBoard.Inspect.Run

/-!
# The programs

Command lines of the daemon, and of the inspector if the first word is
`inspect`. Files are read and texts are printed here, and nothing is decided.
There is no network behind these programs: every GET fails.
-/

namespace PanelBoard

/-- What stands at a path. -/
def readFile (path : String) : IO Config.File := do
  match ← (IO.FS.readBinFile path).toBaseIO with
  | .ok bytes => return .regular bytes.toList
  | .error (.noFileOrDirectory ..) => return .missing
  | .error _ => return .directory

/-- The file that a command line of the daemon names. -/
def readConfigFile (arguments : List String) : IO Config.File := do
  match Daemon.parse arguments with
  | .ok command =>
    match command.configPath with
    | some path => readFile path
    | none => return .missing
  | .error _ => return .missing

/-- What every loop hears of every GET where there is no network. -/
def unreachable : Nat → Poll.Transport := fun _ _ => [.opened, .networkError]

/-- Launch the daemon and print how that went. -/
def runDaemon (arguments : List String) : IO UInt32 := do
  let file ← readConfigFile arguments
  let launch := Daemon.launch (fun _ => file) unreachable arguments
  match launch with
  | .running session => session.logLines.forM IO.println
  | .printed text => IO.print text
  | .failed cause => IO.eprintln ("Error: " ++ cause.message)
  | .misused => IO.eprintln ("Usage: " ++ Daemon.help.usage)
  return launch.exitCode.toUInt32

/-- Run the inspector and print what it says. -/
def runInspector (arguments : List String) : IO UInt32 := do
  let result := Inspect.run (fun _ => none) arguments
  match result with
  | .done output errors => do
    IO.print output
    IO.eprint errors
  | .failed => IO.eprintln "Error: the dashboard did not answer"
  | .misused => IO.eprintln ("Usage: " ++ Inspect.mainHelp.usage)
  return result.exitCode.toUInt32

end PanelBoard

/-- Run the program that the first word asks for. -/
def main (arguments : List String) : IO UInt32 :=
  match arguments with
  | "inspect" :: rest => PanelBoard.runInspector rest
  | _ => PanelBoard.runDaemon arguments
