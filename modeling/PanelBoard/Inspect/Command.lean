import PanelBoard.CommandLine.Arguments
import PanelBoard.CommandLine.Help

/-!
# The command line of the inspector

What can be asked of a running dashboard: its status, its regions, or the
content of one region.
-/

namespace PanelBoard.Inspect

open PanelBoard.CommandLine

/-- What to ask for. -/
inductive Query where
  | status
  | regions
  | region (id : String)
  deriving Repr, DecidableEq

/-- A query and the URL of the dashboard to ask. -/
structure Command where
  url : String
  query : Query
  deriving Repr, DecidableEq

/-- The dashboard that is asked if none is given. -/
def defaultUrl : String := "http://127.0.0.1:7658"

/-- The option that gives the URL of the dashboard. -/
def urlOption : ValueOption :=
  { long := "url".toList, short := some 'u' }

/-- Options, then a command. -/
def grammar : Grammar :=
  { options := [urlOption], commands := ["status", "regions", "region", "help"] }

/-! ## Help -/

/-- What each command does. -/
def commandRows : List (String × String) :=
  [("status", "Check dashboard status"),
    ("regions", "List every region with its update count"),
    ("region", "Print the raw content of one region"),
    ("help", "Print this message or the help of the given subcommand(s)")]

/-- The page about everything. -/
def mainHelp : HelpPage where
  about := "Inspect the regions served by a running panel-poller"
  usage := "panel-cli [OPTIONS] <COMMAND>"
  tables :=
    [⟨"Commands", commandRows⟩,
      ⟨"Options", [("-u, --url <URL>", "[default: " ++ defaultUrl ++ "]"), helpRow]⟩]

/-- The page about one command; none if there is no such command. -/
def commandHelp? (command : String) : Option HelpPage := do
  let about ← commandRows.lookup command
  let usage := "panel-cli " ++ command
  let options : HelpTable := ⟨"Options", [helpRow]⟩
  return match command with
    | "region" =>
      { about, usage := usage ++ " <ID>"
        tables := [⟨"Arguments", [("<ID>", "Region identifier")]⟩, options] }
    | "help" =>
      { about, usage := usage ++ " [COMMAND]..."
        tables := [⟨"Arguments", [("[COMMAND]...", "Print help for the subcommand(s)")]⟩] }
    | _ => { about, usage, tables := [options] }

/-- The page that `help` shows for the commands behind it. -/
def helpFor? : List String → Option HelpPage
  | [] => some mainHelp
  | [command] => commandHelp? command
  | _ => none

/-! ## Reading -/

/-- What a command line comes to. -/
inductive Parsed where
  | run (command : Command)
  | help (page : HelpPage)
  | misuse

/-- Settle the options in front of a command and put both together. -/
def finish (state : State) (query : Query) : Parsed :=
  match state.settle with
  | .error _ => .misuse
  | .ok settled => .run { url := (settled.value? urlOption.long).getD defaultUrl, query }

/-- Read the arguments behind a command. -/
def parseCommand (state : State) (command : String) (arguments : List String) : Parsed :=
  let grammar : Grammar := { positionals := if command = "region" then 1 else 0 }
  match grammar.parse arguments with
  | .error .help =>
    match commandHelp? command with
    | some page => .help page
    | none => .misuse
  | .error _ => .misuse
  | .ok read =>
    match command, read.positionals with
    | "status", [] => finish state .status
    | "regions", [] => finish state .regions
    | "region", [id] => finish state (.region id)
    | _, _ => .misuse

/-- Read a command line. -/
def parse (arguments : List String) : Parsed :=
  match grammar.read {} arguments with
  | .error .help => .help mainHelp
  | .error _ => .misuse
  | .ok state =>
    match state.command with
    | none => .misuse
    | some ("help", rest) =>
      match helpFor? rest with
      | some page => .help page
      | none => .misuse
    | some (command, rest) => parseCommand state command rest

end PanelBoard.Inspect
