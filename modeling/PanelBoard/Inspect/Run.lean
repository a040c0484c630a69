import PanelBoard.Dashboard.Router
import PanelBoard.Inspect.Command
import PanelBoard.Json.Parser
import PanelBoard.Url.Parse

/-!
# Running the inspector

A query becomes one GET, and the reply is printed: data in the pretty form with
its keys in order, the content of a region as it is. A refusal by the dashboard
is told and is no failure.
-/

namespace PanelBoard.Inspect

open PanelBoard.CommandLine PanelBoard.Dashboard

/-- What the network replies to a GET; none if nothing comes. -/
abbrev Network := Url → Option Reply

/-- How a run ended. What is written about a failed run is not laid down. -/
inductive Result where
  | done (output errors : String)
  | failed
  | misused
  deriving Repr, DecidableEq

/-- The exit code of a result. -/
def Result.exitCode : Result → Nat
  | .done .. => 0
  | .failed => 1
  | .misused => 2

/-- What a result prints to the standard output. -/
def Result.output : Result → String
  | .done output _ => output
  | _ => ""

/-- The path that a query asks for. -/
def Query.path : Query → String
  | .status => "/status"
  | .regions => "/regions"
  | .region id => "/regions/" ++ id

/-- A URL without the slashes at its end. -/
def trimSlashes (url : String) : String :=
  String.ofList (url.toList.reverse.dropWhile (· == '/')).reverse

/-- The URL that a command asks, as text. -/
def Command.urlText (command : Command) : String :=
  trimSlashes command.url ++ command.query.path

/-- A dashboard at an address, asked over a network where nobody else answers. -/
def siteNetwork (address : String) (site : Site) : Network := fun url =>
  match url.authority, Http.Uri.parse? url.text with
  | some authority, some target =>
    if url.schemeText = "http" ∧ String.ofList authority.renderHost = address then
      some (site.answer "GET" target)
    else none
  | _, _ => none

/-- Data in the pretty form, one line break behind it. -/
def showData (reply : Reply) : Result :=
  if reply.status = .ok then
    match Json.parse? reply.body with
    | some value => .done (value.normalize.pretty ++ "\n") ""
    | none => .failed
  else
    .done "" ("Error: dashboard returned status " ++ reply.status.label ++ "\nResponse: " ++
      reply.body ++ "\n")

/-- The content of a region, one line break behind it. The body is taken as it was carried,
with whatever character it begins. -/
def showRegion (id : String) (reply : Reply) : Result :=
  if reply.status = .ok then .done (reply.body ++ "\n") ""
  else
    .done "" ("Error: region '" ++ id ++ "' not available (status " ++ reply.status.label ++ ")\n")

/-- What a command prints of the reply. -/
def Query.present : Query → Reply → Result
  | .region id => showRegion id
  | _ => showData

/-- Run a command. Only a URL with a host can be asked. -/
def Command.run (network : Network) (command : Command) : Result :=
  match Url.parse command.urlText with
  | .error _ => .failed
  | .ok url =>
    if url.authority.isNone then .failed
    else
      match network url with
      | none => .failed
      | some reply => command.query.present reply

/-- Run a command line. -/
def run (network : Network) (arguments : List String) : Result :=
  match parse arguments with
  | .misuse => .misused
  | .help page => .done page.text ""
  | .run command => command.run network

end PanelBoard.Inspect
