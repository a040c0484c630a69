import PanelBoard.Config.Load
import PanelBoard.Daemon.Command
import PanelBoard.Log.Filter
import PanelBoard.Poll.Panels

/-!
# Launching the daemon

From a command line to a running board: read the configuration, let the command
line override it, start the panels, and open the dashboard. The first failure
ends the launch.
-/

namespace PanelBoard.Daemon

open PanelBoard.CommandLine PanelBoard.Text

/-- Why an address cannot be listened on. -/
inductive ListenError where
  | notAnAddress
  | unknownHost
  deriving Repr, DecidableEq

/-- The greatest port. -/
def maxPort : Nat := 65535

/-- Is a text a port? -/
def isPort (text : List Char) : Bool :=
  match numeral? 10 text with
  | some port => port ≤ maxPort
  | none => false

/-- The host names that are known without asking anybody. -/
def knownHosts : List String := ["localhost"]

/-- Check a text that says where to listen: a socket address, or a host name and
a port. -/
def checkListen (address : String) : Except ListenError Unit :=
  if (Net.SocketAddress.parse? address).isSome then .ok ()
  else
    match cutAtLast? (· == ':') address.toList with
    | none => .error .notAnAddress
    | some (host, port) =>
      if !isPort port then .error .notAnAddress
      else if knownHosts.contains (String.ofList host) then .ok ()
      else .error .unknownHost

/-- Why a launch failed. -/
inductive Failure where
  | load (cause : Config.LoadError)
  | setup (cause : Poll.SetupError)
  | listen (cause : ListenError)

/-- The wording of each cause. -/
def ListenError.message : ListenError → String
  | .notAnAddress => "not an address to listen on"
  | .unknownHost => "unknown host"

/-- The wording of each cause. -/
def Failure.message : Failure → String
  | .load cause => cause.message
  | .setup cause => cause.message
  | .listen cause => cause.message

/-- What becomes of the metrics exporter. -/
inductive Exporter where
  | off
  | listening (address : Net.SocketAddress)
  | unreadable (address : String)
  deriving Repr, DecidableEq

/-- The exporter that is asked for. With an address that cannot be read the
daemon runs without one. -/
def exporterOf (observability : Config.Observability) : Exporter :=
  if observability.metricsEnabled then
    match Net.SocketAddress.parse? observability.metricsAddress with
    | some address => .listening address
    | none => .unreadable observability.metricsAddress
  else .off

/-- A running daemon. -/
structure Session where
  config : Config
  hasConfigFile : Bool
  exporter : Exporter
  board : Poll.Board

/-- What a launch comes to. -/
inductive Launch where
  | running (session : Session)
  | printed (text : String)
  | failed (cause : Failure)
  | misused

/-- The exit code of a launch; a running daemon ends well. -/
def Launch.exitCode : Launch → Nat
  | .running _ => 0
  | .printed _ => 0
  | .failed _ => 1
  | .misused => 2

/-- Let the command line override a configuration. -/
def Command.override (command : Command) (config : Config) : Config :=
  match command.dashboardAddress with
  | none => config
  | some bindAddress => { config with dashboard := { config.dashboard with bindAddress } }

/-- The configuration of a command line. The override comes after the checks. -/
def Command.configuration (files : String → Config.File) (command : Command) :
    Except Failure Config :=
  match command.configPath with
  | none => .ok (command.override {})
  | some path =>
    match Config.load (files path) with
    | .error cause => .error (.load cause)
    | .ok config => .ok (command.override config)

/-- Start a board and open its dashboard. -/
def Command.start (files : String → Config.File) (network : Nat → Poll.Transport)
    (command : Command) : Except Failure Session := do
  let config ← command.configuration files
  let exporter := exporterOf config.observability
  let board ← (Poll.startConfigured network config).mapError .setup
  if config.dashboard.enabled then
    (checkListen config.dashboard.bindAddress).mapError .listen
  return { config, hasConfigFile := command.configPath.isSome, exporter, board }

/-- Launch a command line. -/
def launch (files : String → Config.File) (network : Nat → Poll.Transport)
    (arguments : List String) : Launch :=
  match parse arguments with
  | .error .help => .printed help.text
  | .error .version => .printed versionLine
  | .error .misuse => .misused
  | .ok command =>
    match command.start files network with
    | .error cause => .failed cause
    | .ok session => .running session

/-- Does the log of a session show a level? -/
def Session.shows (session : Session) (level : Log.Level) : Bool :=
  Log.isShown session.config.observability.logLevel level

/-- The lines of the log that a session shows. -/
def Session.logLines (session : Session) : List String :=
  (session.board.log.filter (session.shows ·.level)).map Log.Event.line

end PanelBoard.Daemon
