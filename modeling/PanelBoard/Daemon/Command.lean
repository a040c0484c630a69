import PanelBoard.CommandLine.Arguments
import PanelBoard.CommandLine.Help
import PanelBoard.Dashboard.Page

/-!
# The command line of the daemon

A configuration file, and an address for the dashboard that takes precedence
over the configured one.
-/

namespace PanelBoard.Daemon

open PanelBoard.CommandLine

/-- What the daemon is started with. -/
structure Command where
  configPath : Option String := none
  dashboardAddress : Option String := none
  deriving Repr, DecidableEq

/-- The option that names the configuration file. -/
def configOption : ValueOption :=
  { long := "config".toList, short := some 'c', allowsEmpty := false }

/-- The option that gives the address of the dashboard. -/
def addressOption : ValueOption :=
  { long := "dashboard-addr".toList }

/-- Options only. -/
def grammar : Grammar :=
  { options := [configOption, addressOption], hasVersion := true }

/-- The help page. -/
def help : HelpPage where
  about := "Keep console panels refreshed from HTTP endpoints"
  usage := "panel-poller [OPTIONS]"
  tables :=
    [⟨"Options",
      [("-c, --config <CONFIG>", "Path to the TOML configuration file"),
        ("    --dashboard-addr <DASHBOARD_ADDR>", "Override the dashboard bind address"),
        helpRow,
        ("-V, --version", "Print version")]⟩]

/-- What is printed as the version. -/
def versionLine : String :=
  "panel-poller " ++ Dashboard.version ++ "\n"

/-- Read a command line. -/
def parse (arguments : List String) : Except Stop Command := do
  let state ← grammar.parse arguments
  return {
    configPath := state.value? configOption.long
    dashboardAddress := state.value? addressOption.long }

end PanelBoard.Daemon
