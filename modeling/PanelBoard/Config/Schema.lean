/-!
# Configuration

What can be configured, and the values of what is left out.
-/

namespace PanelBoard.Config

/-- Settings of the HTTP client: the URL that panel URLs are read against, and
what the client calls itself. -/
structure Client where
  baseUrl : String := "http://127.0.0.1:7657/"
  userAgent : String := "panel-poller/0.1.0"
  deriving Repr, DecidableEq

/-- The refresh interval of a panel that gives none, in milliseconds. -/
def defaultRefresh : Nat := 60000

/-- A region and the endpoint that feeds it. -/
structure Panel where
  target : String
  url : String
  refresh : Nat := defaultRefresh
  initialContent : Option String := none
  deriving Repr, DecidableEq

/-- Settings of the dashboard. -/
structure Dashboard where
  enabled : Bool := true
  bindAddress : String := "127.0.0.1:7658"
  title : String := "Console"
  deriving Repr, DecidableEq

/-- Settings of log and metrics. -/
structure Observability where
  logLevel : String := "info"
  metricsEnabled : Bool := false
  metricsAddress : String := "127.0.0.1:9090"
  deriving Repr, DecidableEq

end PanelBoard.Config

namespace PanelBoard

/-- A whole configuration. -/
structure Config where
  failureMessage : String := "<hr><b>Router is down</b>"
  client : Config.Client := {}
  panels : List Config.Panel := []
  dashboard : Config.Dashboard := {}
  observability : Config.Observability := {}
  deriving Repr, DecidableEq

end PanelBoard
