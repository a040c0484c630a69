import PanelBoard.Poll.Response

/-!
# Log events

The events that loops and the display report, and the line that each is written
as: level, message and fields.
-/

namespace PanelBoard.Log

/-- Severity, from the least to the greatest. -/
inductive Level where
  | trace
  | debug
  | info
  | warn
  | error
  deriving Repr, DecidableEq

/-- The name of a level at the front of a line. -/
def Level.label : Level → String
  | .trace => "TRACE"
  | .debug => "DEBUG"
  | .info => "INFO"
  | .warn => "WARN"
  | .error => "ERROR"

/-- One event of a board. -/
inductive Event where
  | notComplete (state : Poll.ReadyState)
  | unregisteredRegion (id : String)
  | regionUpdated (bytes : Nat)
  | failureTolerated (status : UInt16)
  | failureShown (status : UInt16)
  | loopStarted (target url : String) (refresh : Nat)
  deriving Repr, DecidableEq

/-- The severity of an event. -/
def Event.level : Event → Level
  | .notComplete _ => .trace
  | .unregisteredRegion _ => .debug
  | .regionUpdated _ => .debug
  | .failureTolerated _ => .info
  | .failureShown _ => .warn
  | .loopStarted .. => .info

/-- Message and fields of an event. -/
def Event.text : Event → String
  | .notComplete state => "Request not complete yet ready_state=" ++ state.label
  | .unregisteredRegion id => "Writing to unregistered region region=" ++ id
  | .regionUpdated bytes => "Region updated bytes=" ++ toString bytes
  | .failureTolerated status => "Poll failed; tolerating once status=" ++ toString status.toNat
  | .failureShown status => "Poll failed; showing failure message status=" ++ toString status.toNat
  | .loopStarted target url refresh =>
    "Starting poll loop target_id=" ++ target ++ " url=" ++ url ++ " refresh_ms=" ++
      toString refresh

/-- The line of an event. -/
def Event.line (event : Event) : String :=
  event.level.label ++ " " ++ event.text

/-- The filter that a configured level stands for: it covers the board and its
HTTP server. -/
def filterDirective (level : String) : String :=
  "panel_poller=" ++ level ++ ",tower_http=" ++ level

end PanelBoard.Log
