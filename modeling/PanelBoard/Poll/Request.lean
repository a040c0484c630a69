import PanelBoard.Url.Parse

/-!
# Poll requests

What to poll, which region to update and how often. A request is only made from
a URL with the scheme `http` and a positive interval.
-/

namespace PanelBoard.Poll

/-- Why a poll loop cannot be set up. -/
inductive SetupError where
  | invalidUrl (url : String) (cause : Url.ParseError)
  | unsupportedScheme (url scheme : String)
  | zeroRefresh (target : String)
  deriving Repr, DecidableEq

/-- The wording of each cause. -/
def SetupError.message : SetupError → String
  | .invalidUrl url cause => "invalid poll url '" ++ url ++ "': " ++ cause.message
  | .unsupportedScheme url scheme =>
    "poll url '" ++ url ++ "' uses unsupported scheme '" ++ scheme ++ "' (only http)"
  | .zeroRefresh target =>
    "refresh interval for '" ++ target ++ "' must be greater than zero"

/-- Where to poll, which region to update, and how long to wait, in
milliseconds, between a completion and the next GET. -/
structure Request where
  url : Url
  target : String
  refresh : Nat
  refresh_pos : 0 < refresh

/-- Make a request from a reference, which is read against `base`. An interval
of zero is reported before anything about the URL. -/
def Request.create (base : Url) (reference target : String) (refresh : Nat) :
    Except SetupError Request :=
  if positive : 0 < refresh then
    match base.join reference with
    | .error cause => .error (.invalidUrl reference cause)
    | .ok url =>
      if url.schemeText = "http" then .ok { url, target, refresh, refresh_pos := positive }
      else .error (.unsupportedScheme url.text url.schemeText)
  else .error (.zeroRefresh target)

end PanelBoard.Poll
