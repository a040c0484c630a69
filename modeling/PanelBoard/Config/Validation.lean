import PanelBoard.Config.Schema
import PanelBoard.Net.SocketAddress
import PanelBoard.Text.Blank
import PanelBoard.Url.Parse

/-!
# Validation

The problems of a configuration that is well formed but cannot work. All of
them are found, in the order base URL, panels, addresses; of each panel first
the target, then the URL, then the interval.
-/

namespace PanelBoard.Config

open PanelBoard.Text

/-- One problem of a configuration. -/
inductive Problem where
  | invalidBaseUrl (url : String)
  | emptyTarget (index : Nat)
  | duplicateTarget (target : String)
  | emptyUrl (target : String)
  | invalidUrl (target url : String)
  | unsupportedScheme (target url scheme : String)
  | zeroRefresh (target : String)
  | invalidAddress (field value : String)
  deriving Repr, DecidableEq

/-- A text between apostrophes. -/
def quote (text : String) : String :=
  "'" ++ text ++ "'"

/-- The wording of each problem. -/
def Problem.message : Problem → String
  | .invalidBaseUrl url => "client.base_url " ++ quote url ++ " is not an absolute URL"
  | .emptyTarget index => "panel #" ++ toString index ++ " has an empty target"
  | .duplicateTarget target =>
    "panel target " ++ quote target ++ " is defined more than once"
  | .emptyUrl target => "panel " ++ quote target ++ " has an empty url"
  | .invalidUrl target url =>
    "panel " ++ quote target ++ " url " ++ quote url ++ " cannot be resolved"
  | .unsupportedScheme target url scheme =>
    "panel " ++ quote target ++ " url " ++ quote url ++ " uses unsupported scheme " ++
      quote scheme ++ " (only http)"
  | .zeroRefresh target => "panel " ++ quote target ++ " refresh_ms must be greater than zero"
  | .invalidAddress field value =>
    field ++ " " ++ quote value ++ " is not a valid socket address"

/-- The problem of a panel's target, given the targets of the panels before it. -/
def targetProblems (index : Nat) (earlier : List String) (panel : Panel) : List Problem :=
  if isBlank panel.target then [.emptyTarget index]
  else if panel.target ∈ earlier then [.duplicateTarget panel.target]
  else []

/-- The problem of a panel's URL. Without a base, only a blank URL is one. -/
def urlProblems (base : Option Url) (panel : Panel) : List Problem :=
  if isBlank panel.url then [.emptyUrl panel.target]
  else
    match base with
    | none => []
    | some base =>
      match base.join panel.url with
      | .error _ => [.invalidUrl panel.target panel.url]
      | .ok url =>
        if url.schemeText = "http" then []
        else [.unsupportedScheme panel.target panel.url url.schemeText]

/-- The problem of a panel's interval. -/
def refreshProblems (panel : Panel) : List Problem :=
  if panel.refresh = 0 then [.zeroRefresh panel.target] else []

/-- All problems of one panel. -/
def panelProblems (base : Option Url) (index : Nat) (earlier : List String) (panel : Panel) :
    List Problem :=
  targetProblems index earlier panel ++ urlProblems base panel ++ refreshProblems panel

/-- The problems of the panels from `index` on; `earlier` holds the targets before. -/
def panelsProblems (base : Option Url) (index : Nat) (earlier : List String) :
    List Panel → List Problem
  | [] => []
  | panel :: rest =>
    panelProblems base index earlier panel ++
      panelsProblems base (index + 1) (panel.target :: earlier) rest

/-- The problem of an address that is in use. -/
def addressProblems (inUse : Bool) (field value : String) : List Problem :=
  if inUse && (Net.SocketAddress.parse? value).isNone then [.invalidAddress field value] else []

/-- The base URL, if it can be read. -/
def Client.base? (client : Client) : Option Url :=
  (Url.parse client.baseUrl).toOption

/-- The problem of the base URL. -/
def baseProblems (client : Client) : List Problem :=
  if client.base?.isNone then [.invalidBaseUrl client.baseUrl] else []

/-- All problems of a configuration; without any it is valid. -/
def problems (config : Config) : List Problem :=
  baseProblems config.client ++
    panelsProblems config.client.base? 0 [] config.panels ++
    addressProblems config.dashboard.enabled "dashboard.bind_address"
      config.dashboard.bindAddress ++
    addressProblems config.observability.metricsEnabled "observability.metrics_address"
      config.observability.metricsAddress

/-- Accept a configuration without problems. -/
def validate (config : Config) : Except (List Problem) Unit :=
  if config.problems.isEmpty then .ok () else .error config.problems

end PanelBoard.Config
