import PanelBoard.Config.Schema
import PanelBoard.Text.Quoted
import PanelBoard.Toml.Value

/-!
# Configurations from TOML

A configuration is decoded entry by entry in the order of the document, and the
first entry that does not fit ends the decoding. Keys that are not known are
passed over and fields that are left out take their defaults. A group of fields
may also be written as an array, which stands for the table of its first fields.
-/

namespace PanelBoard.Config

open PanelBoard.Toml

/-- Why a value does not fit. -/
inductive Mismatch where
  | invalidType (found : Value) (expected : String)
  | invalidInteger (found : Int) (expected : String)
  | missingField (name : String)
  | invalidLength (length : Nat) (expected : String)

/-- A value as it is named in a message. -/
def describe : Value → String
  | .text value => "string " ++ Text.quoted value
  | .integer value => "integer `" ++ toString value ++ "`"
  | .float value => "floating point `" ++ value.text ++ "`"
  | .boolean value => "boolean `" ++ toString value ++ "`"
  | .dateTime _ => "map"
  | .array _ => "sequence"
  | .table _ => "map"

/-- The wording of each mismatch. -/
def Mismatch.message : Mismatch → String
  | .invalidType found expected => "invalid type: " ++ describe found ++ ", expected " ++ expected
  | .invalidInteger found expected =>
    "invalid value: integer `" ++ toString found ++ "`, expected " ++ expected
  | .missingField name => "missing field `" ++ name ++ "`"
  | .invalidLength length expected =>
    "invalid length " ++ toString length ++ ", expected " ++ expected

/-! ## Single values -/

/-- A text. -/
def decodeText : Value → Except Mismatch String
  | .text value => .ok value
  | other => .error (.invalidType other "a string")

/-- A truth value. -/
def decodeBoolean : Value → Except Mismatch Bool
  | .boolean value => .ok value
  | other => .error (.invalidType other "a boolean")

/-- A number that is not negative. -/
def decodeCount : Value → Except Mismatch Nat
  | .integer value =>
    if 0 ≤ value then .ok value.toNat else .error (.invalidInteger value "u64")
  | other => .error (.invalidType other "u64")

/-- A list, each element decoded alike. -/
def decodeList {α : Type} (decode : Value → Except Mismatch α) : Value → Except Mismatch (List α)
  | .array values => values.mapM decode
  | other => .error (.invalidType other "a sequence")

/-! ## Groups of fields -/

/-- How a group of fields is decoded: its name, its fields in order, the state in
which no field was given, what a field's value does to that state, and the
result, or the field that must be given and was not. -/
structure Group (σ α : Type) where
  name : String
  fields : List String
  start : σ
  put : σ → String → Value → Except Mismatch σ
  finish : σ → Except String α

namespace Group

variable {σ α : Type}

/-- How a group is named where a value does not fit it. -/
def expected (group : Group σ α) : String :=
  "struct " ++ group.name

/-- Take in one entry; a key that is no field is passed over. -/
def putEntry (group : Group σ α) (state : σ) (entry : String × Value) : Except Mismatch σ :=
  if entry.1 ∈ group.fields then group.put state entry.1 entry.2 else .ok state

/-- Take in entries in their order. -/
def putAll (group : Group σ α) (entries : List (String × Value)) : Except Mismatch σ :=
  entries.foldlM group.putEntry group.start

/-- A group written as a table. -/
def decodeTable (group : Group σ α) (entries : List (String × Value)) : Except Mismatch α := do
  let state ← group.putAll entries
  match group.finish state with
  | .ok result => .ok result
  | .error field => .error (.missingField field)

/-- Take in values as those of fields in turn, while there are both. -/
def putInTurn (group : Group σ α) : List String → List Value → σ → Except Mismatch σ
  | field :: fields, value :: values, state => do
    let next ← group.put state field value
    group.putInTurn fields values next
  | _, _, state => .ok state

/-- A group written as an array: the values of its first fields, in order. Values
behind the last field are passed over. -/
def decodeArray (group : Group σ α) (values : List Value) : Except Mismatch α := do
  let state ← group.putInTurn group.fields values group.start
  match group.finish state with
  | .ok result => .ok result
  | .error _ =>
    .error (.invalidLength values.length
      (group.expected ++ " with " ++ toString group.fields.length ++ " elements"))

/-- A group in either spelling. A date or time has no field of any group, so it
stands for a table without entries. -/
def decode (group : Group σ α) : Value → Except Mismatch α
  | .table entries => group.decodeTable entries
  | .array values => group.decodeArray values
  | .dateTime _ => group.decodeTable []
  | other => .error (.invalidType other group.expected)

end Group

/-! ## The groups of a configuration -/

/-- Settings of the HTTP client. -/
def clientGroup : Group Client Client where
  name := "ClientConfig"
  fields := ["base_url", "user_agent"]
  start := {}
  put client field value :=
    match field with
    | "base_url" => (decodeText value).map fun baseUrl => { client with baseUrl }
    | "user_agent" => (decodeText value).map fun userAgent => { client with userAgent }
    | _ => .ok client
  finish := .ok

/-- The fields of a panel given so far. -/
structure PanelDraft where
  target : Option String := none
  url : Option String := none
  refresh : Nat := defaultRefresh
  initialContent : Option String := none

/-- A panel needs a target and a URL. -/
def panelGroup : Group PanelDraft Panel where
  name := "PanelConfig"
  fields := ["target", "url", "refresh_ms", "initial_content"]
  start := {}
  put draft field value :=
    match field with
    | "target" => (decodeText value).map fun target => { draft with target := some target }
    | "url" => (decodeText value).map fun url => { draft with url := some url }
    | "refresh_ms" => (decodeCount value).map fun refresh => { draft with refresh }
    | "initial_content" =>
      (decodeText value).map fun content => { draft with initialContent := some content }
    | _ => .ok draft
  finish draft :=
    match draft.target, draft.url with
    | none, _ => .error "target"
    | some _, none => .error "url"
    | some target, some url =>
      .ok { target, url, refresh := draft.refresh, initialContent := draft.initialContent }

/-- Settings of the dashboard. -/
def dashboardGroup : Group Dashboard Dashboard where
  name := "DashboardConfig"
  fields := ["enabled", "bind_address", "title"]
  start := {}
  put dashboard field value :=
    match field with
    | "enabled" => (decodeBoolean value).map fun enabled => { dashboard with enabled }
    | "bind_address" =>
      (decodeText value).map fun bindAddress => { dashboard with bindAddress }
    | "title" => (decodeText value).map fun title => { dashboard with title }
    | _ => .ok dashboard
  finish := .ok

/-- Settings of log and metrics. -/
def observabilityGroup : Group Observability Observability where
  name := "ObservabilityConfig"
  fields := ["log_level", "metrics_enabled", "metrics_address"]
  start := {}
  put observability field value :=
    match field with
    | "log_level" => (decodeText value).map fun logLevel => { observability with logLevel }
    | "metrics_enabled" =>
      (decodeBoolean value).map fun metricsEnabled => { observability with metricsEnabled }
    | "metrics_address" =>
      (decodeText value).map fun metricsAddress => { observability with metricsAddress }
    | _ => .ok observability
  finish := .ok

/-- The whole configuration. -/
def rootGroup : Group Config Config where
  name := "PollerConfig"
  fields := ["failure_message", "client", "panels", "dashboard", "observability"]
  start := {}
  put config field value :=
    match field with
    | "failure_message" =>
      (decodeText value).map fun failureMessage => { config with failureMessage }
    | "client" => (clientGroup.decode value).map fun client => { config with client }
    | "panels" => (decodeList panelGroup.decode value).map fun panels => { config with panels }
    | "dashboard" => (dashboardGroup.decode value).map fun dashboard => { config with dashboard }
    | "observability" =>
      (observabilityGroup.decode value).map fun observability => { config with observability }
    | _ => .ok config
  finish := .ok

/-- The configuration of a document. -/
def decode (document : List (String × Value)) : Except Mismatch Config :=
  rootGroup.decodeTable document

end PanelBoard.Config
