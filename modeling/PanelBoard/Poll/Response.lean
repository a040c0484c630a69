/-!
# Ready-state changes

A transport answers a GET with a sequence of ready-state changes. Only a change
to `done` completes the request; a failed connection completes it with status 0.
-/

namespace PanelBoard.Poll

/-- How far a request has come. -/
inductive ReadyState where
  | opened
  | headersReceived
  | loading
  | done
  deriving Repr, DecidableEq

/-- The name of a ready state in the log. -/
def ReadyState.label : ReadyState → String
  | .opened => "Opened"
  | .headersReceived => "HeadersReceived"
  | .loading => "Loading"
  | .done => "Done"

/-- A ready-state change. The status is 0 while nothing was received. -/
structure Response where
  state : ReadyState
  status : UInt16 := 0
  body : String := ""
  deriving Repr, DecidableEq

namespace Response

/-- The request was sent. -/
def opened : Response :=
  { state := .opened }

/-- Status line and headers were received. -/
def headersReceived (status : UInt16) : Response :=
  { state := .headersReceived, status }

/-- The body is being received. -/
def loading (status : UInt16) : Response :=
  { state := .loading, status }

/-- The whole response was received. -/
def done (status : UInt16) (body : String) : Response :=
  { state := .done, status, body }

/-- The request failed: no connection, or a broken response. -/
def networkError : Response :=
  done 0 ""

/-- Does the change complete its request? -/
def isComplete (response : Response) : Bool :=
  response.state == .done

/-- Is the status 200? -/
def isOk (response : Response) : Bool :=
  response.status == 200

end Response

end PanelBoard.Poll
