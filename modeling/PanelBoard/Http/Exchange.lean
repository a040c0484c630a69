import PanelBoard.Http.Body
import PanelBoard.Http.Request
import PanelBoard.Poll.Response

/-!
# Exchanges

One GET and what becomes of it. Whatever a server does, the ready-state changes
that are reported end in at most one completion, and a completion ends them.
-/

namespace PanelBoard.Http

open PanelBoard.Poll PanelBoard.Text

/-- What a network does with a request: nobody listens, or somebody answers with
bytes and then closes the connection or holds it open. -/
inductive Connection where
  | refused
  | answered (reply : List UInt8) (isHeld : Bool)
  deriving Repr, DecidableEq

/-- The ready-state changes of one GET, and whether more may follow. -/
structure Report where
  changes : List Response
  isOpen : Bool
  deriving Repr, DecidableEq

namespace Report

/-- A change in front of a report. -/
def after (change : Response) (report : Report) : Report :=
  { report with changes := change :: report.changes }

/-- The request failed. -/
def failed : Report :=
  { changes := [.networkError], isOpen := false }

/-- Nothing more has come yet. -/
def waiting : Report :=
  { changes := [], isOpen := true }

/-- The request is complete. Bytes that are not UTF-8 are replaced. -/
def finished (status : UInt16) (body : List UInt8) : Report :=
  { changes := [.done status (String.ofList (Utf8.decodeLossy body))], isOpen := false }

/-- What is reported once the body has arrived, or not. -/
def ofBody (status : UInt16) : Arrival (List UInt8) → Report
  | .whole body => finished status body
  | .awaited => waiting
  | .lost => failed

/-- What is reported of the bytes behind a head. -/
def ofHead (isHeld : Bool) (head : Head) (framing : Framing) (rest : List UInt8) : Report :=
  let status := head.status.toUInt16
  after (.headersReceived status) (after (.loading status)
    (ofBody status (framing.arrival isHeld rest)))

/-- A head that is not interim, and how it frames the body. -/
def framedHead : Reader (Head × Framing) := do
  let head ← finalHead
  match head.framing? with
  | some framing => return (head, framing)
  | none => Reader.fail

/-- What is reported of a reply. -/
def ofReply (reply : List UInt8) (isHeld : Bool) : Report :=
  match framedHead reply with
  | .complete (head, framing) rest => ofHead isHeld head framing rest
  | .unfinished => if isHeld then waiting else failed
  | .broken => failed

/-- What is reported of a connection. -/
def ofConnection : Connection → Report
  | .refused => failed
  | .answered reply isHeld => ofReply reply isHeld

end Report

/-- A GET and what became of it; `delivered` is the request that reached a server. -/
structure Exchange where
  report : Report
  delivered : Option Request

/-- Send a GET. A request that cannot be made is not sent, and one that does not
use plain HTTP reaches nobody. -/
def get (network : Request → Connection) (userAgent : String) (url : Url) : Exchange :=
  match Request.create? url userAgent with
  | none => { report := .failed, delivered := none }
  | some request =>
    let connection := if request.isPlain then network request else .refused
    { report := .after .opened (.ofConnection connection)
      delivered := if connection = .refused then none else some request }

end PanelBoard.Http
