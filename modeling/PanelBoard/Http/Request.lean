import PanelBoard.Http.Head
import PanelBoard.Http.Uri
import PanelBoard.Text.Utf8
import PanelBoard.Url.Basic

/-!
# GET requests

A request that a client can send: its target obeys the grammar of targets, and
the name that the client gives itself can stand in a field.
-/

namespace PanelBoard.Http

open PanelBoard.Text

/-- A GET request. -/
structure Request where
  target : Uri
  userAgent : String
  userAgent_isFieldValue : isFieldValue (Utf8.bytes userAgent) = true

namespace Request

/-- The request for a URL; none if the URL or the user agent cannot be sent. -/
def create? (url : Url) (userAgent : String) : Option Request :=
  if valid : isFieldValue (Utf8.bytes userAgent) = true then
    (Uri.parse? url.text).map fun target => ⟨target, userAgent, valid⟩
  else none

/-- Only `http` is spoken. -/
def isPlain (request : Request) : Bool :=
  request.target.scheme == some ['h', 't', 't', 'p']

/-- Path and query, as the request line gives them. -/
def originForm (request : Request) : List Char :=
  request.target.routedPath ++
    match request.target.query with
    | some query => '?' :: query
    | none => []

/-- Host and port, without the user in front of them. -/
def host (request : Request) : List Char :=
  let authority := request.target.authority.getD []
  match cutAtLast? (· == '@') authority with
  | some (_, host) => host
  | none => authority

/-- The first line of the request. -/
def line (request : Request) : String :=
  "GET " ++ String.ofList request.originForm ++ " HTTP/1.1"

/-- The fields of the request, in the order of their names. -/
def fieldLines (request : Request) : List String :=
  ["host: " ++ String.ofList request.host, "user-agent: " ++ request.userAgent]

end Request

end PanelBoard.Http
