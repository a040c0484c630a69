import PanelBoard.Dashboard.Page
import PanelBoard.Http.Head
import PanelBoard.Http.Uri
import PanelBoard.Url.Percent

/-!
# Answers of the dashboard

Four routes and the methods GET and HEAD. A path is matched as it was sent; only
the id of a region is decoded.
-/

namespace PanelBoard.Dashboard

open PanelBoard.Text

/-- The statuses that the dashboard answers with. -/
inductive Status where
  | ok
  | badRequest
  | notFound
  | methodNotAllowed
  deriving Repr, DecidableEq

/-- The number of a status. -/
def Status.code : Status → Nat
  | .ok => 200
  | .badRequest => 400
  | .notFound => 404
  | .methodNotAllowed => 405

/-- The number of a status with its usual reason. -/
def Status.label (status : Status) : String :=
  toString status.code ++ " " ++
    match status with
    | .ok => "OK"
    | .badRequest => "Bad Request"
    | .notFound => "Not Found"
    | .methodNotAllowed => "Method Not Allowed"

/-- An answer. -/
structure Reply where
  status : Status
  contentType : Option String := none
  allow : Option String := none
  body : String := ""
  deriving Repr, DecidableEq

/-- What the dashboard shows. -/
structure Site where
  title : String := "Console"
  regions : Region.Store := {}
  deriving Repr, DecidableEq

/-- The places that can be asked for; a region by its id as it was sent. -/
inductive Route where
  | index
  | status
  | regions
  | region (segment : List Char)
  deriving Repr, DecidableEq

/-- The route of a path. The id of a region is one segment and not empty. -/
def Route.ofPath? (path : List Char) : Option Route :=
  match splitOn (· == '/') path with
  | [[], []] => some .index
  | [[], name] =>
    if name = "status".toList then some .status
    else if name = "regions".toList then some .regions
    else none
  | [[], name, segment] =>
    if name = "regions".toList ∧ segment ≠ [] then some (.region segment) else none
  | _ => none

/-- The id that a segment of a path spells; none if it spells no UTF-8. -/
def idOfSegment? (segment : List Char) : Option String :=
  (Utf8.decode? (Url.Percent.decode segment)).map String.ofList

namespace Site

/-- A page. -/
def markupReply (text : String) : Reply :=
  { status := .ok, contentType := some "text/html; charset=utf-8", body := text }

/-- Data. -/
def dataReply (value : Json.Value) : Reply :=
  { status := .ok, contentType := some "application/json", body := value.compact }

/-- The answer about one region. -/
def regionReply (site : Site) (segment : List Char) : Reply :=
  match idOfSegment? segment with
  | none =>
    { status := .badRequest
      contentType := some "text/plain; charset=utf-8"
      body := "Invalid URL: Invalid UTF-8 in \x60id\x60" }
  | some id =>
    match site.regions.content? id with
    | none => { status := .notFound }
    | some content => markupReply content

/-- The answer to a GET of a route. -/
def reply (site : Site) : Route → Reply
  | .index => markupReply (page site.title site.regions.snapshot)
  | .status => dataReply (statusValue site.regions.size)
  | .regions => dataReply (regionsValue site.regions.snapshot)
  | .region segment => site.regionReply segment

/-- The answer to a request. HEAD gets the answer of GET without its body. -/
def answer (site : Site) (method : String) (target : Http.Uri) : Reply :=
  match Route.ofPath? target.routedPath with
  | none => { status := .notFound }
  | some route =>
    if method = "GET" then site.reply route
    else if method = "HEAD" then { site.reply route with body := "" }
    else { status := .methodNotAllowed, allow := some "GET,HEAD" }

/-- Is a text a method? -/
def isMethod (method : String) : Bool :=
  !method.isEmpty && (Utf8.bytes method).all Http.isTokenByte

/-- The answer to a request that is given as text; none if it is no request. -/
def answerText? (site : Site) (method target : String) : Option Reply :=
  match isMethod method, Http.Uri.parse? target with
  | true, some uri => some (site.answer method uri)
  | _, _ => none

end Site

end PanelBoard.Dashboard
