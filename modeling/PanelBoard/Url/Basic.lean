import PanelBoard.Url.Host

/-!
# URLs

A URL in its parts. The parts hold encoded text, so writing them side by side
gives the URL; every URL the library holds comes from `Url.parse` or
`Url.join`, which encode.
-/

namespace PanelBoard

open PanelBoard.Text

namespace Url

/-- What the scheme of a URL decides about its syntax. -/
inductive SchemeKind where
  | file
  | special
  | other
  deriving Repr, DecidableEq

/-- The port that a special scheme uses when none is written. -/
def defaultPort? (scheme : List Char) : Option Nat :=
  match String.ofList scheme with
  | "http" | "ws" => some 80
  | "https" | "wss" => some 443
  | "ftp" => some 21
  | _ => none

/-- The kind of a scheme in small letters. -/
def SchemeKind.of (scheme : List Char) : SchemeKind :=
  if scheme = ['f', 'i', 'l', 'e'] then .file
  else if (defaultPort? scheme).isSome then .special
  else .other

/-- Special schemes treat a backslash as a slash and have no opaque hosts. -/
def SchemeKind.isSpecial : SchemeKind → Bool
  | .other => false
  | _ => true

/-- Who and where: the part of a URL between `//` and the path. A password is
present only if it is not empty. -/
structure Authority where
  username : List Char := []
  password : Option (List Char) := none
  host : Host
  port : Option Nat := none
  deriving Repr, DecidableEq

/-- A path is a list of segments, or one text without structure for URLs such as
`mailto:`. -/
inductive Path where
  | segments (list : List (List Char))
  | rootless (text : List Char)
  deriving Repr, DecidableEq

end Url

/-- A URL. -/
structure Url where
  scheme : List Char
  authority : Option Url.Authority
  path : Url.Path
  query : Option (List Char) := none
  fragment : Option (List Char) := none
  deriving Repr, DecidableEq

namespace Url

/-- The kind of a URL's scheme. -/
def kind (url : Url) : SchemeKind :=
  .of url.scheme

/-- User name and password as they stand before the host. -/
def Authority.renderCredentials (authority : Authority) : List Char :=
  let password := match authority.password with
    | some text => ':' :: text
    | none => []
  if authority.username.isEmpty && authority.password.isNone then []
  else authority.username ++ password ++ ['@']

/-- Host and port. -/
def Authority.renderHost (authority : Authority) : List Char :=
  let port := match authority.port with
    | some number => ':' :: decimal number
    | none => []
  authority.host.render ++ port

/-- A path as it stands in a URL. -/
def Path.render : Path → List Char
  | .segments list => list.flatMap ('/' :: ·)
  | .rootless text => text

/-- A path that would be read as an authority if it came right after the colon. -/
def Path.looksLikeAuthority : Path → Bool
  | .segments ([] :: _ :: _) => true
  | _ => false

/-- Everything between the scheme's colon and the path. -/
def renderAuthority (url : Url) : List Char :=
  match url.authority with
  | some authority => ['/', '/'] ++ authority.renderCredentials ++ authority.renderHost
  | none => if url.path.looksLikeAuthority then ['/', '.'] else []

/-- A part introduced by a mark, if it is there. -/
def renderOptional (mark : Char) : Option (List Char) → List Char
  | some text => mark :: text
  | none => []

/-- The characters of a URL. -/
def render (url : Url) : List Char :=
  url.scheme ++ [':'] ++ url.renderAuthority ++ url.path.render ++
    renderOptional '?' url.query ++ renderOptional '#' url.fragment

/-- The text of a URL. -/
def text (url : Url) : String :=
  String.ofList url.render

/-- The text of a URL's scheme. -/
def schemeText (url : Url) : String :=
  String.ofList url.scheme

end Url

instance : ToString Url := ⟨Url.text⟩

end PanelBoard
