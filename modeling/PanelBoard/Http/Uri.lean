import PanelBoard.Text.Split
import PanelBoard.Text.Utf8

/-!
# Request targets

The grammar of the target of an HTTP request, which is wider than that of a URL
in some places and narrower in others: no byte of it is encoded on the way, so
whatever it does not allow makes the request impossible.
-/

namespace PanelBoard.Http

open PanelBoard.Text

/-- A request target: scheme and authority if it is absolute, then path and
query as they are sent. -/
structure Uri where
  scheme : Option (List Char) := none
  authority : Option (List Char) := none
  path : List Char := []
  query : Option (List Char) := none
  deriving Repr, DecidableEq

namespace Uri

/-- The longest target, in bytes. -/
def maxLength : Nat := 65534

/-- Characters of a scheme. -/
def isSchemeChar (c : Char) : Bool :=
  c.isAlphanum || ['+', '-', '.'].contains c

/-- Characters of an authority, percent signs aside. -/
def isAuthorityChar (c : Char) : Bool :=
  c.isAlphanum ||
    ['!', '$', '&', '\'', '(', ')', '*', '+', ',', '-', '.', ':', ';', '=', '@', '[', ']', '_',
      '~'].contains c

/-- Characters of a path. -/
def isPathChar (c : Char) : Bool :=
  let n := c.toNat
  n == 0x21 || n == 0x22 || (0x24 ≤ n && n ≤ 0x3B) || n == 0x3D || (0x40 ≤ n && n ≤ 0x5F) ||
    (0x61 ≤ n && n ≤ 0x7E) || 0x7F ≤ n

/-- Characters of a query. -/
def isQueryChar (c : Char) : Bool :=
  let n := c.toNat
  n == 0x21 || (0x24 ≤ n && n ≤ 0x3B) || n == 0x3D || 0x3F ≤ n

/-- What is known of an authority while it is read from the left: how many colons
since the last `@` or bracket, which brackets were met, and whether a percent
sign stands outside the user part. -/
structure AuthorityScan where
  colons : Nat := 0
  isOpened : Bool := false
  isClosed : Bool := false
  hasPercent : Bool := false
  endsInAt : Bool := false

/-- Read one character of an authority. -/
def AuthorityScan.step? (scan : AuthorityScan) (c : Char) : Option AuthorityScan :=
  let scan := { scan with endsInAt := c == '@' }
  if c == ':' then
    if scan.colons < 8 then some { scan with colons := scan.colons + 1 } else none
  else if c == '[' then
    if scan.hasPercent || scan.isOpened then none else some { scan with isOpened := true }
  else if c == ']' then
    if scan.isOpened && !scan.isClosed then
      some { scan with isClosed := true, colons := 0, hasPercent := false }
    else none
  else if c == '@' then some { scan with colons := 0, hasPercent := false }
  else if c == '%' then some { scan with hasPercent := true }
  else if isAuthorityChar c then some scan
  else none

/-- May an authority end here? -/
def AuthorityScan.isComplete (scan : AuthorityScan) : Bool :=
  scan.isOpened == scan.isClosed && scan.colons ≤ 1 && !scan.endsInAt && !scan.hasPercent

/-- The authority at the front of a text, and what follows it. -/
def takeAuthority? (cs : List Char) : Option (List Char × List Char) := do
  let (authority, rest) := cutBefore (fun c => c == '/' || c == '?' || c == '#') cs
  let scan ← authority.foldlM AuthorityScan.step? {}
  if scan.isComplete then some (authority, rest) else none

/-- Path and query of a text; a fragment is not sent. -/
def pathAndQuery? (cs : List Char) : Option (List Char × Option (List Char)) := do
  let (sent, _) := cutBefore (· == '#') cs
  let (path, query) := cutBefore (· == '?') sent
  guard (path.all isPathChar)
  match query with
  | '?' :: query => if query.all isQueryChar then some (path, some query) else none
  | _ => some (path, none)

/-- The scheme at the front of an absolute target, and what follows its `://`. -/
def takeScheme? (cs : List Char) : Option (List Char × List Char) :=
  match cutBefore (fun c => !isSchemeChar c) cs with
  | (scheme, ':' :: '/' :: '/' :: rest) => some (scheme, rest)
  | _ => none

/-- The longest scheme. -/
def maxSchemeLength : Nat := 64

/-- A target that does not begin with a slash: absolute, or an authority alone. -/
def parseFull? (cs : List Char) : Option Uri :=
  match takeScheme? cs with
  | some (scheme, rest) => do
    guard (scheme.length ≤ maxSchemeLength)
    let (authority, rest) ← takeAuthority? rest
    guard (!authority.isEmpty)
    let (path, query) ← pathAndQuery? rest
    return { scheme := some scheme, authority := some authority, path, query }
  | none => do
    let (authority, rest) ← takeAuthority? cs
    guard (!authority.isEmpty && rest.isEmpty)
    return { authority := some authority }

/-- Read a target. -/
def parse? (text : String) : Option Uri :=
  if maxLength < text.utf8ByteSize then none
  else
    match text.toList with
    | [] => none
    | ['*'] => some { path := ['*'] }
    | '/' :: rest =>
      (pathAndQuery? ('/' :: rest)).map fun (path, query) => { path, query }
    | cs => parseFull? cs

/-- The path that is routed: an absolute target without a path asks for the root,
an authority alone for nothing. -/
def routedPath (uri : Uri) : List Char :=
  if uri.path.isEmpty && uri.scheme.isSome then ['/'] else uri.path

end Uri

end PanelBoard.Http
