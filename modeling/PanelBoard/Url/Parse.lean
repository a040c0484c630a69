import PanelBoard.Url.Reading

/-!
# Reading and joining URLs

`Url.parse` reads an absolute URL and `Url.join` a reference against a base.
Both keep to one grammar: a reference with a scheme of its own is read without
the base, except that a special scheme with fewer than two slashes may still be
relative to a base of the same scheme.
-/

namespace PanelBoard.Url

open PanelBoard.Text

/-- An absolute URL from behind the `//`. -/
def afterSlashes (scheme : List Char) (cs : List Char) : Except ParseError Url := do
  let kind := SchemeKind.of scheme
  let (authority, rest) ← takeAuthority scheme cs
  let (segments, rest) := takePathStart kind rest
  let (query, fragment) := takeQuery kind rest
  return { scheme, authority := some authority, path := .segments segments, query, fragment }

/-- The host of a file URL, and what follows it. A drive letter is no host, and
the local machine is the empty one. -/
def takeFileHost (cs : List Char) : Except ParseError (Host × List Char) := do
  let (hostText, rest) := cutBefore (endsAuthority .file) cs
  if hostText.isEmpty then return (.name [], rest)
  else
    match ← Host.parse hostText with
    | .name text => return (.name (if String.ofList text = "localhost" then [] else text), rest)
    | host => return (host, rest)

/-- A file URL with the given host and path. -/
def ofFile (host : Host) (segments : List (List Char)) (rest : List Char) : Url :=
  let (query, fragment) := takeQuery .file rest
  { scheme := ['f', 'i', 'l', 'e'], authority := some { host },
    path := .segments segments, query, fragment }

/-- The segments of a path. -/
def Path.toSegments : Path → List (List Char)
  | .segments list => list
  | .rootless text => [text]

/-- The host of a URL, the empty one if it has none. -/
def host (url : Url) : Host :=
  (url.authority.map (·.host)).getD (.name [])

/-- Read the references that every base with a hierarchy resolves alike: the
empty one, a query and a fragment. -/
def joinSuffix? (base : Url) : List Char → Option Url
  | [] => some { base with fragment := none }
  | '#' :: rest => some { base with fragment := takeFragment ('#' :: rest) }
  | '?' :: rest =>
    let (query, fragment) := takeQuery base.kind ('?' :: rest)
    some { base with query, fragment }
  | _ => none

/-- Read a reference with two slashes of a file URL, from behind them. -/
def joinFileHost (cs : List Char) : Except ParseError Url := do
  let (hostText, _) := cutBefore (endsAuthority .file) cs
  if isDriveLetter hostText then
    let (segments, rest) := takePath .file [] cs
    return ofFile (.name []) segments rest
  else
    let (host, rest) ← takeFileHost cs
    let (segments, rest) := takePathStart .file rest
    let host := if segments.head?.any isNormalDriveLetter then .name [] else host
    return ofFile host segments rest

/-- Read a reference with one slash of a file URL, from behind it. -/
def joinFileRoot (base : Option Url) (cs : List Char) : Url :=
  let absolute (host : Host) (directory : List (List Char)) :=
    let (segments, rest) := takePath .file directory cs
    ofFile host segments rest
  match base with
  | some base =>
    if startsWithDriveLetter cs then absolute (.name []) []
    else
      match base.path.toSegments.head? with
      | some first =>
        if isNormalDriveLetter first then absolute (.name []) [first] else absolute base.host []
      | none => absolute base.host []
  | none => absolute (.name []) []

/-- Read a file URL or a reference against one, from behind the scheme. -/
def joinFile (base : Option Url) (cs : List Char) : Except ParseError Url :=
  match cs with
  | first :: rest =>
    if isSlash .file first then
      match rest with
      | second :: rest' =>
        if isSlash .file second then joinFileHost rest' else .ok (joinFileRoot base rest)
      | [] => .ok (joinFileRoot base rest)
    else
      match base with
      | none =>
        let (segments, rest) := takePath .file [] cs
        .ok (ofFile (.name []) segments rest)
      | some base =>
        match joinSuffix? base cs with
        | some url => .ok url
        | none =>
          let (host, directory) :=
            if startsWithDriveLetter cs then (Host.name [], [])
            else (base.host, directoryOf .file base.path.toSegments)
          let (segments, rest) := takePath .file directory cs
          .ok (ofFile host segments rest)
  | [] =>
    match base.bind (joinSuffix? · []) with
    | some url => .ok url
    | none => .ok (ofFile (.name []) [[]] [])

/-- Read a relative reference against a base that has a hierarchy and is no file. -/
def joinRelative (base : Url) (cs : List Char) : Except ParseError Url :=
  let kind := base.kind
  let withPath (directory : List (List Char)) (cs : List Char) : Url :=
    let (segments, rest) := takePath kind directory cs
    let (query, fragment) := takeQuery kind rest
    { base with path := .segments segments, query, fragment }
  match joinSuffix? base cs with
  | some url => .ok url
  | none =>
    let (slashes, remaining) := cutBefore (fun c => !(c == '/' || c == '\\')) cs
    match slashes with
    | [] => .ok (withPath (directoryOf kind base.path.toSegments) cs)
    | [_] => .ok (withPath [] remaining)
    | '/' :: '/' :: _ => afterSlashes base.scheme (cs.drop 2)
    | _ => afterSlashes base.scheme remaining

/-- Read a URL with a scheme that is not special, from behind the scheme. -/
def parseOther (scheme : List Char) : List Char → Except ParseError Url
  | '/' :: '/' :: rest => afterSlashes scheme rest
  | '/' :: rest =>
    let (segments, rest) := takePath .other [] rest
    let (query, fragment) := takeQuery .other rest
    .ok { scheme, authority := none, path := .segments segments, query, fragment }
  | cs =>
    let (body, rest) := cutBefore (fun c => c == '?' || c == '#') cs
    let (query, fragment) := takeQuery .other rest
    .ok { scheme, authority := none
          path := .rootless (Percent.encode Percent.isControl body), query, fragment }

/-- Read a reference that has a scheme, from behind it. -/
def joinWithScheme (base : Option Url) (scheme : List Char) (cs : List Char) :
    Except ParseError Url :=
  let sameScheme := base.filter (·.scheme == scheme)
  match SchemeKind.of scheme with
  | .file => joinFile sameScheme cs
  | .other => parseOther scheme cs
  | .special =>
    let (slashes, rest) := cutBefore (fun c => !(c == '/' || c == '\\')) cs
    match sameScheme with
    | some base =>
      if slashes.length < 2 then joinRelative base cs else afterSlashes scheme rest
    | none => afterSlashes scheme rest

/-- Read a reference without a scheme. -/
def joinWithoutScheme (base : Option Url) (cs : List Char) : Except ParseError Url :=
  match base with
  | none => .error .relativeWithoutBase
  | some base =>
    match cs, base.path with
    | '#' :: rest, _ => .ok { base with fragment := takeFragment ('#' :: rest) }
    | _, .rootless _ => .error .relativeWithOpaqueBase
    | _, .segments _ =>
      if base.kind == .file then joinFile (some base) cs else joinRelative base cs

/-- Read a reference, against a base if there is one. -/
def resolve (base : Option Url) (reference : String) : Except ParseError Url :=
  let cs := significant reference.toList
  match takeScheme? cs with
  | some (scheme, rest) => joinWithScheme base scheme rest
  | none => joinWithoutScheme base cs

/-- Read an absolute URL. -/
def parse (reference : String) : Except ParseError Url :=
  resolve none reference

/-- Read a reference against this URL. -/
def join (base : Url) (reference : String) : Except ParseError Url :=
  resolve (some base) reference

end PanelBoard.Url
