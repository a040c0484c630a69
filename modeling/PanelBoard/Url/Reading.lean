import PanelBoard.Text.Blank
import PanelBoard.Url.Basic

/-!
# Reading the parts of a URL

Functions that take one part off the front of a text and give it together with
what follows.
-/

namespace PanelBoard.Url

open PanelBoard.Text

/-- The text that counts: without controls and blanks at both ends and without
tabs and line ends anywhere. -/
def significant (cs : List Char) : List Char :=
  (trimBoth (fun c => c.toNat ≤ 0x20) cs).filter
    (fun c => !(c == '\t' || c == '\n' || c == '\r'))

/-- May the character stand in a scheme, behind its first letter? -/
def isSchemeChar (c : Char) : Bool :=
  c.isAlphanum || c == '+' || c == '-' || c == '.'

/-- The scheme in small letters, if the text begins with one and its colon. -/
def takeScheme? (cs : List Char) : Option (List Char × List Char) :=
  match cutBefore (fun c => !isSchemeChar c) cs with
  | (c :: scheme, ':' :: rest) =>
    if c.isAlpha then some ((c :: scheme).map Char.toLower, rest) else none
  | _ => none

/-- Does the character separate path segments? -/
def isSlash (kind : SchemeKind) (c : Char) : Bool :=
  c == '/' || (kind.isSpecial && c == '\\')

/-- Does the character end an authority? -/
def endsAuthority (kind : SchemeKind) (c : Char) : Bool :=
  isSlash kind c || c == '?' || c == '#'

/-- A letter and a colon or a bar: a drive of a file system. -/
def isDriveLetter : List Char → Bool
  | [letter, mark] => letter.isAlpha && (mark == ':' || mark == '|')
  | _ => false

/-- A drive letter in its normal form. -/
def isNormalDriveLetter (segment : List Char) : Bool :=
  isDriveLetter segment && segment.getLast? == some ':'

/-- Does the text begin with a segment that is a drive letter? -/
def startsWithDriveLetter (cs : List Char) : Bool :=
  isDriveLetter (cs.take 2) && (cs.drop 2).head?.all (endsAuthority .file)

/-! ## Path -/

/-- The two spellings of a dot in a path. -/
def takeDot? : List Char → Option (List Char)
  | '.' :: rest => some rest
  | '%' :: '2' :: 'e' :: rest => some rest
  | '%' :: '2' :: 'E' :: rest => some rest
  | _ => none

/-- A segment that stands for the directory itself. -/
def isSingleDot (segment : List Char) : Bool :=
  takeDot? segment == some []

/-- A segment that stands for the directory above. -/
def isDoubleDot (segment : List Char) : Bool :=
  (takeDot? segment).bind takeDot? == some []

/-- The directory above; a drive letter is never left. -/
def parentOf (segments : List (List Char)) : List (List Char) :=
  if segments.getLast?.any isDriveLetter then segments else segments.dropLast

/-- The directory in which a relative reference starts; the file kind never
leaves a drive. -/
def directoryOf (kind : SchemeKind) (segments : List (List Char)) : List (List Char) :=
  if kind == .file && segments.getLast?.any isNormalDriveLetter then segments
  else segments.dropLast

/-- Go from a directory along one encoded segment. A dot segment at the end
leaves an empty segment, so that the path ends in a slash. -/
def enter (kind : SchemeKind) (directory : List (List Char)) (segment : List Char)
    (isLast : Bool) : List (List Char) :=
  let close (segments : List (List Char)) := if isLast then segments ++ [[]] else segments
  if isDoubleDot segment then close (parentOf directory)
  else if isSingleDot segment then close directory
  else if kind == .file && directory.isEmpty && isDriveLetter segment then
    [segment.take 1 ++ [':']]
  else directory ++ [segment]

/-- Go from a directory along several encoded segments. -/
def enterAll (kind : SchemeKind) (directory : List (List Char)) :
    List (List Char) → List (List Char)
  | [] => directory
  | [segment] => enter kind directory segment true
  | segment :: rest => enterAll kind (enter kind directory segment false) rest

/-- File paths have no empty segments in front. -/
def tidy (kind : SchemeKind) (segments : List (List Char)) : List (List Char) :=
  if kind == .file then
    match segments.dropWhile List.isEmpty with
    | [] => [[]]
    | tidied => tidied
  else segments

/-- Read a path that starts in `directory`, up to the query or the fragment. -/
def takePath (kind : SchemeKind) (directory : List (List Char)) (cs : List Char) :
    List (List Char) × List Char :=
  let (body, rest) := cutBefore (fun c => c == '?' || c == '#') cs
  let segments := (splitOn (isSlash kind) body).map (Percent.encode Percent.inPath)
  (tidy kind (enterAll kind directory segments), rest)

/-- Read the path behind an authority. -/
def takePathStart (kind : SchemeKind) (cs : List Char) : List (List Char) × List Char :=
  match cs with
  | [] => if kind.isSpecial then ([[]], []) else ([], [])
  | c :: rest =>
    if isSlash kind c then takePath kind [] rest
    else if !kind.isSpecial && (c == '?' || c == '#') then ([], cs)
    else takePath kind [] cs

/-! ## Query and fragment -/

/-- The fragment, if the text begins with its mark. -/
def takeFragment : List Char → Option (List Char)
  | '#' :: rest => some (Percent.encode Percent.inFragment rest)
  | _ => none

/-- Query and fragment. -/
def takeQuery (kind : SchemeKind) : List Char → Option (List Char) × Option (List Char)
  | '?' :: rest =>
    let (query, rest) := cutBefore (· == '#') rest
    let mustEncode := if kind.isSpecial then Percent.inSpecialQuery else Percent.inQuery
    (some (Percent.encode mustEncode query), takeFragment rest)
  | cs => (none, takeFragment cs)

/-! ## Authority -/

/-- The host text and what follows: a colon ends it outside brackets. -/
def takeHost (kind : SchemeKind) (inBrackets : Bool) : List Char → List Char × List Char
  | [] => ([], [])
  | c :: rest =>
    if (c == ':' && !inBrackets) || endsAuthority kind c then ([], c :: rest)
    else
      let inBrackets := if c == '[' then true else if c == ']' then false else inBrackets
      let (host, rest) := takeHost kind inBrackets rest
      (c :: host, rest)

/-- The port number and what follows it; a port must end the authority. -/
def takePort (cs : List Char) : Except ParseError (Option Nat × List Char) :=
  let (digits, rest) := cutBefore (fun c => !c.isDigit) cs
  if rest.head?.all (endsAuthority .special) then
    match numeral? 10 digits with
    | none => .ok (none, rest)
    | some number => if number ≤ 65535 then .ok (some number, rest) else .error .invalidPort
  else .error .invalidPort

/-- User name and password of an authority, and what follows their `@`. -/
def takeCredentials (kind : SchemeKind) (cs : List Char) :
    Except ParseError (List Char × Option (List Char) × List Char) :=
  let (userPart, rest) := cutBefore (endsAuthority kind) cs
  match cutAtLast? (· == '@') userPart with
  | none => .ok ([], none, cs)
  | some ([], []) => if rest.isEmpty then .ok ([], none, []) else .error .emptyHost
  | some ([], host) => .ok ([], none, host ++ rest)
  | some (credentials, host) =>
    let (username, password) := cutBefore (· == ':') credentials
    let encode := Percent.encode Percent.inUserinfo
    let password := match password with
      | ':' :: c :: more => some (encode (c :: more))
      | _ => none
    .ok (encode username, password, host ++ rest)

/-- The host of an authority. -/
def parseHost (kind : SchemeKind) (host : List Char) : Except ParseError Host :=
  match kind with
  | .other => Host.parseOpaque host
  | _ => if host.isEmpty then .error .emptyHost else Host.parse host

/-- Read an authority, from behind its `//`. Without a host there is neither a
user nor a port. -/
def takeAuthority (scheme : List Char) (cs : List Char) :
    Except ParseError (Authority × List Char) := do
  let kind := SchemeKind.of scheme
  let (username, password, afterCredentials) ← takeCredentials kind cs
  let (hostText, afterHost) := takeHost kind false afterCredentials
  let host ← parseHost kind hostText
  let (port, rest) ← match afterHost with
    | ':' :: afterColon =>
      if host == .name [] then .error .emptyHost else takePort afterColon
    | _ => .ok (none, afterHost)
  if host == .name [] && !(username.isEmpty && password.isNone) then .error .emptyHost
  else
    let port := if port == defaultPort? scheme then none else port
    .ok ({ username, password, host, port }, rest)

end PanelBoard.Url
