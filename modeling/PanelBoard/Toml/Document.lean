import PanelBoard.Toml.Reader
import PanelBoard.Toml.Table

/-!
# TOML documents

A document is a list of lines, each a key with its value or the header of a
table; `readLines` reads them and `ofLines` builds the table they describe. All
that is said about a text that is no document is that it is none.
-/

namespace PanelBoard.Toml

open PanelBoard.Text

/-! ## Values with parts -/

/-- The elements of an array, from where one may begin, up to the closing bracket. -/
def arrayElements? (element : Reader Value) : Nat → Reader (List Value)
  | 0, _ => none
  | fuel + 1, cs => do
    match ← skipLines (cs.length + 1) cs with
    | ']' :: rest => return ([], rest)
    | cs =>
      let (value, rest) ← element cs
      match ← skipLines (rest.length + 1) rest with
      | ',' :: rest =>
        let (values, rest) ← arrayElements? element fuel rest
        return (value :: values, rest)
      | ']' :: rest => return ([value], rest)
      | _ => none

/-- A key and its value within a line, and what follows. -/
def keyValue? (value : Reader Value) (cs : List Char) :
    Option ((List String × Value) × List Char) := do
  let (keys, rest) ← dottedKey? cs
  match rest with
  | '=' :: rest =>
    let (found, rest) ← value (skipBlanks rest)
    return ((keys, found), rest)
  | _ => none

/-- The keys of an inline table, from where one must begin, up to the closing brace. -/
def inlineKeys? (value : Reader Value) : Nat → Reader (List (List String × Value))
  | 0, _ => none
  | fuel + 1, cs => do
    let (first, rest) ← keyValue? value cs
    match skipBlanks rest with
    | ',' :: rest =>
      let (others, rest) ← inlineKeys? value fuel rest
      return (first :: others, rest)
    | '}' :: rest => return ([first], rest)
    | _ => none

/-- The table of an inline table's keys. -/
def inlineTable? (keys : List (List String × Value)) : Option Value := do
  let entries ← keys.foldlM (fun (entries : Entries) (keys, value) => entries.addKey keys value) []
  return .table (toValues entries)

/-- A value whose parts are at most `depth` deep. -/
def value? : Nat → Reader Value
  | 0, cs => scalar? cs
  | depth + 1, cs =>
    match cs with
    | '[' :: rest =>
      (arrayElements? (value? depth) (rest.length + 1) rest).map fun (values, rest) =>
        (.array values, rest)
    | '{' :: rest =>
      match skipBlanks rest with
      | '}' :: rest => some (.table [], rest)
      | _ => do
        let (keys, rest) ← inlineKeys? (value? depth) (rest.length + 1) rest
        let table ← inlineTable? keys
        return (table, rest)
    | _ => scalar? cs

/-! ## Lines -/

/-- A line of a document. -/
inductive Line where
  | keyValue (keys : List String) (value : Value)
  | table (path : List String)
  | element (path : List String)

/-- The path of a header, from behind its opening brackets. -/
def headerPath? (closing : List Char) (cs : List Char) : Option (List String × List Char) := do
  let (path, rest) ← dottedKey? cs
  let rest ← dropExactly? closing rest
  let rest ← lineRest? rest
  return (path, rest)

/-- One line that is neither blank nor a comment, to its end. -/
def line? : Reader Line
  | '[' :: '[' :: rest =>
    (headerPath? [']', ']'] rest).map fun (path, rest) => (.element path, rest)
  | '[' :: rest => (headerPath? [']'] rest).map fun (path, rest) => (.table path, rest)
  | cs => do
    let ((keys, value), rest) ← keyValue? (value? (nestingLimit - 1)) cs
    let rest ← lineRest? rest
    return (.keyValue keys value, rest)

/-- The lines of a document. -/
def readLines : Nat → List Char → Option (List Line)
  | 0, _ => none
  | fuel + 1, cs =>
    match skipBlanks cs with
    | [] => some []
    | '#' :: rest => (lineRest? ('#' :: rest)).bind (readLines fuel)
    | '\n' :: rest => readLines fuel rest
    | '\r' :: rest => (lineEnd? ('\r' :: rest)).bind (readLines fuel)
    | cs => do
      let (line, rest) ← line? cs
      let lines ← readLines fuel rest
      return line :: lines

/-! ## Documents -/

/-- A document being built: its root table, and the path of the header that the
next keys belong to. -/
structure Draft where
  root : Entries := []
  path : List String := []

/-- Add one line to a document. -/
def Draft.addLine (draft : Draft) : Line → Option Draft
  | .keyValue keys value =>
    (draft.root.changeAt (Entries.addKey keys value) draft.path).map fun root =>
      { draft with root }
  | .table path => do
    let key ← path.getLast?
    let root ← draft.root.changeAt (Entries.openTable key) path.dropLast
    return { root, path }
  | .element path => do
    let key ← path.getLast?
    let root ← draft.root.changeAt (Entries.openElement key) path.dropLast
    return { root, path }

/-- The root table that lines describe. -/
def ofLines (lines : List Line) : Option (List (String × Value)) := do
  let draft ← lines.foldlM Draft.addLine {}
  return toValues draft.root

/-- The root table of a document. A byte order mark in front is ignored. -/
def parse? (text : String) : Option (List (String × Value)) := do
  let cs := match text.toList with
    | c :: rest => if c.toNat = 0xFEFF then rest else c :: rest
    | [] => []
  let lines ← readLines (cs.length + 1) cs
  ofLines lines

end PanelBoard.Toml
