import PanelBoard.Toml.Value

/-!
# Tables under construction

A table grows key by key, and how it came into being decides what may still be
added to it. `Node.toValue` forgets that once the table is finished.
-/

namespace PanelBoard.Toml

/-- How a table came into being: by its own header, by the header of a table
below it, or by a dotted key. -/
inductive Origin where
  | header
  | implied
  | dotted
  deriving Repr, DecidableEq

/-- A value that is finished, a table, or tables collected under one header. -/
inductive Node where
  | value (value : Value)
  | table (origin : Origin) (entries : List (String × Node))
  | tables (elements : List (List (String × Node)))

/-- The entries of a table under construction. -/
abbrev Entries := List (String × Node)

mutual

/-- The finished value of a node. -/
def Node.toValue : Node → Value
  | .value value => value
  | .table _ entries => .table (toValues entries)
  | .tables elements => .array (toTables elements)

/-- The finished entries of a table. -/
def toValues : List (String × Node) → List (String × Value)
  | [] => []
  | (key, node) :: rest => (key, node.toValue) :: toValues rest

/-- The finished elements of collected tables. -/
def toTables : List (List (String × Node)) → List Value
  | [] => []
  | entries :: rest => .table (toValues entries) :: toTables rest

end

namespace Entries

/-- The node of a key. -/
def get? (key : String) (entries : Entries) : Option Node :=
  entries.lookup key

/-- Put another node in the place of the one a key has. -/
def replace (key : String) (node : Node) (entries : Entries) : Entries :=
  entries.map fun entry => if entry.1 == key then (key, node) else entry

/-- Remove a key. -/
def remove (key : String) (entries : Entries) : Entries :=
  entries.filter (·.1 != key)

/-- Change the last element of collected tables. -/
def changeLast (change : Entries → Option Entries) (elements : List Entries) :
    Option (List Entries) :=
  match elements.getLast? with
  | none => none
  | some last => (change last).map (elements.dropLast ++ [·])

/-- Change the table that a header's path leads to. Tables that are not there
are implied; collected tables stand for their last element. -/
def changeAt (change : Entries → Option Entries) : List String → Entries → Option Entries
  | [], entries => change entries
  | key :: path, entries =>
    match entries.get? key with
    | none =>
      (changeAt change path []).map fun below => entries ++ [(key, .table .implied below)]
    | some (.table origin below) =>
      (changeAt change path below).map fun below => entries.replace key (.table origin below)
    | some (.tables elements) =>
      (changeLast (changeAt change path) elements).map fun elements =>
        entries.replace key (.tables elements)
    | some (.value _) => none

/-- Open a table by its header. A table that was only implied may still get one,
and then counts as last in its parent. -/
def openTable (key : String) (entries : Entries) : Option Entries :=
  match entries.get? key with
  | none => some (entries ++ [(key, .table .header [])])
  | some (.table .implied below) => some (entries.remove key ++ [(key, .table .header below)])
  | some _ => none

/-- Open one more of the tables collected under a header. -/
def openElement (key : String) (entries : Entries) : Option Entries :=
  match entries.get? key with
  | none => some (entries ++ [(key, .tables [[]])])
  | some (.tables elements) => some (entries.replace key (.tables (elements ++ [[]])))
  | some _ => none

/-- Add a new key. -/
def add (key : String) (value : Value) (entries : Entries) : Option Entries :=
  match entries.get? key with
  | none => some (entries ++ [(key, .value value)])
  | some _ => none

/-- Add a key at the end of a dotted path. The path may go through tables that
other dotted keys or deeper headers brought about, but the table it ends in must
be one of dotted keys; `isDotted` says whether this one is. -/
def addDotted (value : Value) (isDotted : Bool) : List String → Entries → Option Entries
  | [], _ => none
  | [key], entries => if isDotted then entries.add key value else none
  | key :: path, entries =>
    match entries.get? key with
    | none =>
      (addDotted value true path []).map fun below => entries ++ [(key, .table .dotted below)]
    | some (.table .header _) => none
    | some (.table origin below) =>
      (addDotted value (origin == .dotted) path below).map fun below =>
        entries.replace key (.table origin below)
    | some (.tables elements) =>
      (changeLast (addDotted value false path) elements).map fun elements =>
        entries.replace key (.tables elements)
    | some (.value _) => none

/-- Add a key as it is written in a table: plain or dotted. -/
def addKey (keys : List String) (value : Value) (entries : Entries) : Option Entries :=
  match keys with
  | [key] => entries.add key value
  | _ => entries.addDotted value false keys

end Entries

end PanelBoard.Toml
