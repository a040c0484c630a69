/-!
# Display regions

A region is a named piece of markup. The store keeps one cell per region with
its place in the listing, so that the listing has a fixed order whatever the
order of the cells.
-/

namespace PanelBoard.Region

/-- What a reader sees of one region. -/
structure Snapshot where
  id : String
  content : String
  updates : Nat
  deriving Repr, DecidableEq

/-- One stored region: its content, how often it was written, and its place in
the order in which regions came into the store. -/
structure Cell where
  id : String
  content : String
  updates : Nat
  place : Nat
  deriving Repr, DecidableEq

/-- A cell without its place. -/
def Cell.snapshot (cell : Cell) : Snapshot :=
  { id := cell.id, content := cell.content, updates := cell.updates }

/-- The cell after one more write. -/
def Cell.write (cell : Cell) (content : String) : Cell :=
  { cell with content, updates := cell.updates + 1 }

/-- The regions of a board. -/
structure Store where
  cells : List Cell := []
  deriving Repr, DecidableEq

namespace Store

/-- The cell of a region. -/
def find? (store : Store) (id : String) : Option Cell :=
  store.cells.find? (·.id == id)

/-- Is the region in the store? -/
def contains (store : Store) (id : String) : Bool :=
  (store.find? id).isSome

/-- The number of regions. -/
def size (store : Store) : Nat :=
  store.cells.length

/-- Is the store without regions? -/
def isEmpty (store : Store) : Bool :=
  store.cells.isEmpty

/-- Give a new region the next place. -/
def add (store : Store) (id content : String) (updates : Nat) : Store :=
  { cells := store.cells ++ [{ id, content, updates, place := store.size }] }

/-- Announce a region with its initial content. A region already there stays as it is. -/
def register (store : Store) (id initial : String) : Store :=
  if store.contains id then store else store.add id initial 0

/-- Replace the content of a region, which comes into being if it was not there. -/
def setContent (store : Store) (id content : String) : Store :=
  if store.contains id then
    { cells := store.cells.map fun cell => if cell.id == id then cell.write content else cell }
  else store.add id content 1

/-- One region as a reader sees it. -/
def get? (store : Store) (id : String) : Option Snapshot :=
  (store.find? id).map Cell.snapshot

/-- The content of a region. -/
def content? (store : Store) (id : String) : Option String :=
  (store.find? id).map Cell.content

/-- All regions by their places. -/
def snapshot (store : Store) : List Snapshot :=
  (store.cells.mergeSort (fun a b => a.place ≤ b.place)).map Cell.snapshot

end Store

end PanelBoard.Region
