import PanelBoard.Region.Store

/-!
# What a write does to look-ups

A write reaches the region it names and no other. Looked up afterwards, that
region has the new content and one more update; every other region is as it was.
-/

namespace PanelBoard.Region.Store

/-- How often a region was written; a region that is not there was never written. -/
def updateCount (store : Store) (id : String) : Nat :=
  (store.get? id).elim 0 Snapshot.updates

/-- The content of a region is that of its snapshot. -/
theorem content?_eq_map_get? (store : Store) (id : String) :
    store.content? id = (store.get? id).map Snapshot.content := by
  simp [content?, get?, Cell.snapshot, Function.comp_def]

private theorem find?_id {store : Store} {id : String} {cell : Cell}
    (found : store.find? id = some cell) : cell.id = id := by
  simpa using List.find?_some found

private theorem find?_rewrite (store : Store) (id content other : String) :
    (store.cells.map fun cell => if cell.id == id then cell.write content else cell).find?
        (·.id == other) =
      (store.find? other).map fun cell => if cell.id == id then cell.write content else cell := by
  rw [List.find?_map]
  congr 2
  funext cell
  simp only [Function.comp_apply]
  split <;> rfl

/-- A write leaves the other regions as they were. -/
theorem get?_setContent_of_ne (store : Store) (content : String) {id other : String}
    (different : other ≠ id) :
    (store.setContent id content).get? other = store.get? other := by
  unfold get?
  congr 1
  unfold setContent
  split
  · change List.find? _ _ = _
    rw [find?_rewrite]
    cases found : store.find? other with
    | none => rfl
    | some cell => simp [find?_id found, different]
  · simp [add, find?, List.find?_append, Ne.symm different]

/-- A write gives its region the content and counts one more update. -/
theorem get?_setContent_self (store : Store) (id content : String) :
    (store.setContent id content).get? id =
      some { id, content, updates := store.updateCount id + 1 } := by
  cases found : store.find? id with
  | none =>
    have absent : store.cells.find? (·.id == id) = none := found
    simp [setContent, contains, get?, updateCount, add, find?, List.find?_append, absent,
      Cell.snapshot]
  | some cell =>
    have same : cell.id = id := find?_id found
    have rewritten :
        (store.setContent id content).find? id = some (cell.write content) := by
      simp only [setContent, contains, found, Option.isSome_some, if_true]
      change List.find? _ _ = _
      rw [find?_rewrite, found]
      simp [same]
    simp [get?, updateCount, rewritten, found, Cell.snapshot, Cell.write, same]

end PanelBoard.Region.Store
