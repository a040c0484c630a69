import PanelBoard.Proofs.Region.Writing

/-!
# What a store lists

A region is listed from when it comes into the store, at the place that it then
gets. Registering it again and writing to it change neither, so a store whose
regions are all announced beforehand lists the same regions in the same order
for good.
-/

namespace PanelBoard.Region.Store

/-- The regions of a store with their places. -/
def listing (store : Store) : List (String × Nat) :=
  store.cells.map fun cell => (cell.id, cell.place)

theorem contains_eq_isSome (store : Store) (id : String) :
    store.contains id = (store.get? id).isSome := by
  simp [contains, get?]

/-- The regions in a store are those that it lists. -/
theorem contains_iff_listed {store : Store} {id : String} :
    store.contains id = true ↔ id ∈ store.listing.map Prod.fst := by
  simp [contains, find?, listing]

/-- A write to a region in the store changes nothing about the listing. -/
theorem listing_setContent {store : Store} {id : String} (present : store.contains id = true)
    (content : String) : (store.setContent id content).listing = store.listing := by
  rw [setContent, if_pos present, listing, listing, List.map_map]
  refine List.map_congr_left fun cell _ => ?_
  simp only [Function.comp_apply]
  split <;> rfl

/-- A region that was not in the store is listed last. -/
theorem listing_register {store : Store} {id : String} (absent : store.contains id = false)
    (initial : String) :
    (store.register id initial).listing = store.listing ++ [(id, store.listing.length)] := by
  simp [register, absent, add, listing, size]

/-- Registering a region gives it its initial content, unless it was there before. -/
theorem get?_register (store : Store) (id initial other : String) :
    (store.register id initial).get? other =
      (store.get? other).or (if id = other then some { id, content := initial, updates := 0 }
        else none) := by
  cases present : store.contains id with
  | true =>
      rw [register, if_pos present]
      by_cases same : id = other
      · subst same
        rw [contains_eq_isSome] at present
        obtain ⟨snapshot, found⟩ := Option.isSome_iff_exists.mp present
        simp [found]
      · simp [same]
  | false =>
      have added : (store.register id initial).get? other = ((store.find? other).or
          (if id = other then some { id, content := initial, updates := 0, place := store.size }
            else none)).map Cell.snapshot := by
        rw [register, present]
        by_cases same : id = other <;> simp [add, get?, find?, List.find?_append, same]
      rw [added, Option.map_or, get?]
      split <;> rfl

/-- Registering a region is not an update. -/
@[simp] theorem updateCount_register (store : Store) (id initial other : String) :
    (store.register id initial).updateCount other = store.updateCount other := by
  rw [updateCount, get?_register, updateCount]
  cases store.get? other with
  | some snapshot => rfl
  | none => by_cases same : id = other <;> simp [same]

/-- A write is an update of its region and of no other. -/
theorem updateCount_setContent (store : Store) (id content other : String) :
    (store.setContent id content).updateCount other =
      store.updateCount other + if id = other then 1 else 0 := by
  by_cases same : id = other
  · subst same
    simp [updateCount, get?_setContent_self]
  · simp [updateCount, get?_setContent_of_ne _ _ (Ne.symm same), same]

/-- Regions whose places are in order are listed in that order. -/
theorem ids_snapshot {store : Store} {ids : List String} (listed : store.listing = ids.zipIdx) :
    store.snapshot.map Snapshot.id = ids := by
  have places : store.cells.map Cell.place = List.range' 0 ids.length := by
    have seconds := congrArg (List.map Prod.snd) listed
    rwa [listing, List.map_map, List.zipIdx_map_snd] at seconds
  have names : store.cells.map Cell.id = ids := by
    have firsts := congrArg (List.map Prod.fst) listed
    rwa [listing, List.map_map, List.zipIdx_map_fst] at firsts
  have sorted : store.cells.Pairwise fun a b => decide (a.place ≤ b.place) = true := by
    have ascending := places ▸ @List.pairwise_le_range' 0 ids.length 1
    exact (List.pairwise_map.mp ascending).imp fun le => decide_eq_true le
  rw [snapshot, List.mergeSort_of_pairwise sorted, List.map_map]
  exact names

end PanelBoard.Region.Store
