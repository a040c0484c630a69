import Mathlib.Data.List.Induction
import Mathlib.Data.List.Nodup
import PanelBoard.Poll.Reaction
import PanelBoard.Proofs.Region.Listing

/-!
# Histories of stores

A store is what its calls have made of it. The cells may come to stand in any
order between two calls, as the entries of a hash map do; the places in them
still give one listing, that of an ordered map.
-/

namespace PanelBoard.Region

/-- A call that may change a store. -/
inductive Call where
  | register (id initial : String)
  | write (id content : String)
  deriving Repr, DecidableEq

namespace Call

/-- The region that a call names. -/
def id : Call → String
  | .register id _ => id
  | .write id _ => id

@[simp] theorem id_register (region initial : String) : (register region initial).id = region := rfl

@[simp] theorem id_write (region content : String) : (write region content).id = region := rfl

/-- Is the call a write? -/
def isWrite : Call → Bool
  | .register .. => false
  | .write .. => true

/-- The text that a call writes to a region. -/
def written? (region : String) : Call → Option String
  | .register .. => none
  | .write id content => if id = region then some content else none

/-- The text that a call announces a region with. -/
def announced? (region : String) : Call → Option String
  | .register id initial => if id = region then some initial else none
  | .write .. => none

end Call

/-- The regions that calls name, each once, in the order in which they were first named. -/
def namedBy (calls : List Call) : List String :=
  (calls.map Call.id).eraseDups

/-- Did a region come up in a write first? -/
def cameByWrite (calls : List Call) (region : String) : Bool :=
  (calls.find? (·.id == region)).any Call.isWrite

/-- What calls make of a region: the text written last, or else the one announced
first, and the number of writes. -/
def Snapshot.after (calls : List Call) (region : String) : Snapshot :=
  let writes := calls.filterMap (Call.written? region)
  { id := region
    content := (writes.getLast?.or (calls.filterMap (Call.announced? region)).head?).getD ""
    updates := writes.length }

namespace Store

/-- The store after a call. -/
def call (store : Store) : Call → Store
  | .register id initial => store.register id initial
  | .write id content => store.setContent id content

/-- What a call logs. -/
def callEvents (store : Store) : Call → List Log.Event
  | .register .. => []
  | .write id _ => Poll.writeEvents store id

/-- The calls made on a new store one after another, what they logged, and the
store that they leave. Between calls the cells may change their order. -/
inductive History : List Call → List Log.Event → Store → Prop where
  | new : History [] [] {}
  | call {calls log store} (earlier : History calls log store) (call : Call) :
      History (calls ++ [call]) (log ++ store.callEvents call) (store.call call)
  | reorder {calls log store other} (earlier : History calls log store)
      (same : store.cells.Perm other.cells) : History calls log other

end Store

/-! ## What calls say of a region -/

section Calls

variable {calls : List Call} {region : String}

theorem mem_namedBy : region ∈ namedBy calls ↔ ∃ call ∈ calls, call.id = region := by
  simp [namedBy]

/-- A call adds the region it names at the end, if it was not named before. -/
theorem namedBy_concat (calls : List Call) (call : Call) :
    namedBy (calls ++ [call]) =
      if call.id ∈ namedBy calls then namedBy calls else namedBy calls ++ [call.id] := by
  have added : namedBy (calls ++ [call]) =
      namedBy calls ++ ([call.id].removeAll (calls.map Call.id)).eraseDups := by
    rw [namedBy, List.map_append, List.map_singleton, List.eraseDups_append, namedBy]
  rw [added]
  by_cases named : call.id ∈ namedBy calls
  · have kept : [call.id].removeAll (calls.map Call.id) = [] := by
      simpa [List.removeAll] using List.mem_eraseDups.mp named
    rw [if_pos named, kept, List.eraseDups_nil, List.append_nil]
  · have kept : [call.id].removeAll (calls.map Call.id) = [call.id] := by
      simpa [List.removeAll] using mt List.mem_eraseDups.mpr named
    rw [if_neg named, kept]
    rfl

theorem nodup_namedBy (calls : List Call) : (namedBy calls).Nodup := by
  induction calls using List.reverseRecOn with
  | nil => exact List.nodup_nil
  | append_singleton calls call ih =>
      rw [namedBy_concat]
      split
      next => exact ih
      next new => exact List.nodup_append.mpr ⟨ih, by simp, by grind⟩

theorem written?_of_ne {call : Call} (different : call.id ≠ region) :
    call.written? region = none := by
  cases call with
  | register => rfl
  | write id content => exact if_neg different

theorem announced?_of_ne {call : Call} (different : call.id ≠ region) :
    call.announced? region = none := by
  cases call with
  | register id initial => exact if_neg different
  | write => rfl

/-- Calls that do not name a region neither write nor announce it. -/
theorem silent_of_unnamed (unnamed : region ∉ namedBy calls) :
    calls.filterMap (Call.written? region) = [] ∧
      calls.filterMap (Call.announced? region) = [] := by
  have others : ∀ call ∈ calls, call.id ≠ region := by
    intro call member same
    exact unnamed (mem_namedBy.mpr ⟨call, member, same⟩)
  constructor
  · exact List.filterMap_eq_nil_iff.mpr fun call member => written?_of_ne (others call member)
  · exact List.filterMap_eq_nil_iff.mpr fun call member => announced?_of_ne (others call member)

/-- A region that calls name is written or announced by one of them. -/
theorem spoken_of_named (named : region ∈ namedBy calls) :
    calls.filterMap (Call.written? region) ≠ [] ∨
      calls.filterMap (Call.announced? region) ≠ [] := by
  obtain ⟨call, member, rfl⟩ := mem_namedBy.mp named
  cases call with
  | register id initial =>
      refine .inr (List.ne_nil_of_mem (a := initial) (List.mem_filterMap.mpr ⟨_, member, ?_⟩))
      exact if_pos rfl
  | write id content =>
      refine .inl (List.ne_nil_of_mem (a := content) (List.mem_filterMap.mpr ⟨_, member, ?_⟩))
      exact if_pos rfl

/-- A call makes nothing of the regions that it does not name. -/
theorem after_concat_of_ne {call : Call} (different : call.id ≠ region) :
    Snapshot.after (calls ++ [call]) region = Snapshot.after calls region := by
  simp [Snapshot.after, List.filterMap_append, written?_of_ne different,
    announced?_of_ne different]

/-- A write gives its region the text and counts one more update. -/
theorem after_concat_write (calls : List Call) (region content : String) :
    Snapshot.after (calls ++ [.write region content]) region =
      { id := region, content, updates := (Snapshot.after calls region).updates + 1 } := by
  simp [Snapshot.after, List.filterMap_append, Call.written?, List.filterMap_cons]

/-- Announcing a region makes nothing of it if it was named before. -/
theorem after_concat_register_of_named (named : region ∈ namedBy calls) (initial : String) :
    Snapshot.after (calls ++ [.register region initial]) region = Snapshot.after calls region := by
  have written : (calls ++ [Call.register region initial]).filterMap (Call.written? region) =
      calls.filterMap (Call.written? region) := by
    simp [List.filterMap_append, List.filterMap_cons, Call.written?]
  have announced : (calls ++ [Call.register region initial]).filterMap (Call.announced? region) =
      calls.filterMap (Call.announced? region) ++ [initial] := by
    simp [List.filterMap_append, Call.announced?]
  simp only [Snapshot.after, written, announced]
  rcases spoken_of_named named with writes | announcements
  · obtain ⟨last, found⟩ := Option.ne_none_iff_exists'.mp
      (mt List.getLast?_eq_none_iff.mp writes)
    simp [found]
  · obtain ⟨first, rest, spoken⟩ := List.exists_cons_of_ne_nil announcements
    simp only [spoken, List.cons_append, List.head?_cons]

/-- A region comes into being with the text that it is announced with. -/
theorem after_concat_register_of_unnamed (unnamed : region ∉ namedBy calls) (initial : String) :
    Snapshot.after (calls ++ [.register region initial]) region =
      { id := region, content := initial, updates := 0 } := by
  obtain ⟨writes, announcements⟩ := silent_of_unnamed unnamed
  simp [Snapshot.after, List.filterMap_append, List.filterMap_cons, Call.written?,
    Call.announced?, writes, announcements]

theorem updates_after_of_unnamed (unnamed : region ∉ namedBy calls) :
    (Snapshot.after calls region).updates = 0 := by
  simp [Snapshot.after, (silent_of_unnamed unnamed).1]

/-- How a region came up is settled by the calls that name it. -/
theorem cameByWrite_concat_of_named (named : region ∈ namedBy calls) (call : Call) :
    cameByWrite (calls ++ [call]) region = cameByWrite calls region := by
  obtain ⟨first, member, same⟩ := mem_namedBy.mp named
  have found : (calls.find? (·.id == region)).isSome :=
    List.find?_isSome.mpr ⟨first, member, beq_iff_eq.mpr same⟩
  rw [cameByWrite, List.find?_append, Option.or_of_isSome found, cameByWrite]

theorem cameByWrite_concat_of_unnamed {call : Call} (unnamed : call.id ∉ namedBy calls) :
    cameByWrite (calls ++ [call]) call.id = call.isWrite := by
  have absent : calls.find? (·.id == call.id) = none := by
    refine List.find?_eq_none.mpr fun other member same => ?_
    exact unnamed (mem_namedBy.mpr ⟨other, member, by simpa using same⟩)
  simp [cameByWrite, List.find?_append, absent]

end Calls

/-! ## The cells that calls leave -/

/-- A region in the store, at a place. -/
def Snapshot.cell (snapshot : Snapshot) (place : Nat) : Cell :=
  { id := snapshot.id, content := snapshot.content, updates := snapshot.updates, place }

/-- The cells that calls leave, by their places. -/
def cellsAfter (calls : List Call) : List Cell :=
  (namedBy calls).zipIdx.map fun listed => (Snapshot.after calls listed.1).cell listed.2

theorem places_cellsAfter (calls : List Call) :
    (cellsAfter calls).map Cell.place = List.range (namedBy calls).length := by
  rw [cellsAfter, List.map_map, List.range_eq_range', ← List.zipIdx_map_snd]
  rfl

theorem snapshots_cellsAfter (calls : List Call) :
    (cellsAfter calls).map Cell.snapshot = (namedBy calls).map (Snapshot.after calls) := by
  conv_rhs => rw [← List.zipIdx_map_fst 0 (namedBy calls), List.map_map]
  rw [cellsAfter, List.map_map]
  rfl

theorem ids_cellsAfter (calls : List Call) : (cellsAfter calls).map Cell.id = namedBy calls := by
  conv_rhs => rw [← List.zipIdx_map_fst 0 (namedBy calls)]
  rw [cellsAfter, List.map_map]
  rfl

theorem eq_of_mem_cellsAfter {calls : List Call} {cell : Cell} (member : cell ∈ cellsAfter calls) :
    cell = (Snapshot.after calls cell.id).cell cell.place := by
  obtain ⟨listed, -, rfl⟩ := List.mem_map.mp member
  rfl

/-- A call that names no new region leaves the places, and changes its region only. -/
theorem cellsAfter_concat_of_named {calls : List Call} (call : Call)
    (named : call.id ∈ namedBy calls) :
    cellsAfter (calls ++ [call]) = (cellsAfter calls).map fun cell =>
      if cell.id = call.id then (Snapshot.after (calls ++ [call]) call.id).cell cell.place
      else cell := by
  rw [cellsAfter, namedBy_concat, if_pos named, cellsAfter, List.map_map]
  refine List.map_congr_left fun listed _ => ?_
  by_cases same : listed.1 = call.id
  · rw [Function.comp_apply, same]
    exact (if_pos rfl).symm
  · rw [after_concat_of_ne (Ne.symm same)]
    exact (if_neg same).symm

/-- A call that names a new region adds a cell at the next place. -/
theorem cellsAfter_concat_of_unnamed {calls : List Call} (call : Call)
    (unnamed : call.id ∉ namedBy calls) :
    cellsAfter (calls ++ [call]) = cellsAfter calls ++
      [(Snapshot.after (calls ++ [call]) call.id).cell (cellsAfter calls).length] := by
  have places : (cellsAfter calls).length = (namedBy calls).length := by simp [cellsAfter]
  rw [cellsAfter, namedBy_concat, if_neg unnamed, List.zipIdx_append, List.map_append, places,
    cellsAfter, Nat.zero_add]
  congr 1
  refine List.map_congr_left fun listed member => ?_
  have known : listed.1 ∈ namedBy calls := (List.mem_zipIdx' member).2 ▸ List.getElem_mem _
  rw [after_concat_of_ne]
  intro same
  exact unnamed (same ▸ known)

namespace Store

theorem contains_iff_mem {store : Store} {region : String} :
    store.contains region = true ↔ region ∈ store.cells.map Cell.id := by
  simp [contains, find?]

/-- The order of the cells does not decide which regions are in the store. -/
theorem contains_of_perm {store other : Store} (same : store.cells.Perm other.cells)
    (region : String) : store.contains region = other.contains region := by
  rw [Bool.eq_iff_iff, contains_iff_mem, contains_iff_mem, (same.map Cell.id).mem_iff]

/-- A call does the same to a store whatever the order of its cells. -/
theorem cells_call_of_perm {store other : Store} (same : store.cells.Perm other.cells)
    (call : Call) : (store.call call).cells.Perm (other.call call).cells := by
  cases call with
  | register id initial =>
      simp only [Store.call, register, contains_of_perm same id]
      split
      · exact same
      · simpa only [add, size, same.length_eq] using same.append_right _
  | write id content =>
      simp only [Store.call, setContent, contains_of_perm same id]
      split
      · exact same.map _
      · simpa only [add, size, same.length_eq] using same.append_right _

theorem callEvents_of_perm {store other : Store} (same : store.cells.Perm other.cells)
    (call : Call) : store.callEvents call = other.callEvents call := by
  cases call with
  | register => rfl
  | write id content => simp only [callEvents, Poll.writeEvents, contains_of_perm same id]

theorem contains_cellsAfter {calls : List Call} {region : String} :
    (Store.mk (cellsAfter calls)).contains region = true ↔ region ∈ namedBy calls := by
  rw [contains_iff_mem, ids_cellsAfter]

/-- Announcing a region does to the cells that calls leave what one more call does. -/
theorem register_cellsAfter (calls : List Call) (region initial : String) :
    (Store.mk (cellsAfter calls)).register region initial =
      ⟨cellsAfter (calls ++ [.register region initial])⟩ := by
  by_cases named : region ∈ namedBy calls
  · rw [register, if_pos (contains_cellsAfter.mpr named),
      cellsAfter_concat_of_named (.register region initial) named,
      Call.id_register, after_concat_register_of_named named]
    congr 1
    refine (List.map_id _).symm.trans (List.map_congr_left fun cell member => ?_)
    split
    next same => exact (eq_of_mem_cellsAfter member).trans (by rw [same])
    next => rfl
  · rw [register, if_neg (mt contains_cellsAfter.mp named),
      cellsAfter_concat_of_unnamed (.register region initial) named,
      Call.id_register, after_concat_register_of_unnamed named]
    rfl

/-- A write does to the cells that calls leave what one more call does. -/
theorem setContent_cellsAfter (calls : List Call) (region content : String) :
    (Store.mk (cellsAfter calls)).setContent region content =
      ⟨cellsAfter (calls ++ [.write region content])⟩ := by
  by_cases named : region ∈ namedBy calls
  · rw [setContent, if_pos (contains_cellsAfter.mpr named),
      cellsAfter_concat_of_named (.write region content) named,
      Call.id_write, after_concat_write]
    congr 1
    refine List.map_congr_left fun cell member => ?_
    simp only [beq_iff_eq]
    split
    next same =>
        conv_lhs => rw [eq_of_mem_cellsAfter member, same]
        rfl
    next => rfl
  · rw [setContent, if_neg (mt contains_cellsAfter.mp named),
      cellsAfter_concat_of_unnamed (.write region content) named,
      Call.id_write, after_concat_write, updates_after_of_unnamed named]
    rfl

theorem call_cellsAfter (calls : List Call) (call : Call) :
    (Store.mk (cellsAfter calls)).call call = ⟨cellsAfter (calls ++ [call])⟩ := by
  cases call with
  | register region initial => exact register_cellsAfter calls region initial
  | write region content => exact setContent_cellsAfter calls region content

/-- What a call logs, by whether its region was named before. -/
theorem callEvents_cellsAfter (calls : List Call) (call : Call) :
    (Store.mk (cellsAfter calls)).callEvents call =
      if call.isWrite = true ∧ call.id ∉ namedBy calls then [.unregisteredRegion call.id]
      else [] := by
  cases call with
  | register => rfl
  | write region content =>
      simp only [callEvents, Poll.writeEvents, contains_cellsAfter, Call.isWrite, Call.id_write,
        true_and, ite_not]

/-- The regions that came up in a write, in the order in which they did. -/
def unannounced (calls : List Call) : List String :=
  (namedBy calls).filter (cameByWrite calls)

theorem unannounced_concat (calls : List Call) (call : Call) :
    unannounced (calls ++ [call]) = unannounced calls ++
      if call.isWrite = true ∧ call.id ∉ namedBy calls then [call.id] else [] := by
  have others : (namedBy calls).filter (cameByWrite (calls ++ [call])) = unannounced calls :=
    List.filter_congr fun region named => cameByWrite_concat_of_named named call
  rw [unannounced, namedBy_concat]
  split
  next named => simp [others, named]
  next unnamed =>
    rw [List.filter_append, others, List.filter_cons, cameByWrite_concat_of_unnamed unnamed]
    simp [unnamed]

/-! ## Histories -/

section History

variable {calls : List Call} {log : List Log.Event} {store : Store}

/-- However the cells were reordered on the way, they are those that the calls
leave, and the log has one event for each region that came up in a write. -/
theorem History.settled (history : History calls log store) :
    store.cells.Perm (cellsAfter calls) ∧
      log = (unannounced calls).map Log.Event.unregisteredRegion := by
  induction history with
  | new => exact ⟨.nil, rfl⟩
  | @call calls log store earlier call ih =>
      obtain ⟨same, logged⟩ := ih
      have tidy : store.cells.Perm (Store.mk (cellsAfter calls)).cells := same
      constructor
      · have called := cells_call_of_perm tidy call
        rwa [call_cellsAfter] at called
      · rw [logged, callEvents_of_perm tidy call, callEvents_cellsAfter, unannounced_concat,
          List.map_append]
        split <;> rfl
  | reorder earlier moved ih => exact ⟨moved.symm.trans ih.1, ih.2⟩

/-- The listing of cells that are those of calls, in any order, is by their places. -/
theorem snapshot_of_perm (same : store.cells.Perm (cellsAfter calls)) :
    store.snapshot = (namedBy calls).map (Snapshot.after calls) := by
  have ascending : (cellsAfter calls).Pairwise fun a b => a.place < b.place := by
    have places := List.pairwise_lt_range (n := (namedBy calls).length)
    rw [← places_cellsAfter] at places
    exact List.pairwise_map.mp places
  have distinct : ((cellsAfter calls).map Cell.place).Nodup :=
    places_cellsAfter calls ▸ List.nodup_range
  have within {cell : Cell} (member : cell ∈ store.cells.mergeSort (fun a b => a.place ≤ b.place)) :
      cell ∈ cellsAfter calls :=
    ((List.mergeSort_perm _ _).trans same).mem_iff.mp member
  have sorted : (store.cells.mergeSort (fun a b => a.place ≤ b.place)).Pairwise
      fun a b => decide (a.place ≤ b.place) = true :=
    List.pairwise_mergeSort (by grind) (by grind) _
  have tidy : store.cells.mergeSort (fun a b => a.place ≤ b.place) = cellsAfter calls := by
    apply List.Perm.eq_of_pairwise _ sorted _ ((List.mergeSort_perm _ _).trans same)
    · intro a b first second before after
      have tied : a.place = b.place :=
        Nat.le_antisymm (of_decide_eq_true before) (of_decide_eq_true after)
      exact List.inj_on_of_nodup_map distinct (within first) second tied
    · exact ascending.imp fun lt => decide_eq_true (Nat.le_of_lt lt)
  rw [snapshot, tidy, snapshots_cellsAfter]

theorem contains_of_perm_cellsAfter (same : store.cells.Perm (cellsAfter calls)) {region : String} :
    store.contains region = true ↔ region ∈ namedBy calls := by
  have tidy : store.cells.Perm (Store.mk (cellsAfter calls)).cells := same
  rw [contains_of_perm tidy, contains_cellsAfter]

/-- A region is looked up as the calls have left it. -/
theorem get?_of_perm (same : store.cells.Perm (cellsAfter calls)) (region : String) :
    store.get? region =
      if region ∈ namedBy calls then some (Snapshot.after calls region) else none := by
  have present := @contains_of_perm_cellsAfter _ _ same region
  rw [contains, Option.isSome_iff_exists] at present
  rw [get?]
  split
  next named =>
    obtain ⟨cell, found⟩ := present.mpr named
    have member : cell ∈ cellsAfter calls := same.mem_iff.mp (List.mem_of_find?_eq_some found)
    have name : cell.id = region := by simpa using List.find?_some found
    rw [found, Option.map_some, eq_of_mem_cellsAfter member, name]
    rfl
  next unnamed =>
    rw [Option.map_eq_none_iff, Option.eq_none_iff_forall_ne_some]
    exact fun cell found => unnamed (present.mp ⟨cell, found⟩)

/-- A listing of regions by name shows each at most once, so that a search by
name finds what is shown of it. -/
theorem find?_listed (calls : List Call) (region : String) :
    ((namedBy calls).map (Snapshot.after calls)).find? (·.id == region) =
      if region ∈ namedBy calls then some (Snapshot.after calls region) else none := by
  rw [List.find?_map]
  change ((namedBy calls).find? (· == region)).map _ = _
  split
  next named =>
    have listed : ((namedBy calls).find? (· == region)).isSome = true :=
      List.find?_isSome.mpr ⟨region, named, by simp⟩
    obtain ⟨name, found⟩ := Option.isSome_iff_exists.mp listed
    have same : name = region := by simpa using List.find?_some found
    rw [found, same, Option.map_some]
  next unnamed =>
    have absent : (namedBy calls).find? (· == region) = none := by
      refine List.find?_eq_none.mpr fun name member same => unnamed ?_
      exact beq_iff_eq.mp same ▸ member
    rw [absent, Option.map_none]

/-- Regions are listed in the order in which they were first named. -/
theorem ids_snapshot_of_perm (same : store.cells.Perm (cellsAfter calls)) :
    store.snapshot.map Snapshot.id = namedBy calls := by
  rw [snapshot_of_perm same, List.map_map]
  exact List.map_id (namedBy calls)

/-- There are as many regions as were named. -/
theorem size_of_perm (same : store.cells.Perm (cellsAfter calls)) :
    store.size = (namedBy calls).length := by
  rw [Store.size, same.length_eq, ← List.length_map Cell.id, ids_cellsAfter]

/-- A region is looked up as it is listed. -/
theorem get?_eq_find?_snapshot (same : store.cells.Perm (cellsAfter calls)) (region : String) :
    store.get? region = store.snapshot.find? (·.id == region) := by
  rw [snapshot_of_perm same, find?_listed, get?_of_perm same]

theorem content?_eq_find?_snapshot (same : store.cells.Perm (cellsAfter calls)) (region : String) :
    store.content? region =
      (store.snapshot.find? (·.id == region)).map Snapshot.content := by
  rw [content?_eq_map_get?, get?_eq_find?_snapshot same]

/-- A store keeps an ordered map. Whatever the calls and however the cells come to
stand, the places are the first numbers, each once. The listing shows each region
that a call named, once, in the order of first calls, with the text written last
or else announced first and the number of writes. Announcing a region again
changes nothing, and one event is logged for each region that came up in a write. -/
theorem lists_as_ordered_map (history : History calls log store) :
    (store.cells.map Cell.place).Perm (List.range store.size) ∧
    (∀ other : Store, store.cells.Perm other.cells → other.snapshot = store.snapshot) ∧
    store.snapshot = (namedBy calls).map (Snapshot.after calls) ∧ (namedBy calls).Nodup ∧
    (∀ region ∈ namedBy calls, ∀ initial, store.register region initial = store) ∧
    log = ((namedBy calls).filter (cameByWrite calls)).map Log.Event.unregisteredRegion ∧
    (∀ region, store.get? region = store.snapshot.find? (·.id == region) ∧
      store.content? region =
        (store.snapshot.find? (·.id == region)).map Snapshot.content) ∧
    store.size = store.snapshot.length ∧ (store.isEmpty = true ↔ store.snapshot = []) := by
  obtain ⟨same, logged⟩ := history.settled
  have listed := snapshot_of_perm same
  have size := size_of_perm same
  refine ⟨?_, ?_, listed, nodup_namedBy calls, ?_, logged, ?_, ?_, ?_⟩
  · rw [size, ← places_cellsAfter]
    exact same.map Cell.place
  · intro other moved
    rw [listed, snapshot_of_perm (moved.symm.trans same)]
  · intro region named initial
    apply if_pos
    exact (contains_of_perm_cellsAfter same).mpr named
  · intro region
    exact ⟨get?_eq_find?_snapshot same region, content?_eq_find?_snapshot same region⟩
  · rw [size, listed, List.length_map]
  · rw [Store.isEmpty, List.isEmpty_iff, listed, List.map_eq_nil_iff, ← List.length_eq_zero_iff,
      ← List.length_eq_zero_iff, ← size, Store.size]

end History

/-- A region announced, one that comes up in a write, both cells turned round, and
then both called again: the listing stays by first calls. -/
theorem lists_as_ordered_map_turned :
    let calls : List Call := [.register "b" "x", .write "a" "1", .register "a" "late",
      .write "a" "2"]
    ∃ log store, History calls log store ∧ store.cells.map Cell.id = ["a", "b"] ∧
      store.snapshot =
        [{ id := "b", content := "x", updates := 0 }, { id := "a", content := "2", updates := 2 }] ∧
      log = [.unregisteredRegion "a"] ∧ store.get? "a" = some ⟨"a", "2", 2⟩ := by
  intro calls
  have opened : History (calls.take 2) [.unregisteredRegion "a"]
      ⟨[⟨"a", "1", 1, 1⟩, ⟨"b", "x", 0, 0⟩]⟩ :=
    .reorder ((History.new.call (.register "b" "x")).call (.write "a" "1"))
      (by decide +kernel)
  have history := (opened.call (.register "a" "late")).call (.write "a" "2")
  obtain ⟨-, -, listed, -, -, logged, looked, -⟩ := lists_as_ordered_map history
  refine ⟨_, _, history, by decide +kernel, listed.trans (by decide +kernel),
    logged.trans (by decide +kernel), ?_⟩
  rw [(looked "a").1, listed]
  decide +kernel

end Store

end PanelBoard.Region
