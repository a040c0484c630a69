import Mathlib.Logic.Function.Iterate
import PanelBoard.Proofs.Poll.Cycle

/-!
# Time

What passing time does to one loop. The track of a loop, the loop together with
the due times of its timers, evolves by itself: every instant at which timers
are due starts one cycle for each of the loop's own timers due then, and timers
of other loops leave it alone.
-/

namespace PanelBoard.Poll

/-- A loop and the due times of its timers. -/
structure Track where
  loop : Loop
  pending : List Nat

namespace Track

/-- A track after changes were delivered on one of the loop's GETs. -/
def deliver (instant request : Nat) (changes : List Response) (track : Track) : Track where
  loop := track.loop.deliver instant request changes
  pending := track.pending ++
    List.replicate (completionCount changes) (instant + track.loop.request.refresh)

/-- A track after one more cycle. -/
def cycle (instant : Nat) (track : Track) : Track where
  loop := track.loop.cycle instant
  pending := track.pending ++
    List.replicate track.loop.prompt (instant + track.loop.request.refresh)

/-- A track after its timers due at an instant fired. -/
def fire (instant : Nat) (track : Track) : Track :=
  (cycle instant)^[track.pending.count instant]
    { track with pending := track.pending.filter (· ≠ instant) }

end Track

namespace Board

/-- The due times of a loop's timers, in the order in which the timers were set. -/
def pending (board : Board) (index : Nat) : List Nat :=
  (board.timers.filter (·.loop == index)).map Timer.due

/-- The track of a loop. -/
def track? (board : Board) (index : Nat) : Option Track :=
  (board.loops[index]?).map fun loop => ⟨loop, board.pending index⟩

variable {board : Board} {index other : Nat}

theorem track?_eq_some_iff {track : Track} :
    board.track? index = some track ↔
      board.loops[index]? = some track.loop ∧ board.pending index = track.pending := by
  unfold track?
  constructor
  · intro found
    obtain ⟨loop, present, rfl⟩ := Option.map_eq_some_iff.mp found
    exact ⟨present, rfl⟩
  · rintro ⟨present, same⟩
    rw [present, Option.map_some, same]

/-- A pending due time is that of a timer of the loop. -/
theorem mem_pending {track : Track} (found : board.track? index = some track) {due : Nat}
    (member : due ∈ track.pending) :
    ∃ timer ∈ board.timers, timer.loop = index ∧ timer.due = due := by
  rw [← (track?_eq_some_iff.mp found).2] at member
  simpa [pending, and_assoc] using member

/-! ## Operations on one loop -/

namespace Moves

variable {before after : Board} {change : Loop → Loop} {count : Loop → Nat}

/-- Timers set for one loop are pending for that loop. -/
theorem pending (moves : Moves index change count before after) :
    after.pending other = before.pending other ++
      if index = other then
        (before.loops[index]?).elim [] fun loop =>
          List.replicate (count loop) (before.now + loop.request.refresh)
      else [] := by
  unfold Board.pending
  rw [moves.timers, List.filter_append, List.map_append, newTimers]
  congr 1
  cases before.loops[index]? <;> by_cases same : index = other <;> simp [same]

/-- An operation reaches the track of the loop it is for. -/
theorem track? (moves : Moves index change count before after) :
    after.track? other =
      if index = other then
        (before.track? other).map fun track =>
          ⟨change track.loop, track.pending ++
            List.replicate (count track.loop) (before.now + track.loop.request.refresh)⟩
      else before.track? other := by
  unfold Board.track?
  rw [moves.loops, moves.pending]
  by_cases same : index = other
  · subst same
    cases present : before.loops[index]? <;> simp [present]
  · simp [same, List.getElem?_modify_ne]

/-- An operation that sets no timer leaves what is pending. -/
theorem track?_of_silent (moves : Moves index change (fun _ => 0) before after) :
    after.track? other =
      if index = other then
        (before.track? other).map fun track => { track with loop := change track.loop }
      else before.track? other := by
  simpa using moves.track?

end Moves

/-- A delivery reaches the track of the loop it is for. -/
theorem track?_foldl_receive (request : Nat) (changes : List Response) :
    (changes.foldl (receive index request) board).track? other =
      if index = other then (board.track? other).map (Track.deliver board.now request changes)
      else board.track? other :=
  (Moves.foldl_receive ..).track?

/-- A started cycle reaches the track of its loop. -/
theorem track?_startCycle :
    (board.startCycle index).track? other =
      if index = other then (board.track? other).map (Track.cycle board.now)
      else board.track? other :=
  (Moves.startCycle ..).track?

/-- Cycles started in a row reach a track as often as its loop is named. -/
theorem track?_foldl_startCycle (indices : List Nat) :
    (indices.foldl startCycle board).track? other =
      (board.track? other).map (Track.cycle board.now)^[indices.count other] := by
  induction indices generalizing board with
  | nil => simp
  | cons index rest ih =>
      rw [List.foldl_cons, ih, startCycle_now, track?_startCycle]
      by_cases same : index = other
      · subst same
        rw [if_pos rfl, List.count_cons_self, Option.map_map, Function.iterate_succ]
      · rw [if_neg same, List.count_cons_of_ne same]

/-! ## Firing -/

/-- Timers that fall due start a cycle each. -/
theorem fireAt_eq (instant : Nat) :
    board.fireAt instant =
      ((board.timers.filter (·.due == instant)).map Timer.loop).foldl startCycle
        { board with
          now := instant
          timers := board.timers.filter fun timer => !(timer.due == instant) } := by
  simp [fireAt, List.partition_eq_filter_filter, Function.comp_def]

theorem count_due (timers : List Timer) (instant : Nat) :
    ((timers.filter (·.due == instant)).map Timer.loop).count index =
      ((timers.filter (·.loop == index)).map Timer.due).count instant := by
  induction timers with
  | nil => rfl
  | cons timer rest ih =>
      by_cases due : timer.due = instant <;> by_cases own : timer.loop = index <;>
        simp [due, own, ih]

/-- Timers kept by their due times are kept in the track of their loop. -/
theorem pending_filter (board : Board) (index : Nat) (keep : Nat → Bool) :
    pending { board with timers := board.timers.filter fun timer => keep timer.due } index =
      (board.pending index).filter keep := by
  unfold pending
  rw [List.filter_map, List.filter_filter, List.filter_filter]
  congr 2
  funext timer
  exact Bool.and_comm ..

/-- Firing reaches a track through its own timers only. -/
theorem track?_fireAt (instant : Nat) :
    (board.fireAt instant).track? index = (board.track? index).map (Track.fire instant) := by
  rw [fireAt_eq, track?_foldl_startCycle, count_due]
  cases present : board.loops[index]? with
  | none => simp [track?, present]
  | some loop =>
      have waiting := board.pending_filter index fun due => !(due == instant)
      have apart : (fun due => !(due == instant)) = fun due => decide (due ≠ instant) := by
        funext due
        simp [beq_eq_decide]
      rw [apart] at waiting
      simp only [track?, present, Option.map_some, Track.fire, ← waiting]
      rfl

/-! ## Passing time -/

/-- Timers that are still to fall due do not fall due before the next due time. -/
theorem nextDue?_le {timers : List Timer} {after deadline instant : Nat}
    (found : nextDue? timers after deadline = some instant) {timer : Timer}
    (member : timer ∈ timers) (later : after < timer.due) : instant ≤ timer.due := by
  by_cases within : timer.due ≤ deadline
  · refine (List.min?_eq_some_iff.mp found).2 _ ?_
    simp only [List.mem_filter, List.mem_map, Bool.and_eq_true, decide_eq_true_eq]
    exact ⟨⟨timer, member, rfl⟩, later, within⟩
  · have bounds := nextDue?_bounds found
    omega

/-- Without a next due time, timers that are still to fall due do so after the deadline. -/
theorem nextDue?_eq_none_iff {timers : List Timer} {after deadline : Nat} :
    nextDue? timers after deadline = none ↔
      ∀ timer ∈ timers, after < timer.due → deadline < timer.due := by
  simp [nextDue?, List.min?_eq_none_iff]

theorem runUntil_of_none {deadline after : Nat}
    (none : nextDue? board.timers after deadline = none) :
    board.runUntil deadline after = { board with now := deadline } := by
  rw [runUntil]
  split
  · rfl
  · next found => rw [none] at found; cases found

theorem runUntil_of_some {deadline after instant : Nat}
    (found : nextDue? board.timers after deadline = some instant) :
    board.runUntil deadline after = (board.fireAt instant).runUntil deadline instant := by
  rw [runUntil]
  split
  · next none => rw [none] at found; cases found
  · next next same =>
      rw [found] at same
      cases same
      rfl

/-- While no timer falls due nothing happens, wherever the clock of the board stands. -/
theorem runUntil_of_quiet {deadline after middle : Nat} (early : after ≤ middle)
    (quiet : ∀ timer ∈ board.timers, after < timer.due → middle < timer.due) (instant : Nat) :
    runUntil deadline middle { board with now := instant } = board.runUntil deadline after := by
  have same : nextDue? board.timers middle deadline = nextDue? board.timers after deadline := by
    unfold nextDue?
    congr 1
    refine List.filter_congr fun due member => ?_
    obtain ⟨timer, timed, rfl⟩ := List.mem_map.mp member
    have bound := quiet timer timed
    rw [Bool.eq_iff_iff]
    simp only [Bool.and_eq_true, decide_eq_true_eq]
    omega
  cases next : nextDue? board.timers after deadline with
  | none =>
      rw [runUntil_of_none next]
      exact runUntil_of_none (same.trans next)
  | some due =>
      rw [runUntil_of_some next]
      exact runUntil_of_some (same.trans next)

/-- Time may be stopped at any instant that no timer precedes. -/
theorem runUntil_eq_fireAt {deadline after instant : Nat} (sooner : after < instant)
    (within : instant ≤ deadline)
    (first : ∀ timer ∈ board.timers, after < timer.due → instant ≤ timer.due) :
    board.runUntil deadline after = (board.fireAt instant).runUntil deadline instant := by
  by_cases due : ∃ timer ∈ board.timers, timer.due = instant
  · refine runUntil_of_some (List.min?_eq_some_iff.mpr ⟨?_, ?_⟩)
    · obtain ⟨timer, member, rfl⟩ := due
      simp only [List.mem_filter, List.mem_map, Bool.and_eq_true, decide_eq_true_eq]
      exact ⟨⟨timer, member, rfl⟩, sooner, within⟩
    · intro other member
      simp only [List.mem_filter, List.mem_map, Bool.and_eq_true, decide_eq_true_eq] at member
      obtain ⟨⟨timer, timed, rfl⟩, later, -⟩ := member
      exact first timer timed later
  -- Firing moves the clock only, and the next due time is that of the board as it was.
  · have apart : ∀ timer ∈ board.timers, timer.due ≠ instant := by
      intro timer member same
      exact due ⟨timer, member, same⟩
    have quiet : board.fireAt instant = { board with now := instant } := by
      have ready : board.timers.filter (·.due == instant) = [] := by simpa using apart
      have waiting : board.timers.filter (fun timer => !(timer.due == instant)) = board.timers := by
        simpa using apart
      rw [fireAt_eq, ready, waiting]
      rfl
    rw [quiet]
    refine (runUntil_of_quiet (Nat.le_of_lt sooner) (fun timer member later => ?_) instant).symm
    exact Nat.lt_of_le_of_ne (first timer member later) (apart timer member).symm

/-- To run up to an instant on the way and on from there is to run all the way. -/
theorem runUntil_runUntil {deadline middle after : Nat} (early : after ≤ middle)
    (late : middle ≤ deadline) :
    runUntil deadline middle (board.runUntil middle after) = board.runUntil deadline after := by
  fun_induction runUntil middle after board with
  | case1 after board none =>
      exact runUntil_of_quiet early (nextDue?_eq_none_iff.mp none) middle
  -- The first due time is the same with either deadline, and firing leads to the same board.
  | case2 after board instant soon _ ih =>
      have bounds := nextDue?_bounds soon
      rw [ih bounds.2]
      exact (runUntil_eq_fireAt bounds.1 (Nat.le_trans bounds.2 late)
        fun timer => nextDue?_le soon).symm

@[simp] theorem runUntil_now (deadline after : Nat) :
    (board.runUntil deadline after).now = deadline := by
  fun_induction runUntil deadline after board with
  | case1 => rfl
  | case2 _ _ _ _ _ ih => exact ih

@[simp] theorem advance_now (elapsed : Nat) : (board.advance elapsed).now = board.now + elapsed :=
  runUntil_now ..

@[simp] theorem advance_zero : board.advance 0 = board := by
  have none : nextDue? board.timers board.now (board.now + 0) = none :=
    nextDue?_eq_none_iff.mpr fun _ _ later => later
  rw [advance, runUntil_of_none none]
  rfl

/-- Letting time pass twice is letting it pass once. -/
theorem advance_advance (first second : Nat) :
    (board.advance first).advance second = board.advance (first + second) := by
  unfold advance
  rw [runUntil_now, Nat.add_assoc]
  exact runUntil_runUntil (Nat.le_add_right ..) (by omega)

/-- What holds of a track from instant to instant holds of it when time has passed. -/
theorem track?_runUntil {P : Nat → Track → Prop}
    (fires : ∀ {after instant track}, after < instant →
      (∀ due ∈ track.pending, after < due → instant ≤ due) → P after track →
      P instant (track.fire instant))
    (waits : ∀ {after deadline track}, after ≤ deadline →
      (∀ due ∈ track.pending, after < due → deadline < due) → P after track → P deadline track)
    {deadline after : Nat} (ordered : after ≤ deadline) {track : Track}
    (found : board.track? index = some track) (holds : P after track) :
    ∃ next, (board.runUntil deadline after).track? index = some next ∧ P deadline next := by
  fun_induction runUntil deadline after board generalizing track with
  | case1 after board none =>
      refine ⟨track, found, waits ordered ?_ holds⟩
      intro due member later
      obtain ⟨timer, timed, own, rfl⟩ := mem_pending found member
      exact nextDue?_eq_none_iff.mp none timer timed later
  | case2 after board instant soon _ ih =>
      have bounds := nextDue?_bounds soon
      refine ih bounds.2 (by rw [track?_fireAt, found]; rfl) (fires bounds.1 ?_ holds)
      intro due member later
      obtain ⟨timer, timed, own, rfl⟩ := mem_pending found member
      exact nextDue?_le soon timed later

end Board

end PanelBoard.Poll
