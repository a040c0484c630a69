import PanelBoard.Proofs.Poll.Clock

/-!
# The course of one loop

A run as one of its loops sees it: when its cycles were started from outside,
when completions were sent on its open channels, and how its track moved. A
property of all that is kept by a run if each thing that can happen to one loop
keeps it; what happens to other loops need not be looked at.
-/

namespace PanelBoard.Poll

namespace Track

/-- A track after the loop handled a change that none of its GETs reported. -/
def hear (change : Response) (track : Track) : Track :=
  { track with loop := { track.loop with streak := track.loop.streak.after change } }

/-- A track after the channel of a GET was closed. -/
def close (request : Nat) (track : Track) : Track :=
  { track with
    loop := { track.loop with
      gets := track.loop.gets.modify request ({ · with isOpen := false }) } }

end Track

namespace Board

/-! ## What a run reports of one loop -/

/-- What is observed step by step along a run. -/
def along {α : Type} (observe : Board → Step → List α) : Board → List Step → List α
  | _, [] => []
  | board, step :: rest => observe board step ++ along observe (board.step step).2 rest

@[simp] theorem run_nil (board : Board) : board.run [] = board := rfl

@[simp] theorem run_cons (board : Board) (step : Step) (rest : List Step) :
    board.run (step :: rest) = (board.step step).2.run rest := rfl

theorem run_append (board : Board) (first second : List Step) :
    board.run (first ++ second) = (board.run first).run second :=
  List.foldl_append

theorem along_append {α : Type} (observe : Board → Step → List α) (board : Board)
    (first second : List Step) :
    along observe board (first ++ second) =
      along observe board first ++ along observe (board.run first) second := by
  induction first generalizing board with
  | nil => rfl
  | cons step rest ih => simp [along, ih]

/-- The instants at which a step starts a cycle of a loop from outside: by putting
the loop on the board or by restarting it. -/
def startsIn (index : Nat) (board : Board) (step : Step) : List Nat :=
  match step, (board.step step).1 with
  | .start .., .started _ => if board.loops.length = index then [board.now] else []
  | .restart other, _ => if other = index ∧ index < board.loops.length then [board.now] else []
  | _, _ => []

/-- The instants at which a step sends completions on the open channel of a GET,
once for every completion. -/
def sendsIn (index request : Nat) (board : Board) (step : Step) : List Nat :=
  match step, (board.step step).1 with
  | .send other get changes, .sent =>
    if other = index ∧ get = request then List.replicate (completionCount changes) board.now
    else []
  | _, _ => []

/-- The instants at which a loop's cycles were started from outside. -/
def startsOf (index : Nat) (board : Board) (steps : List Step) : List Nat :=
  along (startsIn index) board steps

/-- The instants at which completions were sent on the open channel of a GET. -/
def sendsOf (index : Nat) (board : Board) (steps : List Step) (request : Nat) : List Nat :=
  along (sendsIn index request) board steps

/-! ## Timers belong to loops -/

/-- Every timer belongs to a loop on the board. -/
def Tidy (board : Board) : Prop :=
  ∀ timer ∈ board.timers, timer.loop < board.loops.length

/-- What holds of a board through clock changes, fired timers and cycles holds after time passed. -/
theorem advance_invariant {Q : Board → Prop}
    (clock : ∀ {board : Board} (instant : Nat), Q board → Q { board with now := instant })
    (take : ∀ {board : Board} (keep : Timer → Bool), Q board →
      Q { board with timers := board.timers.filter keep })
    (cycle : ∀ {board : Board} (index : Nat), Q board → Q (board.startCycle index))
    {board : Board} (holds : Q board) (elapsed : Nat) : Q (board.advance elapsed) := by
  have cycles : ∀ (indices : List Nat) {board : Board}, Q board →
      Q (indices.foldl startCycle board) := by
    intro indices
    induction indices with
    | nil => exact id
    | cons index rest ih => exact fun holds => ih (cycle index holds)
  unfold advance
  generalize board.now + elapsed = deadline
  generalize board.now = after
  fun_induction runUntil deadline after board with
  | case1 => exact clock _ holds
  | case2 _ _ instant _ _ ih =>
      apply ih
      rw [fireAt_eq]
      exact cycles _ (take _ (clock instant holds))

/-- An operation on one loop sets timers for that loop only. -/
theorem Moves.tidy {before after : Board} {index : Nat} {change : Loop → Loop} {count : Loop → Nat}
    (moves : Moves index change count before after) (tidy : Tidy before) : Tidy after := by
  intro timer member
  rw [moves.loops, List.length_modify]
  rw [moves.timers] at member
  rcases List.mem_append.mp member with old | new
  · exact tidy timer old
  · unfold newTimers at new
    cases present : before.loops[index]? with
    | none => simp [present] at new
    | some loop =>
        rw [present, Option.elim_some] at new
        obtain ⟨-, rfl⟩ := List.mem_replicate.mp new
        exact (List.getElem?_eq_some_iff.mp present).1

namespace Tidy

variable {board : Board}

theorem advance (tidy : Tidy board) (elapsed : Nat) : Tidy (board.advance elapsed) :=
  advance_invariant (fun _ => id)
    (fun _ tidy timer member => tidy timer (List.mem_filter.mp member).1)
    (fun index tidy => (Moves.startCycle _ index).tidy tidy) tidy elapsed

theorem addLoop (tidy : Tidy board) (request : Request) (transport : Transport) :
    Tidy (board.addLoop request transport) := by
  refine (Moves.startCycle ..).tidy fun timer member => ?_
  rw [List.length_append]
  exact Nat.lt_add_right _ (tidy timer member)

/-- Every step keeps timers with loops. -/
theorem step (tidy : Tidy board) (step : Step) : Tidy (board.step step).2 := by
  cases step with
  | start reference target refresh transport =>
      simp only [Board.step, startPoll]
      cases Request.create board.base reference target refresh with
      | error cause => exact tidy
      | ok request => exact tidy.addLoop request transport
  | advance elapsed => exact tidy.advance elapsed
  | send index request changes =>
      simp only [Board.step]
      split
      · exact tidy
      · split
        · exact (Moves.foldl_receive ..).tidy tidy
        · exact tidy
  | close index request =>
      simp only [Board.step]
      split
      · exact tidy
      · split
        · exact (Moves.closeGet ..).tidy tidy
        · exact tidy
  | restart index => exact (Moves.startCycle ..).tidy tidy
  | event index change => exact (Moves.handle change).tidy tidy

theorem run (tidy : Tidy board) (steps : List Step) : Tidy (board.run steps) := by
  induction steps generalizing board with
  | nil => exact tidy
  | cons step rest ih => exact ih (tidy.step step)

end Tidy

/-- A board before its first step. -/
structure Blank (board : Board) : Prop where
  loops : board.loops = []
  timers : board.timers = []

theorem Blank.tidy {board : Board} (blank : Blank board) : Tidy board := by
  intro timer member
  rw [blank.timers] at member
  exact (List.not_mem_nil member).elim

/-! ## What a step does to one loop -/

section Track

variable {board : Board} {index other : Nat}

theorem track?_eq_none_iff : board.track? index = none ↔ board.loops.length ≤ index := by
  rw [track?, Option.map_eq_none_iff, List.getElem?_eq_none_iff]

theorem Blank.track? (blank : Blank board) : board.track? index = none := by
  rw [track?_eq_none_iff, blank.loops]
  exact Nat.zero_le index

/-- A loop on the board has a track. -/
theorem track?_of_present {loop : Loop} (present : board.loops[index]? = some loop) :
    board.track? index = some ⟨loop, board.pending index⟩ :=
  track?_eq_some_iff.mpr ⟨present, rfl⟩

theorem track?_handle (change : Response) :
    (board.handle index change).2.track? other =
      if index = other then (board.track? other).map (Track.hear change)
      else board.track? other :=
  (Moves.handle change).track?_of_silent

theorem track?_closeGet (request : Nat) :
    (board.closeGet index request).track? other =
      if index = other then (board.track? other).map (Track.close request)
      else board.track? other :=
  (Moves.closeGet ..).track?_of_silent

/-- A loop put on the board starts its track with one cycle. -/
theorem track?_addLoop (tidy : Tidy board) (request : Request) (transport : Transport) :
    (board.addLoop request transport).track? index =
      if board.loops.length = index then
        some (Track.cycle board.now ⟨{ request, transport }, []⟩)
      else board.track? index := by
  have silent : board.pending board.loops.length = [] := by
    rw [pending, List.map_eq_nil_iff, List.filter_eq_nil_iff]
    intro timer member own
    have within := tidy timer member
    simp only [beq_iff_eq] at own
    omega
  unfold addLoop
  rw [track?_startCycle]
  by_cases same : board.loops.length = index
  · subst same
    rw [if_pos rfl, if_pos rfl]
    unfold track?
    simp only [List.getElem?_concat_length, Option.map_some]
    rw [← silent]
    rfl
  · rw [if_neg same, if_neg same]
    unfold track?
    rw [List.getElem?_append]
    split
    · rfl
    · next beyond =>
        have apart : index - board.loops.length ≠ 0 := by omega
        rw [List.getElem?_eq_none (Nat.le_of_not_lt beyond), List.getElem?_singleton, if_neg apart]
        rfl

end Track

/-! ## What a run does to one loop -/

/-- A property of the course of one loop: of the clock, the instants at which
its cycles were started from outside, the instants at which completions were
sent on each of its GETs, and its track. -/
abbrev CourseProperty :=
  Nat → List Nat → (Nat → List Nat) → Track → Prop

/-- Whatever can happen to a loop on a board keeps the property. -/
structure Kept (P : CourseProperty) : Prop where
  hears : ∀ {now starts sends track} (change : Response),
    P now starts sends track → P now starts sends (track.hear change)
  closes : ∀ {now starts sends track} (request : Nat),
    P now starts sends track → P now starts sends (track.close request)
  delivers : ∀ {now starts sends track request get} (changes : List Response),
    track.loop.gets[request]? = some get → get.isOpen = true → P now starts sends track →
    P now starts
      (fun other => sends other ++
        if request = other then List.replicate (completionCount changes) now else [])
      (track.deliver now request changes)
  restarts : ∀ {now starts sends track},
    P now starts sends track → P now (starts ++ [now]) sends (track.cycle now)
  fires : ∀ {after instant starts sends track}, after < instant →
    (∀ due ∈ track.pending, after < due → instant ≤ due) →
    P after starts sends track → P instant starts sends (track.fire instant)
  waits : ∀ {after deadline starts sends track}, after ≤ deadline →
    (∀ due ∈ track.pending, after < due → deadline < due) →
    P after starts sends track → P deadline starts sends track

namespace Kept

variable {P : CourseProperty} {board : Board} {index : Nat} {starts : List Nat}
  {sends : Nat → List Nat} {track : Track}

/-- A step keeps the property of a loop on the board. -/
theorem step (kept : Kept P) (tidy : Tidy board) (found : board.track? index = some track)
    (holds : P board.now starts sends track) (step : Step) :
    ∃ next, (board.step step).2.track? index = some next ∧
      P (board.step step).2.now (starts ++ startsIn index board step)
        (fun request => sends request ++ sendsIn index request board step) next := by
  have within : index < board.loops.length := by
    by_contra beyond
    rw [track?_eq_none_iff.mpr (Nat.le_of_not_lt beyond)] at found
    cases found
  cases step with
  | start reference target refresh transport =>
      have apart : board.loops.length ≠ index := by omega
      cases created : Request.create board.base reference target refresh with
      | error cause =>
          refine ⟨track, ?_, ?_⟩
          · simpa [Board.step, startPoll, created] using found
          · simpa [Board.step, startPoll, created, startsIn, sendsIn] using holds
      | ok request =>
          refine ⟨track, ?_, ?_⟩
          · simpa [Board.step, startPoll, created, track?_addLoop tidy, apart] using found
          · simpa [Board.step, startPoll, created, startsIn, sendsIn, apart, addLoop] using holds
  | advance elapsed =>
      obtain ⟨next, reached, holds⟩ := track?_runUntil (P := fun now => P now starts sends)
        kept.fires kept.waits (Nat.le_add_right board.now elapsed) found holds
      exact ⟨next, reached, by simpa [Board.step, startsIn, sendsIn] using holds⟩
  | send other request changes =>
      have present := (track?_eq_some_iff.mp found).1
      cases got : board.get? other request with
      | none =>
          refine ⟨track, by simpa [Board.step, got] using found, ?_⟩
          simpa [Board.step, got, startsIn, sendsIn] using holds
      | some get =>
          by_cases isOpen : get.isOpen = true
          · by_cases same : other = index
            · subst same
              have get_present : track.loop.gets[request]? = some get := by
                simpa [Board.get?, present] using got
              refine ⟨track.deliver board.now request changes, ?_, ?_⟩
              · simp [Board.step, got, isOpen, track?_foldl_receive, found]
              · simpa [Board.step, got, isOpen, startsIn, sendsIn] using
                  kept.delivers changes get_present isOpen holds
            · refine ⟨track, ?_, ?_⟩
              · simpa [Board.step, got, isOpen, track?_foldl_receive, same] using found
              · simpa [Board.step, got, isOpen, startsIn, sendsIn, same] using holds
          · refine ⟨track, by simpa [Board.step, got, isOpen] using found, ?_⟩
            simpa [Board.step, got, isOpen, startsIn, sendsIn] using holds
  | close other request =>
      cases got : board.get? other request with
      | none =>
          refine ⟨track, by simpa [Board.step, got] using found, ?_⟩
          simpa [Board.step, got, startsIn, sendsIn] using holds
      | some get =>
          by_cases isOpen : get.isOpen = true
          · have unmoved : (board.closeGet other request).now = board.now := rfl
            by_cases same : other = index
            · subst same
              refine ⟨track.close request, ?_, ?_⟩
              · simp [Board.step, got, isOpen, track?_closeGet, found]
              · simpa [Board.step, got, isOpen, startsIn, sendsIn, unmoved] using
                  kept.closes request holds
            · refine ⟨track, ?_, ?_⟩
              · simpa [Board.step, got, isOpen, track?_closeGet, same] using found
              · simpa [Board.step, got, isOpen, startsIn, sendsIn, unmoved] using holds
          · refine ⟨track, by simpa [Board.step, got, isOpen] using found, ?_⟩
            simpa [Board.step, got, isOpen, startsIn, sendsIn] using holds
  | restart other =>
      by_cases same : other = index
      · subst same
        refine ⟨track.cycle board.now, ?_, ?_⟩
        · simp [Board.step, track?_startCycle, found]
        · simpa [Board.step, startsIn, sendsIn, within] using kept.restarts holds
      · refine ⟨track, ?_, ?_⟩
        · simpa [Board.step, track?_startCycle, same] using found
        · simpa [Board.step, startsIn, sendsIn, same] using holds
  | event other change =>
      by_cases same : other = index
      · subst same
        refine ⟨track.hear change, ?_, ?_⟩
        · simp [Board.step, track?_handle, found]
        · simpa [Board.step, startsIn, sendsIn] using kept.hears change holds
      · refine ⟨track, ?_, ?_⟩
        · simpa [Board.step, track?_handle, same] using found
        · simpa [Board.step, startsIn, sendsIn] using holds

/-- A run keeps the property of a loop that is on the board when it begins. -/
theorem run (kept : Kept P) (tidy : Tidy board) (found : board.track? index = some track)
    (holds : P board.now starts sends track) (steps : List Step) :
    ∃ next, (board.run steps).track? index = some next ∧
      P (board.run steps).now (starts ++ startsOf index board steps)
        (fun request => sends request ++ sendsOf index board steps request) next := by
  induction steps generalizing board starts sends track with
  | nil => exact ⟨track, found, by simpa [startsOf, sendsOf, along] using holds⟩
  | cons step rest ih =>
      obtain ⟨middle, found, holds⟩ := kept.step tidy found holds step
      obtain ⟨last, found, holds⟩ := ih (tidy.step step) found holds
      refine ⟨last, found, ?_⟩
      simpa [startsOf, sendsOf, along, List.append_assoc] using holds

/-- A step that does not find a loop on the board sends it nothing, and at most
puts it on the board with one cycle. -/
theorem step_absent (tidy : Tidy board) (absent : board.track? index = none) (step : Step) :
    (∀ request, sendsIn index request board step = []) ∧
    ((board.step step).2.track? index = none ∧ startsIn index board step = [] ∨
      (board.step step).2.now = board.now ∧ startsIn index board step = [board.now] ∧
      ∃ request transport, (board.step step).2.track? index =
        some (Track.cycle board.now ⟨{ request, transport }, []⟩)) := by
  have beyond : board.loops.length ≤ index := track?_eq_none_iff.mp absent
  have outside : ¬ index < board.loops.length := Nat.not_lt.mpr beyond
  cases step with
  | start reference target refresh transport =>
      cases created : Request.create board.base reference target refresh with
      | error cause =>
          refine ⟨fun _ => by simp [sendsIn], .inl ⟨?_, ?_⟩⟩
          · simpa [Board.step, startPoll, created] using absent
          · simp [startsIn, Board.step, startPoll, created]
      | ok request =>
          refine ⟨fun _ => by simp [sendsIn], ?_⟩
          by_cases next : board.loops.length = index
          · refine .inr ⟨?_, ?_, request, transport, ?_⟩
            · simp [Board.step, startPoll, created, addLoop]
            · simp [startsIn, Board.step, startPoll, created, next]
            · simp [Board.step, startPoll, created, track?_addLoop tidy, next]
          · refine .inl ⟨?_, ?_⟩
            · simpa [Board.step, startPoll, created, track?_addLoop tidy, next] using absent
            · simp [startsIn, Board.step, startPoll, created, next]
  | advance elapsed =>
      refine ⟨fun _ => by simp [sendsIn], .inl ⟨?_, by simp [startsIn]⟩⟩
      refine track?_eq_none_iff.mpr (advance_invariant
        (Q := fun board => board.loops.length ≤ index)
        (fun _ => id) (fun _ => id) (fun _ few => ?_) beyond elapsed)
      rwa [(Moves.startCycle ..).loops, List.length_modify]
  | send other request changes =>
      by_cases same : other = index
      · subst same
        have got : board.get? other request = none := by
          simp [Board.get?, List.getElem?_eq_none beyond]
        refine ⟨fun _ => by simp [sendsIn, Board.step, got], .inl ⟨?_, by simp [startsIn]⟩⟩
        simpa [Board.step, got] using absent
      · refine ⟨fun _ => ?_, .inl ⟨?_, by simp [startsIn]⟩⟩
        · unfold sendsIn
          split <;> simp_all
        · simp only [Board.step]
          split
          · exact absent
          · split
            · rw [track?_foldl_receive, if_neg same]
              exact absent
            · exact absent
  | close other request =>
      refine ⟨fun _ => by simp [sendsIn], .inl ⟨?_, by simp [startsIn]⟩⟩
      simp only [Board.step]
      split
      · exact absent
      · split
        · rw [track?_closeGet]
          simp [absent]
        · exact absent
  | restart other =>
      refine ⟨fun _ => by simp [sendsIn], .inl ⟨?_, by simp [startsIn, outside]⟩⟩
      simp [Board.step, track?_startCycle, absent]
  | event other change =>
      refine ⟨fun _ => by simp [sendsIn], .inl ⟨?_, by simp [startsIn]⟩⟩
      simp [Board.step, track?_handle, absent]

/-- A run keeps the property of a loop that it puts on the board, if the loop's
first cycle gives it. -/
theorem run_absent (kept : Kept P)
    (begins : ∀ now request transport,
      P now [now] (fun _ => []) (Track.cycle now ⟨{ request, transport }, []⟩))
    (tidy : Tidy board) (absent : board.track? index = none) (steps : List Step)
    (found : (board.run steps).track? index = some track) :
    P (board.run steps).now (startsOf index board steps) (sendsOf index board steps) track := by
  -- The induction reaches the step that puts the loop on the board; `run` does the rest.
  induction steps generalizing board with
  | nil =>
      rw [run_nil, absent] at found
      cases found
  | cons step rest ih =>
      obtain ⟨unsent, still | ⟨unmoved, started, request, transport, begun⟩⟩ :=
        step_absent tidy absent step
      · have sends : sendsOf index board (step :: rest) =
            sendsOf index (board.step step).2 rest := by
          funext request
          simp [sendsOf, along, unsent]
        rw [sends, startsOf, along, still.2, List.nil_append]
        exact ih (tidy.step step) still.1 found
      · have first : P (board.step step).2.now [board.now] (fun _ => [])
            (Track.cycle board.now ⟨{ request, transport }, []⟩) := by
          rw [unmoved]
          exact begins ..
        obtain ⟨last, reached, holds⟩ := kept.run (tidy.step step) begun first rest
        have same : last = track := by
          rw [run_cons, reached] at found
          exact Option.some.inj found
        subst same
        have sends : sendsOf index board (step :: rest) =
            fun request => [] ++ sendsOf index (board.step step).2 rest request := by
          funext request
          simp [sendsOf, along, unsent]
        rw [sends, startsOf, along, started]
        exact holds

/-- A run from a blank board gives every loop the property, if the loop's first
cycle gives it. -/
theorem of_blank (kept : Kept P)
    (begins : ∀ now request transport,
      P now [now] (fun _ => []) (Track.cycle now ⟨{ request, transport }, []⟩))
    (blank : Blank board) {steps : List Step} {loop : Loop}
    (present : (board.run steps).loops[index]? = some loop) :
    P (board.run steps).now (startsOf index board steps) (sendsOf index board steps)
      ⟨loop, (board.run steps).pending index⟩ :=
  kept.run_absent begins blank.tidy blank.track? steps (track?_of_present present)

end Kept

end Board

end PanelBoard.Poll
