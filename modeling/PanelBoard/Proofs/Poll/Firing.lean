import Mathlib.Data.Multiset.DershowitzManna
import PanelBoard.Proofs.Poll.Rescheduling

/-!
# Firing timers one by one

Time passes by firing timers one after another, the earliest first and of those due
at one instant the one that was set first. A firing may set any number of timers, but
for later only, since refresh intervals are positive: so no deadline is preceded by
endless firing, and passing time is all of it.
-/

namespace PanelBoard.Poll.Board

/-- One timer fires: of those that are due by the deadline the earliest, and of those
due at its instant the one that was set first. -/
inductive Fires (deadline : Nat) (board : Board) : Board → Prop where
  | fire {before after : List Timer} {timer : Timer}
      (timers : board.timers = before ++ timer :: after) (within : timer.due ≤ deadline)
      (earliest : ∀ other ∈ after, timer.due ≤ other.due)
      (first : ∀ other ∈ before, timer.due < other.due) :
      Fires deadline board
        (startCycle { board with now := timer.due, timers := before ++ after } timer.loop)

/-- What firing does to the due times of one loop: one that is due goes, and one refresh
interval behind it stands for every completion of the GET that it starts. -/
inductive Countdown (refresh deadline : Nat) (dues : Multiset Nat) : Multiset Nat → Prop where
  | fire {due : Nat} {rest : Multiset Nat} (timers : dues = due ::ₘ rest) (within : due ≤ deadline)
      (completions : Nat) :
      Countdown refresh deadline dues (rest + Multiset.replicate completions (due + refresh))

/-! ## Firing ends -/

/-- How long before the deadline timers are due; those due behind it are left out. -/
def timeLeft (deadline : Nat) (dues : Multiset Nat) : Multiset Nat :=
  (dues.filter (· ≤ deadline)).map (deadline - ·)

/-- A firing takes the time left of one timer and gives less instead, any number of times. -/
theorem timeLeft_lt {deadline due : Nat} {rest added : Multiset Nat} (within : due ≤ deadline)
    (later : ∀ new ∈ added, due < new) :
    (timeLeft deadline (rest + added)).IsDershowitzMannaLT (timeLeft deadline (due ::ₘ rest)) := by
  refine ⟨timeLeft deadline rest, timeLeft deadline added, {deadline - due},
    Multiset.singleton_ne_zero _, ?_, ?_, ?_⟩
  · simp [timeLeft]
  · simp [timeLeft, within, add_comm]
  · intro left member
    obtain ⟨new, among, rfl⟩ := Multiset.mem_map.mp member
    obtain ⟨among, soon⟩ := Multiset.mem_filter.mp among
    have bound := later new among
    exact ⟨_, Multiset.mem_singleton_self _, by omega⟩

/-- Counting down ends before every deadline exactly if the refresh interval is positive. -/
theorem wellFounded_countdown_iff (refresh deadline : Nat) :
    (WellFounded fun next dues => Countdown refresh deadline dues next) ↔ 0 < refresh := by
  constructor
  · intro ends
    refine Nat.pos_of_ne_zero ?_
    rintro rfl
    have fires : Countdown 0 deadline {0} (0 + Multiset.replicate 1 (0 + 0)) :=
      .fire rfl (Nat.zero_le deadline) 1
    have again : Countdown 0 deadline {0} {0} := by simpa using fires
    exact ends.asymmetric _ _ again again
  · intro positive
    refine Subrelation.wf ?_ (InvImage.wf (timeLeft deadline)
      Multiset.wellFounded_isDershowitzMannaLT)
    rintro _ dues ⟨rfl, within, completions⟩
    exact timeLeft_lt within fun new member => by
      rw [Multiset.eq_of_mem_replicate member]
      omega

/-- Timers are set for later. -/
theorem later_newTimers (board : Board) (index : Nat) (count : Loop → Nat) :
    ∀ timer ∈ board.newTimers index count, board.now < timer.due := by
  intro timer member
  unfold newTimers at member
  cases present : board.loops[index]? with
  | none => simp [present] at member
  | some loop =>
      rw [present, Option.elim_some] at member
      rw [(List.mem_replicate.mp member).2]
      exact Nat.lt_add_of_pos_right loop.request.refresh_pos

/-- When the timers of a board are due. -/
def dues (board : Board) : Multiset Nat :=
  (board.timers.map Timer.due : List Nat)

/-- No deadline is preceded by endless firing. -/
theorem wellFounded_fires (deadline : Nat) :
    WellFounded fun next board : Board => Fires deadline board next := by
  refine Subrelation.wf ?_ (InvImage.wf (fun board : Board => timeLeft deadline board.dues)
    Multiset.wellFounded_isDershowitzMannaLT)
  rintro _ board ⟨timers, within, -, -⟩
  next before after timer =>
    let waiting : Board := { board with now := timer.due, timers := before ++ after }
    have set : (waiting.startCycle timer.loop).dues =
        waiting.dues + ((waiting.newTimers timer.loop Loop.prompt).map Timer.due : List Nat) := by
      rw [dues, (Moves.startCycle waiting timer.loop).timers, List.map_append, ← Multiset.coe_add]
      rfl
    have due : board.dues = timer.due ::ₘ waiting.dues := by
      rw [dues, timers, List.map_append, List.map_cons, ← Multiset.coe_add, ← Multiset.cons_coe,
        Multiset.add_cons, Multiset.coe_add, ← List.map_append]
      rfl
    rw [InvImage, due]
    change (timeLeft deadline (waiting.startCycle timer.loop).dues).IsDershowitzMannaLT _
    rw [set]
    refine timeLeft_lt within fun new member => ?_
    obtain ⟨timer, among, rfl⟩ := List.mem_map.mp (Multiset.mem_coe.mp member)
    exact later_newTimers waiting _ _ timer among

/-- A firing counts down for the loop of the timer and changes nothing for other loops. -/
theorem Fires.countdown {deadline index : Nat} {board next : Board} {loop : Loop}
    (fires : Fires deadline board next) (present : board.loops[index]? = some loop) :
    (next.pending index : Multiset Nat) = board.pending index ∨
      Countdown loop.request.refresh deadline (board.pending index) (next.pending index) := by
  obtain ⟨timers, within, -, -⟩ := fires
  next before after timer =>
    let waiting : Board := { board with now := timer.due, timers := before ++ after }
    have moved : (waiting.startCycle timer.loop).pending index = _ :=
      (Moves.startCycle waiting timer.loop).pending
    by_cases own : timer.loop = index
    · subst own
      have still : waiting.loops[timer.loop]? = some loop := present
      have gone : (board.pending timer.loop : Multiset Nat) =
          timer.due ::ₘ (waiting.pending timer.loop : Multiset Nat) := by
        simp [pending, timers, waiting]
      rw [if_pos rfl, still, Option.elim_some] at moved
      right
      rw [moved, ← Multiset.coe_add, Multiset.coe_replicate]
      exact .fire gone within loop.prompt
    · left
      rw [moved, if_neg own, List.append_nil, pending, pending, timers]
      simp [waiting, own]

/-! ## Operations only set further timers -/

/-- On a board an operation does not look at the timers: it sets the same ones behind any. -/
def SetsTimersOn (board : Board) (operation : Board → Board) : Prop :=
  ∃ added, ∀ timers,
    operation { board with timers } = { operation board with timers := timers ++ added }

/-- An operation never looks at the timers. -/
def SetsTimers (operation : Board → Board) : Prop :=
  ∀ board, SetsTimersOn board operation

namespace SetsTimers

variable (index : Nat)

theorem of_unseen {operation : Board → Board}
    (unseen : ∀ board timers, operation { board with timers } = { operation board with timers }) :
    SetsTimers operation := by
  intro board
  refine ⟨[], fun timers => ?_⟩
  rw [unseen, List.append_nil]

theorem unmoved : SetsTimers id :=
  of_unseen fun _ _ => rfl

theorem comp {first second : Board → Board} (earlier : SetsTimers first)
    (later : SetsTimers second) : SetsTimers (second ∘ first) := by
  intro board
  obtain ⟨before, earlier⟩ := earlier board
  obtain ⟨behind, later⟩ := later (first board)
  refine ⟨before ++ behind, fun timers => ?_⟩
  rw [Function.comp_apply, earlier, later, List.append_assoc]
  rfl

/-- Operations that agree on a board whatever its timers are set the same ones. -/
theorem on_board {operation other : Board → Board} {board : Board} (sets : SetsTimers other)
    (same : ∀ timers, operation { board with timers } = other { board with timers }) :
    SetsTimersOn board operation := by
  obtain ⟨added, sets⟩ := sets board
  refine ⟨added, fun timers => ?_⟩
  rw [same, sets, ← same board.timers]

theorem handle (change : Response) : SetsTimers fun board => (board.handle index change).2 :=
  of_unseen fun board timers => by
    cases present : board.loops[index]? with
    | none => rw [handle_of_absent present, handle_of_absent (by exact present)]
    | some loop => rw [handle_of_present present, handle_of_present (by exact present)]; rfl

theorem updateLoop (change : Loop → Loop) : SetsTimers fun board => board.updateLoop index change :=
  of_unseen fun _ _ => rfl

theorem schedule : SetsTimers fun board => board.schedule index := by
  intro board
  cases present : board.loops[index]? with
  | none =>
      refine ⟨[], fun timers => ?_⟩
      simp [Board.schedule, present]
  | some loop =>
      refine ⟨[⟨board.now + loop.request.refresh, index⟩], fun timers => ?_⟩
      simp [Board.schedule, present]

theorem receive (request : Nat) (change : Response) :
    SetsTimers fun board => board.receive index request change := by
  intro board
  cases present : board.loops[index]? with
  | none => exact unmoved.on_board fun _ => receive_of_absent present
  | some loop =>
      by_cases complete : change.isComplete = true
      · have noted := (handle index change).comp
          (updateLoop index (Loop.complete request board.now))
        exact (noted.comp (schedule index)).on_board fun _ => receive_of_complete present complete
      · have incomplete : change.isComplete = false := by simpa using complete
        exact (handle index change).on_board fun _ => receive_of_incomplete incomplete

theorem foldl_receive (request : Nat) (changes : List Response) :
    SetsTimers fun board => changes.foldl (Board.receive index request) board := by
  induction changes with
  | nil => exact unmoved
  | cons change changes ih => exact (receive index request change).comp ih

theorem startCycle : SetsTimers fun board => board.startCycle index := by
  intro board
  cases present : board.loops[index]? with
  | none => exact unmoved.on_board fun _ => startCycle_of_absent present
  | some loop =>
      have sends : SetsTimers fun other => other.updateLoop index fun loop =>
          { loop with
            cycles := loop.cycles + 1
            gets := loop.gets ++ [{ url := loop.request.url, issuedAt := board.now }] } :=
        updateLoop index _
      have reports := foldl_receive index loop.gets.length (loop.transport loop.cycles)
      exact (sends.comp reports).on_board fun _ => startCycle_of_present present

end SetsTimers

/-- A cycle sets the same timers behind any others. -/
theorem startCycle_with (board : Board) (index : Nat) (timers : List Timer) :
    startCycle { board with timers } index =
      { board.startCycle index with timers := timers ++ board.newTimers index Loop.prompt } := by
  obtain ⟨added, sets⟩ := SetsTimers.startCycle index board
  have own := congrArg Board.timers (sets board.timers)
  have moved := (Moves.startCycle board index).timers
  have same : added = board.newTimers index Loop.prompt :=
    List.append_cancel_left (own.symm.trans moved)
  rw [← same]
  exact sets timers

/-! ## Passing time is firing -/

/-- All timers are due later than an instant. -/
def LaterThan (instant : Nat) (board : Board) : Prop :=
  ∀ timer ∈ board.timers, instant < timer.due

/-- No timer is set for the present instant. -/
theorem filter_newTimers (board : Board) (index : Nat) (count : Loop → Nat) :
    (board.newTimers index count).filter (·.due == board.now) = [] ∧
      (board.newTimers index count).filter (fun new => !(new.due == board.now)) =
        board.newTimers index count := by
  have later : ∀ new ∈ board.newTimers index count, new.due ≠ board.now := fun new member =>
    Nat.ne_of_gt (later_newTimers board index count new member)
  constructor
  · exact List.filter_eq_nil_iff.mpr fun new member => by simpa using later new member
  · exact List.filter_eq_self.mpr fun new member => by simpa using later new member

/-- A board on which a timer has fired while the others wait. -/
def fired (board : Board) (timer : Timer) (others : List Timer) : Board :=
  startCycle { board with now := timer.due, timers := others } timer.loop

section Fired

variable {board : Board} {before after : List Timer} {timer : Timer}

theorem timers_fired (others : List Timer) :
    (board.fired timer others).timers =
      others ++ newTimers { board with now := timer.due, timers := others } timer.loop Loop.prompt :=
  (Moves.startCycle _ timer.loop).timers

/-- Behind a firing no timer is due sooner. -/
theorem first_fired (timers : board.timers = before ++ timer :: after)
    (first : ∀ other ∈ board.timers, timer.due ≤ other.due) :
    ∀ other ∈ (board.fired timer (before ++ after)).timers, timer.due ≤ other.due := by
  intro other member
  rw [timers_fired, List.mem_append, List.mem_append] at member
  obtain (old | old) | new := member
  · exact first other (by simp [timers, old])
  · exact first other (by simp [timers, old])
  · exact Nat.le_of_lt (later_newTimers _ _ _ other new)

/-- Behind a firing the others of its instant are due. -/
theorem due_fired (none : ∀ other ∈ before, ¬ (other.due == timer.due) = true) :
    (board.fired timer (before ++ after)).timers.filter (·.due == timer.due) =
      after.filter (·.due == timer.due) := by
  have unready := (filter_newTimers { board with now := timer.due, timers := before ++ after }
    timer.loop Loop.prompt).1
  rw [timers_fired, List.filter_append, List.filter_append, unready, List.append_nil,
    List.filter_eq_nil_iff.mpr none, List.nil_append]

/-- All timers of an instant fire alike if the first of them has fired on its own. -/
theorem fireAt_fired (timers : board.timers = before ++ timer :: after)
    (none : ∀ other ∈ before, ¬ (other.due == timer.due) = true) :
    (board.fired timer (before ++ after)).fireAt timer.due = board.fireAt timer.due := by
  let waiting : Board := { board with now := timer.due, timers := before ++ after }
  have due : board.timers.filter (·.due == timer.due) =
      timer :: after.filter (·.due == timer.due) := by
    rw [timers, List.filter_append, List.filter_eq_nil_iff.mpr none, List.nil_append,
      List.filter_cons_of_pos (by simp)]
  have remain := (filter_newTimers waiting timer.loop Loop.prompt).2
  have cycled := startCycle_with waiting timer.loop
    (board.timers.filter fun other => !(other.due == timer.due))
  rw [fireAt_eq, fireAt_eq, due_fired none, due, List.map_cons, List.foldl_cons]
  congr 1
  refine Eq.trans ?_ cycled.symm
  rw [timers_fired, timers]
  simp only [List.filter_append]
  rw [remain]
  simp [fired, waiting]

end Fired

/-- The timers that are due at an instant fire one by one. -/
theorem reaches_fireAt {deadline instant : Nat} (within : instant ≤ deadline) (ready : List Timer)
    {board : Board} (due : board.timers.filter (·.due == instant) = ready)
    (first : ∀ timer ∈ board.timers, instant ≤ timer.due)
    (still : ready = [] → board.now = instant) :
    Relation.ReflTransGen (Fires deadline) board (board.fireAt instant) := by
  induction ready generalizing board with
  | nil =>
      have waiting : board.timers.filter (fun timer => !(timer.due == instant)) = board.timers := by
        simpa using due
      rw [fireAt_eq, due, waiting, ← still rfl]
      exact .refl
  | cons timer ready ih =>
      obtain ⟨before, after, timers, none, own, rest⟩ := List.filter_eq_cons_iff.mp due
      obtain rfl : timer.due = instant := eq_of_beq own
      have past : ∀ other ∈ before, timer.due < other.due := by
        intro other member
        have bound := first other (by simp [timers, member])
        have apart : other.due ≠ timer.due := by simpa using none other member
        omega
      have fires : Fires deadline board (board.fired timer (before ++ after)) :=
        .fire timers within (fun other member => first other (by simp [timers, member])) past
      rw [← fireAt_fired timers none]
      exact .head fires (ih ((due_fired none).trans rest) (first_fired timers first)
        fun _ => startCycle_now)

/-- Cycles only set timers for later. -/
theorem LaterThan.foldl_startCycle {board : Board} {instant : Nat} (later : board.LaterThan instant)
    (present : instant ≤ board.now) (indices : List Nat) :
    (indices.foldl startCycle board).LaterThan instant := by
  induction indices generalizing board with
  | nil => exact later
  | cons index indices ih =>
      refine ih (fun timer member => ?_) (by rw [startCycle_now]; exact present)
      rw [(Moves.startCycle board index).timers] at member
      obtain old | new := List.mem_append.mp member
      · exact later timer old
      · exact Nat.lt_of_le_of_lt present (later_newTimers _ _ _ timer new)

theorem laterThan_fireAt {board : Board} {instant : Nat}
    (first : ∀ timer ∈ board.timers, instant ≤ timer.due) :
    (board.fireAt instant).LaterThan instant := by
  rw [fireAt_eq]
  apply LaterThan.foldl_startCycle _ (Nat.le_refl instant)
  intro timer member
  obtain ⟨waiting, apart⟩ := List.mem_filter.mp member
  have bound := first timer waiting
  have different : timer.due ≠ instant := by simpa using apart
  omega

/-- Time passes by firing timers until none is due. -/
theorem reaches_runUntil {deadline after : Nat} {board : Board} (later : board.LaterThan after) :
    ∃ last, Relation.ReflTransGen (Fires deadline) board last ∧ last.LaterThan deadline ∧
      board.runUntil deadline after = { last with now := deadline } := by
  fun_induction runUntil deadline after board with
  | case1 after board none =>
      exact ⟨board, .refl, fun timer member =>
        nextDue?_eq_none_iff.mp none timer member (later timer member), rfl⟩
  | case2 after board instant soon _ ih =>
      have first : ∀ timer ∈ board.timers, instant ≤ timer.due := fun timer member =>
        nextDue?_le soon member (later timer member)
      obtain ⟨last, reached, spent, same⟩ := ih (laterThan_fireAt first)
      obtain ⟨timer, timed, own⟩ := List.mem_map.mp (List.mem_filter.mp (List.min?_mem soon)).1
      have fired := reaches_fireAt (nextDue?_bounds soon).2 _ rfl first fun none =>
        absurd own (by simpa using List.filter_eq_nil_iff.mp none timer timed)
      exact ⟨last, fired.trans reached, spent, same⟩

/-- On a board that has run, timers are due later than the present instant. -/
theorem laterThan_run {origin : Board} (blank : Blank origin) (steps : List Step) :
    (origin.run steps).LaterThan (origin.run steps).now := by
  intro timer member
  have within := blank.tidy.run steps timer member
  have accounts := Accounts.kept.of_blank Accounts.begins blank
    (List.getElem?_eq_getElem within)
  refine accounts.later timer.due (List.mem_map_of_mem ?_)
  simpa using member

/-- Passing time ends, whatever transports report: firing timers one by one comes to an end
before every deadline, and passing time is to fire until no timer is due. -/
theorem advance_fires {origin : Board} (blank : Blank origin) (steps : List Step) (elapsed : Nat) :
    let board := origin.run steps
    ∃ last, Relation.ReflTransGen (Fires (board.now + elapsed)) board last ∧
      (∀ next, ¬ Fires (board.now + elapsed) last next) ∧
      board.advance elapsed = { last with now := board.now + elapsed } := by
  intro board
  obtain ⟨last, reached, spent, same⟩ := reaches_runUntil (laterThan_run blank steps)
  refine ⟨last, reached, fun next fires => ?_, same⟩
  cases fires with
  | fire timers within => exact Nat.not_lt.mpr within (spent _ (by simp [timers]))

/-! ## Pauses -/

/-- Any number of pauses add up. -/
theorem run_advances (board : Board) (pauses : List Nat) :
    board.run (pauses.map .advance) = board.advance pauses.sum := by
  induction pauses generalizing board with
  | nil => exact advance_zero.symm
  | cons first rest ih => exact (ih (board.advance first)).trans (advance_advance ..)

/-- At a pause nothing is left that is due. -/
theorem laterThan_advance {origin : Board} (blank : Blank origin) (steps : List Step)
    (elapsed : Nat) :
    ((origin.run steps).advance elapsed).LaterThan ((origin.run steps).now + elapsed) := by
  have later := laterThan_run blank (steps ++ [.advance elapsed])
  rw [run_append, run_cons, run_nil] at later
  have now : ((origin.run steps).advance elapsed).now = (origin.run steps).now + elapsed :=
    advance_now elapsed
  exact now ▸ later

/-- Time may be cut anywhere, between generations of timers or just when timers of several
loops are due: the board that is reached is the same with any pauses. At a pause nothing
is left that is due, so that firing goes on behind it with what is due next. -/
theorem time_cut_anywhere {origin : Board} (blank : Blank origin) (steps : List Step) :
    let board := origin.run steps
    (∀ first second, (board.advance first).advance second = board.advance (first + second)) ∧
    (∀ pauses : List Nat, board.run (pauses.map .advance) = board.advance pauses.sum) ∧
    ∀ elapsed, (board.advance elapsed).LaterThan (board.now + elapsed) :=
  ⟨fun _ _ => advance_advance .., run_advances _, laterThan_advance blank steps⟩

/-- A run of two loops whose timers come to be due at the same instants, one of them
with two completions of each GET. -/
def crossingRun : List Step :=
  [.start "" "left" 5 fun _ => [.done 500 ""],
    .start "" "right" 10 fun _ => [.done 200 "a", .done 500 ""]]

/-- A pause just when both loops are due leaves out no GET and doubles none. -/
theorem time_cut_anywhere_crossing :
    let board := bare.run crossingRun
    (board.advance 10).advance 10 = board.advance 20 ∧
    (board.advance 10).loops.map Loop.issueTimes = [[0, 5, 10], [0, 10, 10]] ∧
    (board.advance 20).loops.map Loop.issueTimes =
      [[0, 5, 10, 15, 20], [0, 10, 10, 20, 20, 20, 20]] ∧
    ∀ timer ∈ (board.advance 10).timers, 10 < timer.due := by
  intro board
  have blank : Blank bare := ⟨rfl, rfl⟩
  obtain ⟨cut, -, later⟩ := time_cut_anywhere blank crossingRun
  exact ⟨cut 10 10, by decide +kernel, by decide +kernel, later 10⟩

end PanelBoard.Poll.Board
