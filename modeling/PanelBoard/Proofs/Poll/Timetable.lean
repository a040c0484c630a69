import Mathlib.Data.List.Forall2
import PanelBoard.Proofs.Poll.Course

/-!
# Timetables

There is no backoff and no retry. What is on the timetable of a board, its GETs
and its timers, depends on how many completions are reported and when, and on
nothing that they or other changes say, be it to a loop or to the display.
-/

namespace PanelBoard.Poll

/-! ## The same completions told differently -/

/-- Changes with the same completions. A completion may carry anything, and
changes that complete nothing may be inserted or removed anywhere. -/
inductive Rephrased : List Response → List Response → Prop where
  | nil : Rephrased [] []
  | completion {first second : Response} {rest others : List Response}
      (left : first.isComplete = true) (right : second.isComplete = true)
      (tail : Rephrased rest others) : Rephrased (first :: rest) (second :: others)
  | insert {change : Response} {rest others : List Response}
      (incomplete : change.isComplete = false) (tail : Rephrased rest others) :
      Rephrased rest (change :: others)
  | remove {change : Response} {rest others : List Response}
      (incomplete : change.isComplete = false) (tail : Rephrased rest others) :
      Rephrased (change :: rest) others

theorem completionCount_cons (change : Response) (rest : List Response) :
    completionCount (change :: rest) =
      completionCount rest + if change.isComplete then 1 else 0 :=
  List.countP_cons

/-- Changes are told differently exactly if they have equally many completions. -/
theorem rephrased_iff {changes others : List Response} :
    Rephrased changes others ↔ completionCount changes = completionCount others := by
  constructor
  · intro rephrased
    induction rephrased with
    | nil => rfl
    | completion left right _ ih => simp [completionCount_cons, left, right, ih]
    | insert incomplete _ ih => simp [completionCount_cons, incomplete, ih]
    | remove incomplete _ ih => simp [completionCount_cons, incomplete, ih]
  · intro same
    -- Incomplete changes go first on either side, then the heads are both completions.
    induction changes generalizing others with
    | nil =>
        induction others with
        | nil => exact .nil
        | cons other rest ih =>
            by_cases complete : other.isComplete = true
            · simp [completionCount_cons, complete] at same
            · have incomplete : other.isComplete = false := by simpa using complete
              exact .insert incomplete (ih (by simpa [completionCount_cons, incomplete] using same))
    | cons change rest ih =>
        by_cases complete : change.isComplete = true
        · induction others with
          | nil => simp [completionCount_cons, complete] at same
          | cons other others inner =>
              by_cases answered : other.isComplete = true
              · exact .completion complete answered
                  (ih (by simpa [completionCount_cons, complete, answered] using same))
              · have incomplete : other.isComplete = false := by simpa using answered
                exact .insert incomplete
                  (inner (by simpa [completionCount_cons, incomplete] using same))
        · have incomplete : change.isComplete = false := by simpa using complete
          exact .remove incomplete (ih (by simpa [completionCount_cons, incomplete] using same))

/-- Steps that differ at most in how completions are told: those that a transport
reports at once, and those that are sent later. What a loop is handed directly
comes from none of its GETs and may be any other change. -/
inductive Board.Step.Rephrased : Board.Step → Board.Step → Prop where
  | start {reference target : String} {refresh : Nat} {transport other : Transport}
      (told : ∀ request, Poll.Rephrased (transport request) (other request)) :
      Rephrased (.start reference target refresh transport) (.start reference target refresh other)
  | advance (elapsed : Nat) : Rephrased (.advance elapsed) (.advance elapsed)
  | send {loop request : Nat} {changes others : List Response}
      (told : Poll.Rephrased changes others) :
      Rephrased (.send loop request changes) (.send loop request others)
  | close (loop request : Nat) : Rephrased (.close loop request) (.close loop request)
  | restart (loop : Nat) : Rephrased (.restart loop) (.restart loop)
  | event (loop : Nat) (change other : Response) :
      Rephrased (.event loop change) (.event loop other)

/-- Does the step hand a change to a loop directly? Its answer is an outcome. -/
def Board.Step.isEvent : Board.Step → Bool
  | .event .. => true
  | _ => false

/-! ## What the schedule depends on -/

/-- The part of a loop that its schedule depends on. Of what its transport
reports only the number of completions matters. -/
structure Pace where
  request : Request
  cycles : Nat
  gets : List Get
  prompts : Nat → Nat

/-- The pace of a loop. -/
def Loop.pace (loop : Loop) : Pace where
  request := loop.request
  cycles := loop.cycles
  gets := loop.gets
  prompts request := completionCount (loop.transport request)

namespace Pace

/-- A pace after completions were delivered on one of the GETs. -/
def deliver (instant request count : Nat) (pace : Pace) : Pace :=
  { pace with gets := pace.gets.modify request (Get.completeAll instant count) }

/-- A pace after the channel of a GET was closed. -/
def close (request : Nat) (pace : Pace) : Pace :=
  { pace with gets := pace.gets.modify request ({ · with isOpen := false }) }

/-- The number of completions that are reported at once for the next GET. -/
def prompt (pace : Pace) : Nat :=
  pace.prompts pace.cycles

/-- A pace after one more cycle. -/
def cycle (instant : Nat) (pace : Pace) : Pace :=
  { pace with
    cycles := pace.cycles + 1
    gets := pace.gets ++
      [{ url := pace.request.url
         issuedAt := instant
         completedAt := List.replicate pace.prompt instant }] }

end Pace

/-- The part of a board that its schedule depends on. -/
structure Timetable where
  base : Url
  now : Nat
  timers : List Timer
  paces : List Pace

/-- A timetable after an operation on one loop. -/
def Timetable.move (index : Nat) (change : Pace → Pace) (count : Pace → Nat)
    (table : Timetable) : Timetable :=
  { table with
    timers := table.timers ++ (table.paces[index]?).elim [] fun pace =>
      List.replicate (count pace) ⟨table.now + pace.request.refresh, index⟩
    paces := table.paces.modify index change }

namespace Board

/-- The timetable of a board. -/
def timetable (board : Board) : Timetable where
  base := board.base
  now := board.now
  timers := board.timers
  paces := board.loops.map Loop.pace

variable {first second : Board} {index : Nat}

theorem timetable_eq_iff :
    first.timetable = second.timetable ↔
      first.base = second.base ∧ first.now = second.now ∧ first.timers = second.timers ∧
        first.loops.map Loop.pace = second.loops.map Loop.pace := by
  unfold timetable
  exact Timetable.mk.injEq .. ▸ Iff.rfl

/-- An operation on one loop is one on the timetable, if what it does to the
loop's pace depends on that pace only. -/
theorem Moves.timetable {before after : Board} {change : Loop → Loop} {count : Loop → Nat}
    {seen : Pace → Pace} {number : Pace → Nat} (moves : Moves index change count before after)
    (sees : ∀ loop, (change loop).pace = seen loop.pace)
    (counts : ∀ loop, count loop = number loop.pace) :
    after.timetable = before.timetable.move index seen number := by
  have base : after.base = before.base := congrArg Prod.fst moves.settings
  have paces : after.loops.map Loop.pace = (before.loops.map Loop.pace).modify index seen := by
    rw [moves.loops]
    exact map_modify sees
  have timers : after.timers = before.timers ++
      ((before.loops.map Loop.pace)[index]?).elim [] fun pace =>
        List.replicate (number pace) ⟨before.now + pace.request.refresh, index⟩ := by
    rw [moves.timers, newTimers, List.getElem?_map]
    cases before.loops[index]? with
    | none => rfl
    | some loop => simp [counts, Loop.pace]
  unfold Board.timetable Timetable.move
  rw [base, moves.now, paces, timers]

theorem timetable_handle (change : Response) :
    (first.handle index change).2.timetable = first.timetable := by
  have moved : (first.handle index change).2.timetable =
      first.timetable.move index id (fun _ => 0) :=
    (Moves.handle change).timetable (fun _ => rfl) (fun _ => rfl)
  rw [moved, Timetable.move, List.modify_id]
  cases first.timetable.paces[index]? <;> simp

theorem timetable_foldl_receive (request : Nat) (changes : List Response) :
    (changes.foldl (receive index request) first).timetable =
      first.timetable.move index
        (Pace.deliver first.timetable.now request (completionCount changes))
        (fun _ => completionCount changes) :=
  (Moves.foldl_receive ..).timetable (fun _ => rfl) (fun _ => rfl)

theorem timetable_startCycle :
    (first.startCycle index).timetable =
      first.timetable.move index (Pace.cycle first.timetable.now) Pace.prompt :=
  (Moves.startCycle ..).timetable (fun _ => rfl) (fun _ => rfl)

theorem timetable_closeGet (request : Nat) :
    (first.closeGet index request).timetable =
      first.timetable.move index (Pace.close request) (fun _ => 0) :=
  (Moves.closeGet ..).timetable (fun _ => rfl) (fun _ => rfl)

/-! ## Boards with one timetable -/

theorem startCycle_of_timetable (same : first.timetable = second.timetable) :
    (first.startCycle index).timetable = (second.startCycle index).timetable := by
  rw [timetable_startCycle, timetable_startCycle, same]

/-- Cycles started in a row lead from one timetable to one timetable. -/
theorem foldl_startCycle_of_timetable (same : first.timetable = second.timetable)
    (indices : List Nat) :
    (indices.foldl startCycle first).timetable = (indices.foldl startCycle second).timetable := by
  induction indices generalizing first second with
  | nil => exact same
  | cons index rest ih => exact ih (startCycle_of_timetable same)

theorem fireAt_of_timetable (same : first.timetable = second.timetable) (instant : Nat) :
    (first.fireAt instant).timetable = (second.fireAt instant).timetable := by
  obtain ⟨base, -, timers, paces⟩ := timetable_eq_iff.mp same
  rw [fireAt_eq, fireAt_eq, timers]
  refine foldl_startCycle_of_timetable (timetable_eq_iff.mpr ?_) _
  exact ⟨base, rfl, rfl, paces⟩

/-- Time passes alike on boards with one timetable. -/
theorem runUntil_of_timetable (same : first.timetable = second.timetable) (deadline after : Nat) :
    (first.runUntil deadline after).timetable = (second.runUntil deadline after).timetable := by
  fun_induction runUntil deadline after first generalizing second with
  | case1 after first quiet =>
      obtain ⟨base, -, timers, paces⟩ := timetable_eq_iff.mp same
      rw [runUntil_of_none (timers ▸ quiet)]
      exact timetable_eq_iff.mpr ⟨base, rfl, timers, paces⟩
  | case2 after first instant soon _ ih =>
      have timers : first.timers = second.timers := congrArg Timetable.timers same
      rw [second.runUntil_of_some (timers ▸ soon)]
      exact ih (fireAt_of_timetable same instant)

/-- Loops that are told of the same completions are put on boards with one timetable. -/
theorem addLoop_of_timetable (same : first.timetable = second.timetable) (request : Request)
    {transport other : Transport}
    (told : ∀ request, Rephrased (transport request) (other request)) :
    (first.addLoop request transport).timetable = (second.addLoop request other).timetable := by
  obtain ⟨base, now, timers, paces⟩ := timetable_eq_iff.mp same
  have length : first.loops.length = second.loops.length := by
    simpa using congrArg List.length paces
  have prompts : (fun request => completionCount (transport request)) =
      fun request => completionCount (other request) :=
    funext fun request => rephrased_iff.mp (told request)
  have fresh : Loop.pace { request, transport } = Loop.pace { request, transport := other } := by
    simp only [Loop.pace, prompts]
  unfold addLoop
  rw [length]
  refine startCycle_of_timetable (timetable_eq_iff.mpr ⟨base, now, timers, ?_⟩)
  rw [List.map_append, List.map_append, paces, List.map_singleton, List.map_singleton, fresh]

/-- Boards with one timetable have the same GETs. -/
theorem get?_of_timetable (same : first.timetable = second.timetable) (index request : Nat) :
    first.get? index request = second.get? index request := by
  have seen : ∀ board : Board, board.get? index request =
      (board.timetable.paces[index]?).bind (·.gets[request]?) := by
    intro board
    rw [timetable, List.getElem?_map, Option.bind_map]
    rfl
  rw [seen, seen, same]

/-- Steps that differ in how completions are told lead from one timetable to one
timetable, and answer alike unless they hand a change to a loop directly. -/
theorem step_of_timetable (same : first.timetable = second.timetable) {step other : Step}
    (told : step.Rephrased other) :
    (first.step step).2.timetable = (second.step other).2.timetable ∧
      (step.isEvent = false → (first.step step).1 = (second.step other).1) := by
  obtain ⟨base, now, -⟩ := timetable_eq_iff.mp same
  cases told with
  | @start reference target refresh transport other told =>
      cases created : Request.create second.base reference target refresh with
      | error cause => simp [Board.step, startPoll, base, created, same]
      | ok request =>
          simpa [Board.step, startPoll, base, created] using addLoop_of_timetable same request told
  | advance elapsed =>
      refine ⟨?_, fun _ => rfl⟩
      simp only [Board.step, Board.advance, now]
      exact runUntil_of_timetable same _ _
  | @send loop request changes others told =>
      have count : completionCount changes = completionCount others := rephrased_iff.mp told
      simp only [Board.step, get?_of_timetable same]
      cases second.get? loop request with
      | none => exact ⟨same, fun _ => rfl⟩
      | some get =>
          by_cases isOpen : get.isOpen = true
          · simp [isOpen, timetable_foldl_receive, same, count]
          · simp [isOpen, same]
  | close loop request =>
      simp only [Board.step, get?_of_timetable same]
      cases second.get? loop request with
      | none => exact ⟨same, fun _ => rfl⟩
      | some get =>
          by_cases isOpen : get.isOpen = true
          · simp [isOpen, timetable_closeGet, same]
          · simp [isOpen, same]
  | restart loop =>
      exact ⟨startCycle_of_timetable same, fun _ => rfl⟩
  | event loop change other =>
      refine ⟨?_, fun asks => by cases asks⟩
      simp only [Board.step]
      rw [timetable_handle, timetable_handle, same]

/-- Runs that differ in how completions are told lead from one timetable to one timetable. -/
theorem run_of_timetable (same : first.timetable = second.timetable) {steps others : List Step}
    (told : List.Forall₂ Step.Rephrased steps others) :
    (first.run steps).timetable = (second.run others).timetable := by
  induction told generalizing first second with
  | nil => exact same
  | cons alike _ ih => exact ih (step_of_timetable same alike).1

/-- Whatever completions carry, whatever the boards show and whatever is reported
besides completions, at every point of a run the loops have made the same cycles
and sent the same GETs, the same timers are pending, and the next step answers
the same, unless it asks for the outcome of a change. -/
theorem schedule_ignores_content {first second : Board} (blank : Blank first)
    (vacant : Blank second) (base : first.base = second.base) (now : first.now = second.now)
    {steps others : List Step} (told : List.Forall₂ Step.Rephrased steps others) (count : Nat) :
    let board := first.run (steps.take count)
    let other := second.run (others.take count)
    board.now = other.now ∧
    board.loops.map (fun loop => (loop.request, loop.cycles, loop.gets)) =
      other.loops.map (fun loop => (loop.request, loop.cycles, loop.gets)) ∧
    board.timers = other.timers ∧
    ∀ step otherStep, steps[count]? = some step → others[count]? = some otherStep →
      step.isEvent = false → (board.step step).1 = (other.step otherStep).1 := by
  intro board other
  have origin : first.timetable = second.timetable :=
    timetable_eq_iff.mpr ⟨base, now, by rw [blank.timers, vacant.timers],
      by rw [blank.loops, vacant.loops]⟩
  have same : board.timetable = other.timetable :=
    run_of_timetable origin (List.forall₂_take count told)
  obtain ⟨-, now, timers, paces⟩ := timetable_eq_iff.mp same
  refine ⟨now, ?_, timers, ?_⟩
  · have seen := congrArg (List.map fun pace => (pace.request, pace.cycles, pace.gets)) paces
    rwa [List.map_map, List.map_map] at seen
  · intro step otherStep present otherPresent asks
    have alike : step.Rephrased otherStep := by
      obtain ⟨within, rfl⟩ := List.getElem?_eq_some_iff.mp present
      obtain ⟨otherWithin, rfl⟩ := List.getElem?_eq_some_iff.mp otherPresent
      exact told.get within otherWithin
    exact (step_of_timetable same alike).2 asks

/-- A run of one loop over a transport that reports completions only. -/
def curtRun : List Step :=
  [.start "" "left" 5 fun _ => [.done 200 "up"], .advance 5, .send 0 0 [.done 500 ""],
    .event 0 (.done 0 ""), .close 0 0]

/-- The same run over a transport that reports every change, with other statuses. -/
def verboseRun : List Step :=
  [.start "" "left" 5 fun _ => [.opened, .headersReceived 404, .done 404 "none"], .advance 5,
    .send 0 0 [.loading 200, .done 200 "late", .loading 200], .event 0 .opened, .close 0 0]

/-- A board that shows something else polls at the same instants. -/
theorem schedule_ignores_content_verbose :
    let board := { bare with
      failureMessage := "gone", display := { regions := Region.Store.register {} "left" "wait" } }
    (board.run verboseRun).timers = [⟨10, 0⟩, ⟨10, 0⟩] ∧
    (board.run verboseRun).loops.map (fun loop => (loop.cycles, loop.gets.map Get.issuedAt)) =
      [(2, [0, 5])] := by
  intro board
  have told : List.Forall₂ Step.Rephrased curtRun verboseRun := by
    refine .cons (.start fun _ => ?_) (.cons (.advance 5) (.cons (.send ?_)
      (.cons (.event ..) (.cons (.close ..) .nil)))) <;> exact rephrased_iff.mpr (by decide)
  have timers : (bare.run curtRun).timers = [⟨10, 0⟩, ⟨10, 0⟩] := by decide +kernel
  have loops : (bare.run curtRun).loops.map
      (fun loop => (loop.cycles, loop.gets.map Get.issuedAt)) = [(2, [0, 5])] := by
    decide +kernel
  obtain ⟨-, paces, pending, -⟩ :=
    @schedule_ignores_content bare board ⟨rfl, rfl⟩ ⟨rfl, rfl⟩ rfl rfl _ _ told 5
  have issued := congrArg (List.map fun pace => (pace.2.1, pace.2.2.map Get.issuedAt)) paces
  rw [List.map_map, List.map_map] at issued
  exact ⟨pending.symm.trans timers, issued.symm.trans loops⟩

end Board

end PanelBoard.Poll
