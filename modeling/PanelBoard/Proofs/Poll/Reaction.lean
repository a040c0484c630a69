import PanelBoard.Poll.Board
import PanelBoard.Proofs.Region.Writing

/-!
# Reactions

What one handled change does, part by part. A change that completes nothing only
adds to the log. A completion decides the streak by itself, has its outcome
decided by the streak before it, writes what the outcome asks for and is counted.
-/

namespace PanelBoard.Poll

/-- The streak that a loop remembers when `latest` is its latest completion. -/
def Streak.since (latest : Option Response) : Streak :=
  if latest.all Response.isOk then .clear else .tolerating

/-- The streak after a change. -/
def Streak.after (streak : Streak) (response : Response) : Streak :=
  if response.isComplete then .since (some response) else streak

/-- A completion makes a loop forget every completion before it. -/
theorem Streak.after_of_complete (streak : Streak) {response : Response}
    (complete : response.isComplete = true) : streak.after response = .since (some response) := by
  simp [Streak.after, complete]

/-- The outcome of a completion that finds a streak. -/
def Streak.outcome (streak : Streak) (completion : Response) : Outcome :=
  if completion.isOk then .success else streak.recordFailure.1

/-- The regions after an outcome. A tolerated failure writes nothing. -/
def Outcome.write (outcome : Outcome) (target failureMessage body : String)
    (regions : Region.Store) : Region.Store :=
  match outcome with
  | .success => regions.setContent target body
  | .toleratedFailure => regions
  | .hardFailure => regions.setContent target failureMessage

section React

variable {target failureMessage : String} {streak : Streak} {display : Display}
  {response : Response}

/-- A change that completes nothing has no effect but a line in the log. -/
theorem react_of_incomplete (incomplete : response.isComplete = false) :
    react target failureMessage streak display response =
      { outcome := none, streak, display, log := [.notComplete response.state] } := by
  simp [react, incomplete]

/-- There is an outcome exactly if the change completes its request. -/
theorem react_outcome :
    (react target failureMessage streak display response).outcome =
      if response.isComplete then some (streak.outcome response) else none := by
  by_cases complete : response.isComplete = true
  · by_cases ok : response.isOk = true <;>
      simp [react, complete, ok, Streak.outcome, Streak.recordSuccess]
  · simp [react, complete]

/-- The streak after a change does not depend on what is displayed. -/
theorem react_streak :
    (react target failureMessage streak display response).streak = streak.after response := by
  by_cases complete : response.isComplete = true
  · by_cases ok : response.isOk = true
    · simp [react, complete, ok, Streak.after, Streak.since, Streak.recordSuccess]
    · cases streak <;>
        simp [react, complete, ok, Streak.after, Streak.since, Streak.recordFailure]
  · simp [react, complete, Streak.after]

/-- A completion writes what its outcome asks for. -/
theorem react_regions (complete : response.isComplete = true) :
    (react target failureMessage streak display response).display.regions =
      (streak.outcome response).write target failureMessage response.body display.regions := by
  by_cases ok : response.isOk = true
  · simp [react, complete, ok, Streak.outcome, Streak.recordSuccess, Outcome.write]
  · cases streak <;>
      simp [react, complete, ok, Streak.outcome, Streak.recordFailure, Outcome.write]

/-- A completion is counted by its status and by its outcome, and sets the gauge
to the new failure counter. -/
theorem react_metrics (complete : response.isComplete = true) :
    (react target failureMessage streak display response).display.metrics =
      (display.metrics.recordStatus target response.status).recordCycle target
        (streak.outcome response).label (streak.after response).failures := by
  by_cases ok : response.isOk = true
  · simp [react, complete, ok, Streak.outcome, Streak.after, Streak.since, Streak.recordSuccess]
  · cases streak <;>
      simp [react, complete, ok, Streak.outcome, Streak.after, Streak.since, Streak.recordFailure]

/-- A reaction leaves the regions of other targets as they are. -/
theorem get?_react_of_ne {region : String} (apart : region ≠ target) :
    (react target failureMessage streak display response).display.regions.get? region =
      display.regions.get? region := by
  by_cases complete : response.isComplete = true
  · rw [react_regions complete]
    cases streak.outcome response with
    | success => exact Region.Store.get?_setContent_of_ne _ _ apart
    | toleratedFailure => rfl
    | hardFailure => exact Region.Store.get?_setContent_of_ne _ _ apart
  · rw [react_of_incomplete (by simpa using complete)]

/-- A reaction finds its own region registered if it was. -/
theorem react_log (registered : display.regions.contains target = true) (region : String) :
    Log.Event.unregisteredRegion region ∉
      (react target failureMessage streak display response).log := by
  by_cases complete : response.isComplete = true
  · by_cases ok : response.isOk = true
    · simp [react, complete, ok, Streak.recordSuccess, writeEvents, registered]
    · cases streak <;>
        simp [react, complete, ok, Streak.recordFailure, writeEvents, registered]
  · simp [react, complete]

end React

/-- Modifying an element only depends on what the modification makes of it. -/
theorem modify_congr {α : Type} {list : List α} {index : Nat} {element : α} {first second : α → α}
    (present : list[index]? = some element) (agree : first element = second element) :
    list.modify index first = list.modify index second := by
  apply List.ext_getElem?
  intro other
  by_cases same : index = other
  · subst same
    simp [present, agree]
  · simp [List.getElem?_modify_ne, same]

namespace Board

variable {board : Board} {index : Nat} {response : Response}

/-- A change for a loop that is not there is lost. -/
theorem handle_of_absent (absent : board.loops[index]? = none) :
    board.handle index response = (none, board) := by
  simp [handle, absent]

/-- A change for a loop is what the loop makes of it. -/
theorem handle_of_present {loop : Loop} (present : board.loops[index]? = some loop) :
    board.handle index response =
      ((board.reaction loop response).outcome,
        { board with
          loops := board.loops.modify index ({ · with streak := loop.streak.after response })
          display := (board.reaction loop response).display
          log := board.log ++ (board.reaction loop response).log }) := by
  simp [handle, present, reaction, react_streak]

/-- The address `http://console/`. -/
def console : Url :=
  { scheme := "http".toList
    authority := some { host := .name "console".toList }
    path := .segments [[]] }

/-- A board without loops that polls from the console. -/
def bare : Board :=
  { base := console, failureMessage := "down" }

/-- No loop but the one with the given index has the target. -/
def Unshared (index : Nat) (target : String) (board : Board) : Prop :=
  ∀ other loop, other ≠ index → board.loops[other]? = some loop → loop.request.target ≠ target

/-- What matters is which targets the loops have. -/
theorem unshared_iff {board : Board} {index : Nat} {target : String} :
    board.Unshared index target ↔
      ∀ other ≠ index, (board.loops.map (·.request.target))[other]? ≠ some target := by
  constructor
  · intro unshared other away found
    rw [List.getElem?_map] at found
    obtain ⟨loop, present, same⟩ := Option.map_eq_some_iff.mp found
    exact unshared other loop away present same
  · intro unshared other loop away present same
    apply unshared other away
    rw [List.getElem?_map, present, Option.map_some, same]

/-- What a board was set up with: its base URL and its failure message. -/
def settings (board : Board) : Url × String :=
  (board.base, board.failureMessage)

@[simp] theorem handle_settings : (board.handle index response).2.settings = board.settings := by
  unfold handle
  split <;> rfl

@[simp] theorem handle_now : (board.handle index response).2.now = board.now := by
  unfold handle
  split <;> rfl

@[simp] theorem handle_timers : (board.handle index response).2.timers = board.timers := by
  unfold handle
  split <;> rfl

/-- A change reaches the streak of the loop that handles it and no other loop. -/
@[simp] theorem handle_loops :
    (board.handle index response).2.loops =
      board.loops.modify index fun loop => { loop with streak := loop.streak.after response } := by
  cases present : board.loops[index]? with
  | none =>
      rw [handle_of_absent present, List.modify_eq_self (List.getElem?_eq_none_iff.mp present)]
  | some loop =>
      rw [handle_of_present present]
      exact modify_congr present rfl

section Present

variable {loop : Loop} (present : board.loops[index]? = some loop)

include present

/-- A change that completes nothing has no outcome and touches nothing but the log. -/
theorem handle_of_incomplete (incomplete : response.isComplete = false) :
    board.handle index response =
      (none, { board with log := board.log ++ [.notComplete response.state] }) := by
  have unchanged :
      (board.loops.modify index fun loop => { loop with streak := loop.streak.after response }) =
        board.loops := by
    have identity :
        (fun loop : Loop => { loop with streak := loop.streak.after response }) = id := by
      funext loop
      simp [Streak.after, incomplete]
    rw [identity, List.modify_id]
  have loops := @handle_loops board index response
  rw [unchanged] at loops
  simp only [handle_of_present present, reaction, react_of_incomplete incomplete] at loops ⊢
  rw [loops]

/-- The outcome of a completion is decided by the streak that it finds. -/
theorem handle_outcome_of_complete (complete : response.isComplete = true) :
    (board.handle index response).1 = some (loop.streak.outcome response) := by
  rw [handle_of_present present, reaction, react_outcome, if_pos complete]

/-- A completion is displayed by its outcome and counted. -/
theorem handle_display_of_complete (complete : response.isComplete = true) :
    (board.handle index response).2.display =
      { regions := (loop.streak.outcome response).write loop.request.target board.failureMessage
          response.body board.display.regions
        metrics :=
          (board.display.metrics.recordStatus loop.request.target response.status).recordCycle
            loop.request.target (loop.streak.outcome response).label
            (loop.streak.after response).failures } := by
  rw [handle_of_present present, reaction, ← react_regions complete, ← react_metrics complete]

/-- A change leaves the regions of other targets as they are. -/
theorem get?_handle_of_ne {region : String} (apart : region ≠ loop.request.target) :
    (board.handle index response).2.display.regions.get? region =
      board.display.regions.get? region := by
  rw [handle_of_present present]
  exact get?_react_of_ne apart

end Present

end Board

end PanelBoard.Poll
