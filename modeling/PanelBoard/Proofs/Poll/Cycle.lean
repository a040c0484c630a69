import PanelBoard.Proofs.Poll.Reaction

/-!
# One cycle

What board operations do to loops and timers, in closed form. Every one of them
changes one loop only, in a way that depends on that loop and the clock only, and
sets timers for that loop only: one for every completion among the changes.
-/

namespace PanelBoard.Poll

/-- The number of completions among changes. -/
def completionCount (changes : List Response) : Nat :=
  changes.countP Response.isComplete

/-- Note on a GET that completions were handled at one instant. -/
def Get.completeAll (instant count : Nat) (get : Get) : Get :=
  { get with completedAt := get.completedAt ++ List.replicate count instant }

/-- A loop after changes were delivered on one of its GETs. -/
def Loop.deliver (instant request : Nat) (changes : List Response) (loop : Loop) : Loop :=
  { loop with
    streak := changes.foldl Streak.after loop.streak
    gets := loop.gets.modify request (Get.completeAll instant (completionCount changes)) }

/-- The number of completions that the transport reports at once for the next GET. -/
def Loop.prompt (loop : Loop) : Nat :=
  completionCount (loop.transport loop.cycles)

/-- The next GET of a loop, with what its transport reports at once already handled. -/
def Loop.nextGet (instant : Nat) (loop : Loop) : Get :=
  { url := loop.request.url
    issuedAt := instant
    completedAt := List.replicate loop.prompt instant }

/-- A loop after one more cycle. -/
def Loop.cycle (instant : Nat) (loop : Loop) : Loop :=
  { loop with
    streak := (loop.transport loop.cycles).foldl Streak.after loop.streak
    cycles := loop.cycles + 1
    gets := loop.gets ++ [loop.nextGet instant] }

@[simp] theorem completionCount_nil : completionCount [] = 0 := rfl

@[simp] theorem completionCount_append (first second : List Response) :
    completionCount (first ++ second) = completionCount first + completionCount second :=
  List.countP_append

theorem completionCount_singleton (change : Response) :
    completionCount [change] = if change.isComplete then 1 else 0 := by
  simp [completionCount, List.countP_singleton]

/-- Delivering changes in two parts is delivering them at once. -/
theorem Loop.deliver_append (instant request : Nat) (first second : List Response) (loop : Loop) :
    (loop.deliver instant request first).deliver instant request second =
      loop.deliver instant request (first ++ second) := by
  simp only [deliver, List.foldl_append, List.modify_modify_eq, completionCount_append]
  congr 2
  funext get
  simp [Get.completeAll]

theorem Get.completeAll_zero (instant : Nat) : Get.completeAll instant 0 = id := by
  funext get
  simp [completeAll]

theorem Get.completeAll_one (instant : Nat) : Get.completeAll instant 1 = Get.complete instant :=
  rfl

/-- Nothing delivered changes nothing. -/
@[simp] theorem Loop.deliver_nil (instant request : Nat) (loop : Loop) :
    loop.deliver instant request [] = loop := by
  simp [deliver, Get.completeAll_zero]

/-- A change that completes nothing is noted nowhere. -/
theorem Loop.deliver_incomplete (instant request : Nat) (loop : Loop) {change : Response}
    (incomplete : change.isComplete = false) :
    loop.deliver instant request [change] = { loop with streak := loop.streak.after change } := by
  simp [deliver, completionCount_singleton, incomplete, Get.completeAll_zero]

/-- A completion is noted on its GET. -/
theorem Loop.deliver_complete (instant request : Nat) (loop : Loop) {change : Response}
    (complete : change.isComplete = true) :
    loop.deliver instant request [change] =
      Loop.complete request instant { loop with streak := loop.streak.after change } := by
  simp [deliver, completionCount_singleton, complete, Get.completeAll_one, Loop.complete]

theorem modify_concat {α : Type} (list : List α) (last : α) (change : α → α) :
    (list ++ [last]).modify list.length change = list ++ [change last] := by
  induction list with
  | nil => rfl
  | cons head rest ih => simpa using ih

/-- A view of a modified list is a modified view. -/
theorem map_modify {α β : Type} {list : List α} {index : Nat} {change : α → α} {view : α → β}
    {seen : β → β} (same : ∀ element, view (change element) = seen (view element)) :
    (list.modify index change).map view = (list.map view).modify index seen := by
  apply List.ext_getElem?
  intro other
  rw [List.getElem?_map, List.getElem?_modify, List.getElem?_modify, List.getElem?_map]
  cases list[other]? with
  | none => rfl
  | some element =>
      by_cases here : index = other
      · simp [here, same]
      · simp [here]

theorem map_modify_unseen {α β : Type} {list : List α} {index : Nat} {change : α → α}
    {view : α → β} (unseen : ∀ element, view (change element) = view element) :
    (list.modify index change).map view = list.map view :=
  (map_modify unseen).trans (List.modify_id ..)

namespace Board

/-- The timers that completions of a loop set now. -/
def newTimers (board : Board) (index : Nat) (count : Loop → Nat) : List Timer :=
  (board.loops[index]?).elim [] fun loop =>
    List.replicate (count loop) ⟨board.now + loop.request.refresh, index⟩

theorem newTimers_zero (board : Board) (index : Nat) :
    board.newTimers index (fun _ => 0) = [] := by
  unfold newTimers
  cases board.loops[index]? <;> rfl

/-- What an operation on one loop does: it changes the loop and sets timers for
it. Only the display and the log may differ otherwise. -/
structure Moves (index : Nat) (change : Loop → Loop) (count : Loop → Nat)
    (before after : Board) : Prop where
  settings : after.settings = before.settings
  now : after.now = before.now
  loops : after.loops = before.loops.modify index change
  timers : after.timers = before.timers ++ before.newTimers index count
  keeps : ∀ loop, (change loop).request = loop.request

namespace Moves

variable {board before middle after : Board} {index : Nat} {change next : Loop → Loop}
  {count more : Loop → Nat}

theorem refl (board : Board) (index : Nat) : Moves index id (fun _ => 0) board board where
  settings := rfl
  now := rfl
  loops := (List.modify_id ..).symm
  timers := by rw [newTimers_zero, List.append_nil]
  keeps _ := rfl

/-- An operation on a loop that is not there does nothing. -/
theorem of_absent (absent : board.loops[index]? = none)
    (keeps : ∀ loop, (change loop).request = loop.request) :
    Moves index change count board board where
  settings := rfl
  now := rfl
  loops := (List.modify_eq_self (List.getElem?_eq_none_iff.mp absent)).symm
  timers := by rw [newTimers, absent, Option.elim_none, List.append_nil]
  keeps := keeps

/-- Only what becomes of the loop that is there matters. -/
theorem agree {loop : Loop} (moves : Moves index change count before after)
    (present : before.loops[index]? = some loop) (same : next loop = change loop)
    (number : more loop = count loop) (keeps : ∀ loop, (next loop).request = loop.request) :
    Moves index next more before after where
  settings := moves.settings
  now := moves.now
  loops := moves.loops.trans (modify_congr present same.symm)
  timers := by
    rw [moves.timers, newTimers, newTimers, present, Option.elim_some, Option.elim_some, number]
  keeps := keeps

/-- An operation after an operation on the same loop. -/
theorem trans (first : Moves index change count before middle)
    (second : Moves index next more middle after) :
    Moves index (next ∘ change) (fun loop => count loop + more (change loop)) before after where
  settings := second.settings.trans first.settings
  now := second.now.trans first.now
  loops := by rw [second.loops, first.loops, List.modify_modify_eq]
  timers := by
    rw [second.timers, first.timers, List.append_assoc]
    congr 1
    unfold newTimers
    rw [first.loops, first.now, List.getElem?_modify_eq]
    cases before.loops[index]? with
    | none => rfl
    | some loop => simp [first.keeps, List.replicate_append_replicate]
  keeps loop := (second.keeps _).trans (first.keeps loop)

/-- An operation on a loop leaves all targets with their loops. -/
theorem unshared_iff {own : Nat} {target : String}
    (moves : Moves index change count before after) :
    after.Unshared own target ↔ before.Unshared own target := by
  have targets : after.loops.map (·.request.target) = before.loops.map (·.request.target) := by
    rw [moves.loops]
    exact map_modify_unseen fun loop => congrArg Request.target (moves.keeps loop)
  rw [Board.unshared_iff, Board.unshared_iff, targets]

theorem handle (response : Response) :
    Moves index (fun loop => { loop with streak := loop.streak.after response }) (fun _ => 0) board
      (board.handle index response).2 where
  settings := handle_settings
  now := handle_now
  loops := handle_loops
  timers := by rw [handle_timers, newTimers_zero, List.append_nil]
  keeps _ := rfl

theorem updateLoop (board : Board) (keeps : ∀ loop, (change loop).request = loop.request) :
    Moves index change (fun _ => 0) board (board.updateLoop index change) where
  settings := rfl
  now := rfl
  loops := rfl
  timers := by rw [newTimers_zero, List.append_nil]; rfl
  keeps := keeps

theorem closeGet (board : Board) (index request : Nat) :
    Moves index
      (fun loop => { loop with gets := loop.gets.modify request ({ · with isOpen := false }) })
      (fun _ => 0) board (board.closeGet index request) :=
  updateLoop board fun _ => rfl

theorem schedule (board : Board) (index : Nat) :
    Moves index id (fun _ => 1) board (board.schedule index) := by
  cases present : board.loops[index]? with
  | none =>
      have unchanged : board.schedule index = board := by simp [Board.schedule, present]
      rw [unchanged]
      exact of_absent present fun _ => rfl
  | some loop => constructor <;> simp [Board.schedule, newTimers, present, Board.settings]

end Moves

/-! ## Receiving changes -/

section Receive

variable {board : Board} {index request : Nat} {change : Response}

theorem receive_of_absent (absent : board.loops[index]? = none) :
    receive index request board change = board := by
  simp [receive, handle_of_absent absent]

theorem receive_of_incomplete (incomplete : change.isComplete = false) :
    receive index request board change = (board.handle index change).2 := by
  cases present : board.loops[index]? with
  | none => rw [receive_of_absent present, handle_of_absent present]
  | some loop =>
      simp [receive, handle_of_present present, reaction, react_outcome, incomplete]

theorem receive_of_complete {loop : Loop} (present : board.loops[index]? = some loop)
    (complete : change.isComplete = true) :
    receive index request board change =
      (((board.handle index change).2.updateLoop index
        (Loop.complete request board.now)).schedule index) := by
  have now := @handle_now board index change
  unfold receive
  split
  · next outcome after handled =>
      simp [handle_of_present present, reaction, react_outcome, complete] at handled
  · next outcome after handled =>
      rw [handled] at now ⊢
      rw [now]

/-- A received change is delivered to the loop it is for. -/
theorem Moves.receive (board : Board) (index request : Nat) (change : Response) :
    Moves index (Loop.deliver board.now request [change]) (fun _ => completionCount [change]) board
      (Board.receive index request board change) := by
  cases present : board.loops[index]? with
  | none =>
      rw [receive_of_absent present]
      exact of_absent present fun _ => rfl
  | some loop =>
      by_cases complete : change.isComplete = true
      · rw [receive_of_complete present complete]
        have noted : Moves index (Loop.complete request board.now) _
            (board.handle index change).2 _ := updateLoop _ fun _ => rfl
        refine (((handle change).trans noted).trans (schedule ..)).agree present ?_ ?_ fun _ => rfl
        · exact loop.deliver_complete board.now request complete
        · simp [completionCount_singleton, complete]
      · have incomplete : change.isComplete = false := by simpa using complete
        rw [receive_of_incomplete incomplete]
        refine (handle change).agree present ?_ ?_ fun _ => rfl
        · exact loop.deliver_incomplete board.now request incomplete
        · simp [completionCount_singleton, incomplete]

/-- Received changes are delivered to the loop they are for. -/
theorem Moves.foldl_receive (board : Board) (index request : Nat) (changes : List Response) :
    Moves index (Loop.deliver board.now request changes) (fun _ => completionCount changes) board
      (changes.foldl (Board.receive index request) board) := by
  induction changes generalizing board with
  | nil =>
      have identity : Loop.deliver board.now request [] = id := by
        funext loop
        exact loop.deliver_nil board.now request
      rw [identity]
      exact refl board index
  | cons change rest ih =>
      have head := Moves.receive board index request change
      have tail := ih (Board.receive index request board change)
      have delivered : Loop.deliver board.now request (change :: rest) =
          Loop.deliver board.now request rest ∘ Loop.deliver board.now request [change] := by
        funext loop
        exact (loop.deliver_append board.now request [change] rest).symm
      have counted : completionCount (change :: rest) =
          completionCount [change] + completionCount rest := completionCount_append [change] rest
      rw [head.now] at tail
      rw [List.foldl_cons, delivered, counted]
      exact head.trans tail

@[simp] theorem foldl_receive_now (changes : List Response) :
    (changes.foldl (receive index request) board).now = board.now :=
  (Moves.foldl_receive ..).now

/-- A received change is displayed as a handled one is. -/
theorem receive_display :
    (receive index request board change).display = (board.handle index change).2.display := by
  cases present : board.loops[index]? with
  | none => rw [receive_of_absent present, handle_of_absent present]
  | some loop =>
      by_cases complete : change.isComplete = true
      · rw [receive_of_complete present complete, schedule]
        split <;> rfl
      · rw [receive_of_incomplete (by simpa using complete)]

end Receive

/-! ## Starting a cycle -/

section StartCycle

variable {board : Board} {index : Nat}

theorem startCycle_of_absent (absent : board.loops[index]? = none) :
    board.startCycle index = board := by
  simp [startCycle, absent]

/-- A loop with one GET more, of which nothing was reported yet. -/
def sendGet (board : Board) (index : Nat) : Board :=
  board.updateLoop index fun loop =>
    { loop with
      cycles := loop.cycles + 1
      gets := loop.gets ++ [{ url := loop.request.url, issuedAt := board.now }] }

theorem startCycle_of_present {loop : Loop} (present : board.loops[index]? = some loop) :
    board.startCycle index =
      (loop.transport loop.cycles).foldl (receive index loop.gets.length)
        (board.sendGet index) := by
  have sent : (board.updateLoop index fun other =>
      { other with
        cycles := other.cycles + 1
        gets := other.gets ++ [{ url := loop.request.url, issuedAt := board.now }] }) =
      board.sendGet index := by
    unfold sendGet updateLoop
    congr 1
    exact modify_congr present rfl
  simp only [startCycle, present]
  rw [sent]

/-- A started cycle is one more cycle of its loop and none of any other. -/
theorem Moves.startCycle (board : Board) (index : Nat) :
    Moves index (Loop.cycle board.now) Loop.prompt board (board.startCycle index) := by
  cases present : board.loops[index]? with
  | none =>
      rw [startCycle_of_absent present]
      exact of_absent present fun _ => rfl
  | some loop =>
      rw [startCycle_of_present present]
      have sent : Moves index _ _ board (board.sendGet index) := updateLoop board fun _ => rfl
      refine (sent.trans (foldl_receive ..)).agree present ?_ ?_ fun _ => rfl
      · simp [Loop.deliver, Loop.cycle, Loop.nextGet, Loop.prompt, modify_concat,
          Get.completeAll, sent.now]
      · exact (Nat.zero_add _).symm

@[simp] theorem startCycle_now : (board.startCycle index).now = board.now :=
  (Moves.startCycle ..).now

end StartCycle

end Board

end PanelBoard.Poll
