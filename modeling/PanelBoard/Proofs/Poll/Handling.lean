import PanelBoard.Proofs.Poll.Course

/-!
# Handling

What the loops of a board handle along a run, change by change, and what came of
each. What a board displays, and what its loops remember, is made by handling
changes and by nothing else, so a property of it that every handled change
upholds is upheld by every run.
-/

namespace PanelBoard.Poll

/-- A change that a loop handled, and what came of it. -/
structure Handled where
  loop : Nat
  change : Response
  outcome : Option Outcome
  deriving Repr, DecidableEq

/-- The changes that one loop handled. -/
def changesTo (index : Nat) (handled : List Handled) : List Response :=
  (handled.filter (·.loop == index)).map Handled.change

theorem changesTo_concat {handled : List Handled} {index other : Nat} {change : Response}
    {outcome : Option Outcome} :
    changesTo other (handled ++ [⟨index, change, outcome⟩]) =
      changesTo other handled ++ if index = other then [change] else [] := by
  by_cases same : index = other <;> simp [changesTo, same]

/-- What is observed item by item along a fold. -/
def trail {σ α β : Type} (next : σ → α → σ) (observe : σ → α → List β) : σ → List α → List β
  | _, [] => []
  | state, item :: rest => observe state item ++ trail next observe (next state item) rest

/-- What every item upholds is upheld by the fold. -/
theorem trail_upholds {σ α β : Type} {next : σ → α → σ} {observe : σ → α → List β}
    {P : List β → σ → Prop}
    (upholds : ∀ {seen state} item, P seen state → P (seen ++ observe state item) (next state item))
    (items : List α) {seen : List β} {state : σ} (holds : P seen state) :
    P (seen ++ trail next observe state items) (items.foldl next state) := by
  induction items generalizing seen state with
  | nil => simpa [trail] using holds
  | cons item rest ih => simpa [trail, List.append_assoc] using ih (upholds item holds)

namespace Board

/-! ## What is handled -/

/-- What comes of a change for a loop. Nobody handles it if the loop is not there. -/
def handledOne (index : Nat) (board : Board) (change : Response) : List Handled :=
  if index < board.loops.length then [⟨index, change, (board.handle index change).1⟩] else []

/-- What is handled when a GET of a loop reports changes. -/
def handledFrom (index request : Nat) (board : Board) (changes : List Response) : List Handled :=
  trail (receive index request) (handledOne index) board changes

/-- What is handled at once when a cycle of a loop starts. -/
def handledInCycle (board : Board) (index : Nat) : List Handled :=
  match board.loops[index]? with
  | none => []
  | some loop =>
    handledFrom index loop.gets.length (board.sendGet index) (loop.transport loop.cycles)

/-- The board at an instant, without the timers due then. -/
def stopAt (board : Board) (instant : Nat) : Board :=
  { board with
    now := instant
    timers := board.timers.filter fun timer => !(timer.due == instant) }

/-- What is handled when the timers due at an instant fire. -/
def handledAt (board : Board) (instant : Nat) : List Handled :=
  trail startCycle handledInCycle (board.stopAt instant)
    ((board.timers.filter (·.due == instant)).map Timer.loop)

/-- What is handled while time passes. -/
def handledUntil (deadline after : Nat) (board : Board) : List Handled :=
  match found : nextDue? board.timers after deadline with
  | none => []
  | some instant =>
    have _later := nextDue?_bounds found
    board.handledAt instant ++ handledUntil deadline instant (board.fireAt instant)
termination_by deadline - after
decreasing_by omega

/-- A board with one loop more, of which no cycle was started yet. -/
def seat (board : Board) (request : Request) (transport : Transport) : Board :=
  { board with
    loops := board.loops ++ [{ request, transport }]
    log := board.log ++ [.loopStarted request.target request.url.text request.refresh] }

theorem addLoop_eq (board : Board) (request : Request) (transport : Transport) :
    board.addLoop request transport =
      (board.seat request transport).startCycle board.loops.length :=
  rfl

/-- A loop of the board is the one that was put there, or it was there before. -/
theorem seat_loops {board : Board} {request : Request} {transport : Transport} {index : Nat}
    {loop : Loop} (present : (board.seat request transport).loops[index]? = some loop) :
    board.loops[index]? = some loop ∨
      index = board.loops.length ∧ loop = { request, transport } := by
  unfold seat at present
  by_cases within : index < board.loops.length
  · exact .inl (List.getElem?_append_left within ▸ present)
  · rw [List.getElem?_append_right (Nat.le_of_not_lt within), List.getElem?_singleton] at present
    split at present
    · exact .inr ⟨by omega, (Option.some.inj present).symm⟩
    · cases present

/-- Does the step start a loop? -/
def Step.isStart : Step → Bool
  | .start .. => true
  | _ => false

/-- What is handled in one step. -/
def handledIn (board : Board) (step : Step) : List Handled :=
  match step, (board.step step).1 with
  | .start _ _ _ transport, .started request =>
    (board.seat request transport).handledInCycle board.loops.length
  | .advance elapsed, _ => board.handledUntil (board.now + elapsed) board.now
  | .send index request changes, .sent => handledFrom index request board changes
  | .restart index, _ => board.handledInCycle index
  | .event index change, _ => handledOne index board change
  | _, _ => []

/-- What is handled along a run. -/
def handledAlong (board : Board) (steps : List Step) : List Handled :=
  trail (fun board step => (board.step step).2) handledIn board steps

/-! ## What a run upholds -/

end Board

/-- What is known of a loop by its looks: its request and its streak. -/
def Loop.face (loop : Loop) : Request × Streak :=
  (loop.request, loop.streak)

namespace Board

/-- Boards that differ at most in their clocks, their timers and the GETs of their loops. -/
structure Resembles (before after : Board) : Prop where
  settings : after.settings = before.settings
  faces : after.loops.map Loop.face = before.loops.map Loop.face
  display : after.display = before.display
  log : after.log = before.log

namespace Resembles

variable {before middle after : Board}

theorem refl (board : Board) : board.Resembles board := ⟨rfl, rfl, rfl, rfl⟩

theorem symm (resembles : before.Resembles after) : after.Resembles before :=
  ⟨resembles.settings.symm, resembles.faces.symm, resembles.display.symm, resembles.log.symm⟩

theorem trans (first : before.Resembles middle) (second : middle.Resembles after) :
    before.Resembles after :=
  ⟨second.settings.trans first.settings, second.faces.trans first.faces,
    second.display.trans first.display, second.log.trans first.log⟩

theorem updateLoop (board : Board) (index : Nat) {change : Loop → Loop}
    (same : ∀ loop, (change loop).face = loop.face) :
    board.Resembles (board.updateLoop index change) :=
  ⟨rfl, map_modify_unseen same, rfl, rfl⟩

theorem schedule (board : Board) (index : Nat) : board.Resembles (board.schedule index) := by
  unfold Board.schedule
  split
  · exact refl board
  · exact ⟨rfl, rfl, rfl, rfl⟩

/-- Receiving a change only notes its completion besides handling it. -/
theorem receive (board : Board) (index request : Nat) (change : Response) :
    (board.handle index change).2.Resembles (Board.receive index request board change) := by
  cases present : board.loops[index]? with
  | none =>
      rw [receive_of_absent present, handle_of_absent present]
      exact refl board
  | some loop =>
      by_cases complete : change.isComplete = true
      · rw [receive_of_complete present complete]
        have noted : (board.handle index change).2.Resembles
            ((board.handle index change).2.updateLoop index (Loop.complete request board.now)) :=
          updateLoop _ index fun _ => rfl
        exact noted.trans (schedule ..)
      · rw [receive_of_incomplete (by simpa using complete)]
        exact refl _

/-- A loop of one board has a loop with the same face on the other. -/
theorem present (resembles : before.Resembles after) {index : Nat} {loop : Loop}
    (present : after.loops[index]? = some loop) :
    ∃ earlier, before.loops[index]? = some earlier ∧ earlier.request = loop.request ∧
      earlier.streak = loop.streak := by
  have face : (before.loops.map Loop.face)[index]? = some loop.face := by
    rw [← resembles.faces, List.getElem?_map, present, Option.map_some]
  rw [List.getElem?_map] at face
  obtain ⟨earlier, there, same⟩ := Option.map_eq_some_iff.mp face
  exact ⟨earlier, there, congrArg Prod.fst same, congrArg Prod.snd same⟩

end Resembles

/-- Running loops uphold a property of what was handled and of the board: so does
handling a change, and the property is about neither clock, timers nor GETs. -/
structure Upheld (P : List Handled → Board → Prop) : Prop where
  handles : ∀ {handled board index loop} (change : Response), board.loops[index]? = some loop →
    P handled board →
    P (handled ++ [⟨index, change, (board.handle index change).1⟩]) (board.handle index change).2
  rests : ∀ {handled before after}, before.Resembles after → P handled before → P handled after

/-- Whatever happens on a board upholds a property: running loops do, and so does
taking a loop in. -/
structure Invariant (P : List Handled → Board → Prop) : Prop extends Upheld P where
  seats : ∀ {handled board} (request : Request) (transport : Transport),
    P handled board → P handled (board.seat request transport)

section

variable {P : List Handled → Board → Prop} {handled : List Handled} {board : Board}

namespace Upheld

theorem handleOne (upheld : Upheld P) (index : Nat) (change : Response) (holds : P handled board) :
    P (handled ++ handledOne index board change) (board.handle index change).2 := by
  unfold handledOne
  split
  · next within => exact upheld.handles change (List.getElem?_eq_getElem within) holds
  · next beyond =>
      rw [handle_of_absent (List.getElem?_eq_none (Nat.le_of_not_lt beyond)), List.append_nil]
      exact holds

theorem receive (upheld : Upheld P) (index request : Nat) (changes : List Response)
    (holds : P handled board) :
    P (handled ++ handledFrom index request board changes)
      (changes.foldl (Board.receive index request) board) :=
  trail_upholds
    (fun change holds => upheld.rests (.receive ..) (upheld.handleOne index change holds))
    changes holds

theorem startCycle (upheld : Upheld P) (index : Nat) (holds : P handled board) :
    P (handled ++ board.handledInCycle index) (board.startCycle index) := by
  cases present : board.loops[index]? with
  | none => simpa [handledInCycle, present, startCycle_of_absent present] using holds
  | some loop =>
      rw [startCycle_of_present present, handledInCycle, present]
      exact upheld.receive index _ _
        (upheld.rests (Resembles.updateLoop board index fun _ => rfl) holds)

theorem fireAt (upheld : Upheld P) (instant : Nat) (holds : P handled board) :
    P (handled ++ board.handledAt instant) (board.fireAt instant) := by
  rw [fireAt_eq]
  have stopped : board.Resembles (board.stopAt instant) := ⟨rfl, rfl, rfl, rfl⟩
  exact trail_upholds (fun index => upheld.startCycle index) _ (upheld.rests stopped holds)

theorem runUntil (upheld : Upheld P) (deadline after : Nat) (holds : P handled board) :
    P (handled ++ handledUntil deadline after board) (board.runUntil deadline after) := by
  fun_induction Board.runUntil deadline after board generalizing handled with
  | case1 after board quiet =>
      have silent : handledUntil deadline after board = [] := by
        rw [handledUntil]
        split
        · rfl
        · next found => rw [quiet] at found; cases found
      have waited : board.Resembles { board with now := deadline } := ⟨rfl, rfl, rfl, rfl⟩
      rw [silent, List.append_nil]
      exact upheld.rests waited holds
  | case2 after board instant soon _ ih =>
      have next : handledUntil deadline after board =
          board.handledAt instant ++ handledUntil deadline instant (board.fireAt instant) := by
        rw [handledUntil]
        split
        · next none => rw [soon] at none; cases none
        · next other found =>
            rw [soon] at found
            cases found
            rfl
      rw [next, ← List.append_assoc]
      exact ih (upheld.fireAt instant holds)

/-- A step that starts no loop upholds the property. -/
theorem step (upheld : Upheld P) {step : Step} (running : step.isStart = false)
    (holds : P handled board) : P (handled ++ board.handledIn step) (board.step step).2 := by
  cases step with
  | start reference target refresh transport => cases running
  | advance elapsed => exact upheld.runUntil _ _ holds
  | send index request changes =>
      cases got : board.get? index request with
      | none => simpa [Board.step, handledIn, got] using holds
      | some get =>
          by_cases isOpen : get.isOpen = true
          · simpa [Board.step, handledIn, got, isOpen] using
              upheld.receive index request changes holds
          · simpa [Board.step, handledIn, got, isOpen] using holds
  | close index request =>
      cases got : board.get? index request with
      | none => simpa [Board.step, handledIn, got] using holds
      | some get =>
          by_cases isOpen : get.isOpen = true
          · have closed : board.Resembles (board.closeGet index request) :=
              .updateLoop board index fun _ => rfl
            simpa [Board.step, handledIn, got, isOpen] using upheld.rests closed holds
          · simpa [Board.step, handledIn, got, isOpen] using holds
  | restart index => exact upheld.startCycle index holds
  | event index change => exact upheld.handleOne index change holds

/-- A run that starts no loop upholds the property. -/
theorem run (upheld : Upheld P) {steps : List Step}
    (running : ∀ step ∈ steps, step.isStart = false) (holds : P handled board) :
    P (handled ++ board.handledAlong steps) (board.run steps) := by
  induction steps generalizing handled board with
  | nil => simpa [handledAlong, trail, Board.run] using holds
  | cons step rest ih =>
      have first := upheld.step (running step List.mem_cons_self) holds
      have later := ih (fun other member => running other (List.mem_cons_of_mem _ member)) first
      rwa [List.append_assoc] at later

end Upheld

namespace Invariant

/-- A step upholds an invariant. -/
theorem step (invariant : Invariant P) (step : Step) (holds : P handled board) :
    P (handled ++ board.handledIn step) (board.step step).2 := by
  cases starts : step.isStart with
  | false => exact invariant.toUpheld.step starts holds
  | true =>
      cases step with
      | start reference target refresh transport =>
          cases created : Request.create board.base reference target refresh with
          | error cause => simpa [Board.step, handledIn, startPoll, created] using holds
          | ok request =>
              simpa [Board.step, handledIn, startPoll, created, addLoop_eq] using
                invariant.startCycle board.loops.length (invariant.seats request transport holds)
      | _ => cases starts

/-- A run upholds an invariant. -/
theorem run (invariant : Invariant P) (steps : List Step) (holds : P handled board) :
    P (handled ++ board.handledAlong steps) (board.run steps) :=
  trail_upholds (fun step => invariant.step step) steps holds

end Invariant

end

/-- What was handled was handled by loops of the board. -/
def Known (handled : List Handled) (board : Board) : Prop :=
  ∀ entry ∈ handled, entry.loop < board.loops.length

theorem invariant_known : Invariant Known where
  handles change present known entry member := by
    rw [handle_loops, List.length_modify]
    rcases List.mem_append.mp member with earlier | latest
    · exact known entry earlier
    · rw [List.mem_singleton.mp latest]
      exact (List.getElem?_eq_some_iff.mp present).1
  seats request transport known entry member := by
    simpa [seat] using Nat.lt_succ_of_lt (known entry member)
  rests resembles known entry member := by
    have length := congrArg List.length resembles.faces
    rw [List.length_map, List.length_map] at length
    exact length ▸ known entry member

/-- A loop that is not on the board has handled nothing. -/
theorem Known.changesTo {handled : List Handled} {board : Board} (known : Known handled board) :
    changesTo board.loops.length handled = [] := by
  simp only [Poll.changesTo, List.map_eq_nil_iff, List.filter_eq_nil_iff, beq_iff_eq]
  exact fun entry member => Nat.ne_of_lt (known entry member)

end Board

end PanelBoard.Poll
