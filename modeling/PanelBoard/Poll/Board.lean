import PanelBoard.Poll.Reaction
import PanelBoard.Poll.Request

/-!
# Boards of poll loops

Poll loops over one display and one clock in milliseconds. Every completion
handled by a cycle sets a timer, and a timer that falls due starts the next
cycle. Timers due at the same instant fire in the order in which they were set.
A board is driven by steps; between steps nothing happens.
-/

namespace PanelBoard.Poll

/-- What the transport of a loop reports at once for its GETs: the changes for
the first GET, the second, and so on. -/
abbrev Transport := Nat → List Response

/-- One GET: when it was sent and where, whether its channel is still open, and
when the completions it reported were handled. -/
structure Get where
  url : Url
  issuedAt : Nat
  isOpen : Bool := true
  completedAt : List Nat := []
  deriving Repr, DecidableEq

/-- A poll loop on a board. -/
structure Loop where
  request : Request
  transport : Transport
  streak : Streak := .clear
  cycles : Nat := 0
  gets : List Get := []

/-- Note on a GET that a completion was handled. -/
def Get.complete (instant : Nat) (get : Get) : Get :=
  { get with completedAt := get.completedAt ++ [instant] }

/-- Note on a GET of a loop that a completion was handled. -/
def Loop.complete (request instant : Nat) (loop : Loop) : Loop :=
  { loop with gets := loop.gets.modify request (Get.complete instant) }

/-- A timer that starts the next cycle of a loop. -/
structure Timer where
  due : Nat
  loop : Nat
  deriving Repr, DecidableEq

/-- Everything that steps change. -/
structure Board where
  base : Url
  failureMessage : String
  now : Nat := 0
  loops : List Loop := []
  timers : List Timer := []
  display : Display := {}
  log : List Log.Event := []

namespace Board

/-- Change one loop. -/
def updateLoop (board : Board) (index : Nat) (change : Loop → Loop) : Board :=
  { board with loops := board.loops.modify index change }

/-- The reaction of a loop to a ready-state change. -/
def reaction (board : Board) (loop : Loop) (response : Response) : Reaction :=
  react loop.request.target board.failureMessage loop.streak board.display response

/-- Hand a ready-state change to a loop, which schedules nothing. -/
def handle (board : Board) (index : Nat) (response : Response) : Option Outcome × Board :=
  match board.loops[index]? with
  | none => (none, board)
  | some loop =>
    let effect := board.reaction loop response
    (effect.outcome,
      { board with
        loops := board.loops.modify index ({ · with streak := effect.streak })
        display := effect.display
        log := board.log ++ effect.log })

/-- Set the timer of a loop's next cycle. -/
def schedule (board : Board) (index : Nat) : Board :=
  match board.loops[index]? with
  | none => board
  | some loop =>
    { board with timers := board.timers ++ [⟨board.now + loop.request.refresh, index⟩] }

/-- Handle a ready-state change that a GET of a loop reported: a completion also
schedules the next cycle. -/
def receive (index request : Nat) (board : Board) (response : Response) : Board :=
  match board.handle index response with
  | (none, board) => board
  | (some _, board) => (board.updateLoop index (Loop.complete request board.now)).schedule index

/-- Start one cycle of a loop: send a GET and handle what its transport reports at once. -/
def startCycle (board : Board) (index : Nat) : Board :=
  match board.loops[index]? with
  | none => board
  | some loop =>
    let get : Get := { url := loop.request.url, issuedAt := board.now }
    let sent := board.updateLoop index fun loop =>
      { loop with cycles := loop.cycles + 1, gets := loop.gets ++ [get] }
    (loop.transport loop.cycles).foldl (receive index loop.gets.length) sent

/-! ## Time -/

/-- The first due time of a timer after `after` and not after `deadline`. -/
def nextDue? (timers : List Timer) (after deadline : Nat) : Option Nat :=
  ((timers.map Timer.due).filter (fun due => after < due && due ≤ deadline)).min?

/-- The next due time lies between its bounds. -/
theorem nextDue?_bounds {timers : List Timer} {after deadline due : Nat}
    (found : nextDue? timers after deadline = some due) : after < due ∧ due ≤ deadline := by
  have member := List.min?_mem found
  simp only [List.mem_filter, Bool.and_eq_true, decide_eq_true_eq] at member
  exact member.2

/-- Move the clock to an instant and fire the timers due then. -/
def fireAt (board : Board) (instant : Nat) : Board :=
  let (ready, waiting) := board.timers.partition (·.due == instant)
  (ready.map Timer.loop).foldl startCycle { board with now := instant, timers := waiting }

/-- Fire every timer due after `after` and up to `deadline`, instant by instant.
A timer set on the way is due later than the instant it was set at. -/
def runUntil (deadline after : Nat) (board : Board) : Board :=
  match found : nextDue? board.timers after deadline with
  | none => { board with now := deadline }
  | some instant =>
    have _later := nextDue?_bounds found
    runUntil deadline instant (board.fireAt instant)
termination_by deadline - after
decreasing_by omega

/-- Let time pass. -/
def advance (board : Board) (elapsed : Nat) : Board :=
  board.runUntil (board.now + elapsed) board.now

/-! ## Starting loops -/

/-- Put a loop on the board and start its first cycle. -/
def addLoop (board : Board) (request : Request) (transport : Transport) : Board :=
  let started : Log.Event :=
    .loopStarted request.target request.url.text request.refresh
  let loop : Loop := { request, transport }
  startCycle { board with loops := board.loops ++ [loop], log := board.log ++ [started] }
    board.loops.length

/-- Start polling a reference into a region. A request that cannot be made
leaves the board as it is. -/
def startPoll (board : Board) (reference target : String) (refresh : Nat)
    (transport : Transport) : Except SetupError Request × Board :=
  match Request.create board.base reference target refresh with
  | .error cause => (.error cause, board)
  | .ok request => (.ok request, board.addLoop request transport)

/-! ## Steps -/

/-- What may be done to a board. -/
inductive Step where
  | start (reference target : String) (refresh : Nat) (transport : Transport)
  | advance (elapsed : Nat)
  | send (loop request : Nat) (responses : List Response)
  | close (loop request : Nat)
  | restart (loop : Nat)
  | event (loop : Nat) (response : Response)

/-- What a step answers. -/
inductive Answer where
  | nothing
  | started (request : Request)
  | refused (cause : SetupError)
  | sent
  | closed
  | alreadyClosed
  | noRequest
  | outcome (outcome : Option Outcome)

/-- A GET of a loop. -/
def get? (board : Board) (index request : Nat) : Option Get :=
  (board.loops[index]?).bind (·.gets[request]?)

/-- Close the channel of a GET. -/
def closeGet (board : Board) (index request : Nat) : Board :=
  board.updateLoop index fun loop =>
    { loop with gets := loop.gets.modify request ({ · with isOpen := false }) }

/-- Carry out one step. -/
def step (board : Board) : Step → Answer × Board
  | .start reference target refresh transport =>
    match board.startPoll reference target refresh transport with
    | (.ok request, board) => (.started request, board)
    | (.error cause, board) => (.refused cause, board)
  | .advance elapsed => (.nothing, board.advance elapsed)
  | .send index request responses =>
    match board.get? index request with
    | none => (.noRequest, board)
    | some get =>
      if get.isOpen then (.sent, responses.foldl (receive index request) board)
      else (.alreadyClosed, board)
  | .close index request =>
    match board.get? index request with
    | none => (.noRequest, board)
    | some get =>
      if get.isOpen then (.closed, board.closeGet index request) else (.alreadyClosed, board)
  | .restart index => (.nothing, board.startCycle index)
  | .event index response =>
    let (outcome, board) := board.handle index response
    (.outcome outcome, board)

/-- The board after a list of steps. -/
def run (board : Board) (steps : List Step) : Board :=
  steps.foldl (fun board step => (board.step step).2) board

end Board

end PanelBoard.Poll
