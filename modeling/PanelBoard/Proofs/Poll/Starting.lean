import PanelBoard.Proofs.Poll.Isolation
import PanelBoard.Proofs.Poll.Ownership

/-!
# Starting panels one by one

Panels are started in their order, and the first that has no request ends the start. The
loops before it run as if each had been started alone, with one GET and one line in the log
so far; of the panel without a request and of those behind it there is no trace.
-/

namespace PanelBoard

/-- Does the event report the start of a loop? -/
def Log.Event.isStart : Log.Event → Bool
  | .loopStarted .. => true
  | _ => false

namespace Poll

/-- What is logged when a loop is started for a request. -/
def Request.announcement (request : Request) : Log.Event :=
  .loopStarted request.target request.url.text request.refresh

/-- A loop right after its start: it sent one GET and handled what was reported at once. -/
def Loop.begun (request : Request) (transport : Transport) (now : Nat) : Loop where
  request := request
  transport := transport
  streak := (transport 0).foldl Streak.after .clear
  cycles := 1
  gets := [{ url := request.url
             issuedAt := now
             completedAt := List.replicate (completionCount (transport 0)) now }]

/-- A reaction reports no start. -/
theorem filter_isStart_react {target failureMessage : String} {streak : Streak}
    {display : Display} {response : Response} :
    (react target failureMessage streak display response).log.filter Log.Event.isStart = [] := by
  have warns : (writeEvents display.regions target).filter Log.Event.isStart = [] := by
    unfold writeEvents
    split <;> rfl
  by_cases complete : response.isComplete = true
  · by_cases ok : response.isOk = true
    · simp [react, complete, ok, Streak.recordSuccess, warns, Log.Event.isStart]
    · cases streak <;> simp [react, complete, ok, Streak.recordFailure, warns, Log.Event.isStart]
  · simp [react, complete, Log.Event.isStart]

namespace Board

/-! ## One loop -/

/-- Running loops report no starts. -/
theorem upheld_starts (starts : List Log.Event) :
    Upheld fun _ board => board.log.filter Log.Event.isStart = starts where
  handles change present kept := by
    rw [handle_of_present present, List.filter_append, reaction, filter_isStart_react,
      List.append_nil, kept]
  rests resembles kept := by rw [resembles.log, kept]

section StartCycle

variable {board : Board} {index request : Nat} {target : String}

/-- Changes for one loop leave the surfaces of other targets as they are. -/
theorem surface_foldl_receive_of_ne (changes : List Response)
    (apart : ∀ loop, board.loops[index]? = some loop → loop.request.target ≠ target) :
    (changes.foldl (receive index request) board).display.surface target =
      board.display.surface target := by
  induction changes generalizing board with
  | nil => rfl
  | cons change rest ih =>
      rw [List.foldl_cons, ih, receive_display, surface_handle_of_ne apart]
      intro loop present
      rw [(Moves.receive ..).loops, List.getElem?_modify_eq] at present
      obtain ⟨earlier, there, rfl⟩ := Option.map_eq_some_iff.mp present
      exact apart earlier there

/-- A cycle of one loop leaves the surfaces of other targets as they are. -/
theorem surface_startCycle_of_ne
    (apart : ∀ loop, board.loops[index]? = some loop → loop.request.target ≠ target) :
    (board.startCycle index).display.surface target = board.display.surface target := by
  cases present : board.loops[index]? with
  | none => rw [startCycle_of_absent present]
  | some loop =>
      rw [startCycle_of_present present, surface_foldl_receive_of_ne]
      · rfl
      · intro sent found
        rw [sendGet, updateLoop, List.getElem?_modify_eq] at found
        obtain ⟨earlier, there, rfl⟩ := Option.map_eq_some_iff.mp found
        exact apart earlier there

end StartCycle

section AddLoop

variable (board : Board) (request : Request) (transport : Transport)

theorem loops_addLoop :
    (board.addLoop request transport).loops =
      board.loops ++ [.begun request transport board.now] := by
  rw [addLoop_eq, (Moves.startCycle ..).loops, seat, modify_concat]
  rfl

@[simp] theorem length_loops_addLoop :
    (board.addLoop request transport).loops.length = board.loops.length + 1 := by
  rw [loops_addLoop, List.length_append, List.length_singleton]

@[simp] theorem addLoop_now : (board.addLoop request transport).now = board.now :=
  startCycle_now

@[simp] theorem addLoop_base : (board.addLoop request transport).base = board.base :=
  congrArg Prod.fst (settings_addLoop ..)

theorem timers_addLoop :
    (board.addLoop request transport).timers = board.timers ++
      List.replicate (completionCount (transport 0))
        ⟨board.now + request.refresh, board.loops.length⟩ := by
  rw [addLoop_eq, (Moves.startCycle ..).timers, newTimers, seat, List.getElem?_concat_length]
  rfl

/-- Starting a loop is logged once. -/
theorem starts_addLoop :
    (board.addLoop request transport).log.filter Log.Event.isStart =
      board.log.filter Log.Event.isStart ++ [request.announcement] := by
  have announced : (board.seat request transport).log.filter Log.Event.isStart =
      board.log.filter Log.Event.isStart ++ [request.announcement] :=
    List.filter_append ..
  exact @Upheld.startCycle _ [] _ (upheld_starts _) board.loops.length announced

/-- A loop that is started leaves the surfaces of other targets as they are. -/
theorem surface_addLoop_of_ne {target : String} (apart : request.target ≠ target) :
    (board.addLoop request transport).display.surface target = board.display.surface target := by
  rw [addLoop_eq, surface_startCycle_of_ne]
  · rfl
  · intro loop present
    rw [seat, List.getElem?_concat_length] at present
    cases present
    exact apart

end AddLoop

/-! ## Panels in their order -/

section Panels

variable {network : Nat → Transport} {panels : List Config.Panel} {board started : Board}
  {requests : List Request}

/-- What starting panels does to a board: each panel has its request, a loop that was just
started and a line in the log. The loops and timers that were there stay as they are, and
so does what is shown of other targets. -/
structure Begins (network : Nat → Transport) (panels : List Config.Panel)
    (requests : List Request) (before after : Board) : Prop where
  served : List.Forall₂ (fun panel request => panelRequest before.base panel = .ok request)
    panels requests
  steps : after = before.run (startSteps network before.loops.length panels)
  settings : after.settings = before.settings
  now : after.now = before.now
  loops : after.loops = before.loops ++ (requests.zipIdx before.loops.length).map
    fun (request, index) => .begun request (network index) before.now
  timers : after.timers = before.timers ++ (requests.zipIdx before.loops.length).flatMap
    fun (request, index) => List.replicate (completionCount (network index 0))
      ⟨before.now + request.refresh, index⟩
  starts : after.log.filter Log.Event.isStart =
    before.log.filter Log.Event.isStart ++ requests.map Request.announcement
  elsewhere : ∀ target ∉ requests.map Request.target,
    after.display.surface target = before.display.surface target

theorem Begins.nil : Begins network [] [] board board where
  served := .nil
  steps := rfl
  settings := rfl
  now := rfl
  loops := (List.append_nil _).symm
  timers := (List.append_nil _).symm
  starts := (List.append_nil _).symm
  elsewhere _ _ := rfl

/-- The first panel is started like a loop, and the others are started behind it. -/
theorem Begins.cons {panel : Config.Panel} {request : Request}
    (created : panelRequest board.base panel = .ok request)
    (begins : Begins network panels requests
      (board.addLoop request (network board.loops.length)) started) :
    Begins network (panel :: panels) (request :: requests) board started where
  served := by
    have served := begins.served
    rw [addLoop_base] at served
    exact .cons created served
  steps := by
    rw [startSteps, run_cons, step_start created, begins.steps, length_loops_addLoop]
  settings := begins.settings.trans (settings_addLoop ..)
  now := begins.now.trans (addLoop_now ..)
  loops := by
    rw [begins.loops, length_loops_addLoop, loops_addLoop, addLoop_now, List.append_assoc]
    rfl
  timers := by
    rw [begins.timers, length_loops_addLoop, timers_addLoop, addLoop_now, List.append_assoc]
    rfl
  starts := by
    rw [begins.starts, starts_addLoop, List.append_assoc]
    rfl
  elsewhere target absent := by
    have apart := (List.ne_of_not_mem_cons absent).symm
    rw [begins.elsewhere target (List.not_mem_of_not_mem_cons absent),
      surface_addLoop_of_ne _ _ _ apart]

/-- Panels that are answered with their requests were started. -/
theorem begins_of_answered (answered : board.startPanels network panels = (.ok requests, started)) :
    Begins network panels requests board started := by
  induction panels generalizing board requests with
  | nil =>
      cases answered
      exact .nil
  | cons panel rest ih =>
      obtain ⟨request, others, created, later, rfl⟩ := startPanels_cons_ok answered
      exact .cons created (ih later)

/-- Panels that all have requests are answered with them. -/
theorem exists_answered (given : ∀ panel ∈ panels, ∃ request,
    panelRequest board.base panel = .ok request) :
    ∃ requests started, board.startPanels network panels = (.ok requests, started) := by
  induction panels generalizing board with
  | nil => exact ⟨[], board, rfl⟩
  | cons panel rest ih =>
      obtain ⟨⟨request, created⟩, others⟩ := List.forall_mem_cons.mp given
      obtain ⟨requests, started, later⟩ :
          ∃ requests started, (board.addLoop request (network board.loops.length)).startPanels
            network rest = (.ok requests, started) := ih (by rwa [addLoop_base])
      refine ⟨request :: requests, started, ?_⟩
      rw [panelRequest] at created
      rw [startPanels, startPoll, created]
      simp only [later]

/-- The first panel without a request answers with the reason and leaves what the panels
before it have started. -/
theorem startPanels_of_refused {panel : Config.Panel} {cause : SetupError}
    (answered : board.startPanels network panels = (.ok requests, started))
    (refused : panelRequest board.base panel = .error cause) (behind : List Config.Panel) :
    board.startPanels network (panels ++ panel :: behind) = (.error cause, started) := by
  induction panels generalizing board requests with
  | nil =>
      cases answered
      rw [panelRequest] at refused
      rw [List.nil_append, startPanels, startPoll, refused]
  | cons first rest ih =>
      obtain ⟨request, others, created, later, rfl⟩ := startPanels_cons_ok answered
      have ended := ih later (by rwa [addLoop_base])
      rw [List.cons_append, startPanels, startPoll, created]
      simp only [ended]

/-! ## Loops on their own -/

/-- The board without its loops. -/
def emptied (board : Board) : Board :=
  { board with loops := [], timers := [] }

/-- Nothing of loops to come is on the board, and so without its loops it is the same to them. -/
theorem Mirrors.of_absent (tidy : Tidy board) {index : Nat} (absent : board.loops.length ≤ index) :
    Mirrors index board board.emptied where
  settings := rfl
  now := rfl
  loops := by rw [List.getElem?_eq_none absent]; rfl
  timers := by
    have none : board.timers.filter (·.loop == index) = [] := by
      rw [List.filter_eq_nil_iff]
      intro timer member
      simpa using Nat.ne_of_lt (Nat.lt_of_lt_of_le (tidy timer member) absent)
    rw [pending, none]
    rfl
  surface _ := rfl

/-- What is left of the start of a panel is that start, if the loop is its own. -/
theorem isolated_start {panel : Config.Panel} {request : Request}
    (created : panelRequest board.base panel = .ok request) (index : Nat) (transport : Transport)
    (steps : List Step) :
    isolated index board (.start panel.url panel.target panel.refresh transport :: steps) =
      (if board.loops.length = index then
        [.start panel.url panel.target panel.refresh transport] else []) ++
      isolated index (board.addLoop request transport) steps := by
  simp only [isolated, along, isolateStep, step_start created]

/-- Of the starts of panels nothing is left for a loop that was there before. -/
theorem isolated_startSteps_of_lt {index : Nat} (there : index < board.loops.length)
    (answered : board.startPanels network panels = (.ok requests, started)) :
    isolated index board (startSteps network board.loops.length panels) = [] := by
  induction panels generalizing board requests with
  | nil => rfl
  | cons panel rest ih =>
      obtain ⟨request, others, created, later, -⟩ := startPanels_cons_ok answered
      have behind := ih (by rw [length_loops_addLoop]; omega) later
      rw [length_loops_addLoop] at behind
      rw [startSteps, isolated_start created, if_neg (Nat.ne_of_gt there), behind]
      rfl

/-- Of the starts of panels the one that is its own is left for the loop of a panel. -/
theorem isolated_startSteps {position : Nat} {panel : Config.Panel}
    (at_ : panels[position]? = some panel)
    (answered : board.startPanels network panels = (.ok requests, started)) :
    isolated (board.loops.length + position) board
        (startSteps network board.loops.length panels) =
      [.start panel.url panel.target panel.refresh (network (board.loops.length + position))] := by
  induction panels generalizing board requests position with
  | nil => cases at_
  | cons first rest ih =>
      obtain ⟨request, others, created, later, -⟩ := startPanels_cons_ok answered
      rw [startSteps, isolated_start created]
      cases position with
      | zero =>
          cases at_
          have there : board.loops.length <
              (board.addLoop request (network board.loops.length)).loops.length := by
            rw [length_loops_addLoop]
            exact Nat.lt_succ_self _
          have behind := isolated_startSteps_of_lt there later
          rw [length_loops_addLoop] at behind
          rw [Nat.add_zero, if_pos rfl, behind]
          rfl
      | succ position =>
          have behind := ih at_ later
          rw [length_loops_addLoop, Nat.add_assoc, Nat.add_comm 1] at behind
          rw [if_neg (by omega), behind, List.nil_append]

theorem step_start_snd (board : Board) (reference target : String) (refresh : Nat)
    (transport : Transport) :
    (board.step (.start reference target refresh transport)).2 =
      (board.startPoll reference target refresh transport).2 := by
  simp only [step]
  split <;> simp only [*]

/-- Each loop of started panels runs as if it alone had been started on a board without
loops, whatever happens later. -/
def RunAlone (network : Nat → Transport) (panels : List Config.Panel) (before after : Board) :
    Prop :=
  ∀ position panel, panels[position]? = some panel → ∀ later,
    let index := before.loops.length + position
    let alone := (before.emptied.startPoll panel.url panel.target panel.refresh (network index)).2
    Mirrors index (after.run later) (alone.run (isolated index after later))

theorem runAlone_of_answered (tidy : Tidy board)
    (answered : board.startPanels network panels = (.ok requests, started)) :
    RunAlone network panels board started := by
  intro position panel at_ later index alone
  have mirrors : Mirrors index board board.emptied := .of_absent tidy (Nat.le_add_right ..)
  have begun := mirrors.run (startSteps network board.loops.length panels)
  rw [isolated_startSteps at_ answered, run_startSteps answered, run_cons, step_start_snd]
    at begun
  exact begun.run later

end Panels

/-- Panels are started in turn, on every board that steps lead to, and the first panel
without a request ends the start with the reason. The panels before it were started and
keep running as if alone, whatever the panels behind it are. If all panels have requests,
all are started and the answer lists them in order. A loop that cannot be started leaves
the board as it is. -/
theorem panels_start_in_turn {origin : Board} (blank : Blank origin) (steps : List Step)
    (network : Nat → Transport) :
    let board := origin.run steps
    (∀ panels, (∀ panel ∈ panels, ∃ request, panelRequest board.base panel = .ok request) →
      ∃ requests started, Begins network panels requests board started ∧
        RunAlone network panels board started ∧
        board.startPanels network panels = (.ok requests, started) ∧
        ∀ panel cause, panelRequest board.base panel = .error cause →
          ∀ behind, board.startPanels network (panels ++ panel :: behind) =
            (.error cause, started)) ∧
    ∀ reference target refresh transport cause,
      Request.create board.base reference target refresh = .error cause →
        board.startPoll reference target refresh transport = (.error cause, board) := by
  intro board
  refine ⟨fun panels given => ?_, fun reference target refresh transport cause refused => ?_⟩
  · obtain ⟨requests, started, answered⟩ :
        ∃ requests started, board.startPanels network panels = (.ok requests, started) :=
      exists_answered given
    exact ⟨requests, started, begins_of_answered answered,
      runAlone_of_answered (blank.tidy.run steps) answered, answered,
      fun panel cause refused => startPanels_of_refused answered refused⟩
  · rw [startPoll, refused]

/-- The URL of the mail panel. -/
def mailUrl : Url where
  scheme := "mailto".toList
  authority := none
  path := .rootless "console@home".toList

/-- Beside two running loops the news panel is started and the mail panel ends the start
with its scheme. Of the third panel, whose own start would fail, there is no trace. -/
theorem panels_start_in_turn_mixed :
    let board := bare.run pairRun
    (∃ started, board.startPanels (fun _ _ => [.done 503 ""]) mixedConfig.panels =
        (.error (.unsupportedScheme mailUrl.text "mailto"), started) ∧
      started.loops.length = 3 ∧
      started.log.filter Log.Event.isStart =
        board.log.filter Log.Event.isStart ++
          [.loopStarted "news" "http://console/news" 60000]) ∧
    board.startPoll "http://[::1" "far" 0 (fun _ => []) = (.error (.zeroRefresh "far"), board) := by
  intro board
  have blank : Blank bare := ⟨rfl, rfl⟩
  have base : board.base = console := by decide +kernel
  obtain ⟨starting, refusing⟩ :=
    panels_start_in_turn blank pairRun fun _ _ => [.done 503 ""]
  constructor
  · have announced : (panelRequest board.base ⟨"news", "/news", 60000, none⟩).toOption.map
        Request.announcement = some (.loopStarted "news" "http://console/news" 60000) := by
      decide +kernel
    obtain ⟨news, read, shown⟩ := Option.map_eq_some_iff.mp announced
    have created := ok_of_toOption read
    have joined : console.join "mailto:console@home" = .ok mailUrl :=
      ok_of_toOption (by decide +kernel)
    have refused : panelRequest board.base ⟨"mail", "mailto:console@home", 5, none⟩ =
        .error (.unsupportedScheme mailUrl.text "mailto") := by
      rw [base, panelRequest, Request.create, joined]
      rfl
    obtain ⟨requests, started, begins, -, -, stops⟩ := starting (mixedConfig.panels.take 1)
      (by simpa [mixedConfig] using ⟨news, created⟩)
    obtain rfl : requests = [news] := by
      obtain ⟨request, others, made, none, rfl⟩ := List.forall₂_cons_left_iff.mp begins.served
      rw [List.forall₂_nil_left_iff.mp none, Except.ok.inj (made.symm.trans created)]
    refine ⟨started, stops _ _ refused _, ?_, ?_⟩
    · have running : board.loops.length = 2 := by decide +kernel
      rw [begins.loops, List.length_append, List.length_map, List.length_zipIdx, running]
      rfl
    · rw [begins.starts, List.map_singleton, shown]
  · exact refusing _ _ _ _ _ (by simp [Request.create])

end Board

end Poll

end PanelBoard
