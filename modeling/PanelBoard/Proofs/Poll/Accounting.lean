import PanelBoard.Proofs.Metrics
import PanelBoard.Proofs.Poll.FailureRuns
import PanelBoard.Proofs.Region.Listing

/-!
# Accounting

What happens at a target is told four times over: by the statuses and by the
outcomes that are counted, by the updates of its region, and by the failure
counters of its loops. Whatever loops share the target, however their cycles
overlap and whoever else writes regions, the four agree.
-/

namespace PanelBoard.Poll

namespace Board

/-! ## Completions by target -/

/-- The target of a loop. -/
def target? (board : Board) (index : Nat) : Option String :=
  (board.loops[index]?).map (·.request.target)

/-- The failure counter of a loop. -/
def failures? (board : Board) (index : Nat) : Option Nat :=
  (board.loops[index]?).map (·.streak.failures)

/-- The completions that loops with a target handled. -/
def completionsFor (board : Board) (target : String) (handled : List Handled) : List Handled :=
  handled.filter fun entry => entry.change.isComplete && board.target? entry.loop == some target

section Views

variable {board before after : Board} {handled : List Handled} {index : Nat} {target : String}

theorem completionsFor_concat (entry : Handled) :
    board.completionsFor target (handled ++ [entry]) =
      board.completionsFor target handled ++
        if entry.change.isComplete = true ∧ board.target? entry.loop = some target then [entry]
        else [] := by
  by_cases complete : entry.change.isComplete = true <;>
    by_cases own : board.target? entry.loop = some target <;>
    simp [completionsFor, complete, own]

/-- Only the targets of the loops that handled something matter. -/
theorem completionsFor_congr
    (same : ∀ entry ∈ handled, after.target? entry.loop = before.target? entry.loop) :
    after.completionsFor target handled = before.completionsFor target handled :=
  List.filter_congr fun entry member => by rw [same entry member]

@[simp] theorem target?_handle (change : Response) (other : Nat) :
    (board.handle index change).2.target? other = board.target? other := by
  rw [target?, handle_loops, List.getElem?_modify, target?]
  cases board.loops[other]? <;> by_cases same : index = other <;> simp [same]

/-- A change reaches no other loop's failure counter. -/
theorem failures?_handle_of_ne (change : Response) {other : Nat} (different : index ≠ other) :
    (board.handle index change).2.failures? other = board.failures? other := by
  rw [failures?, handle_loops, List.getElem?_modify_ne _ _ different, failures?]

theorem seat_loops_of_known (request : Request) (transport : Transport)
    (known : Known handled board) :
    ∀ entry ∈ handled,
      (board.seat request transport).loops[entry.loop]? = board.loops[entry.loop]? :=
  fun entry member => List.getElem?_append_left (known entry member)

/-- What is seen of a loop's face is the same on boards that resemble each other. -/
theorem Resembles.view {α : Type} (resembles : before.Resembles after) (index : Nat)
    (view : Request × Streak → α) :
    (after.loops[index]?).map (fun loop => view loop.face) =
      (before.loops[index]?).map fun loop => view loop.face := by
  have faces := congrArg (fun faces => (faces[index]?).map view) resembles.faces
  simpa [Function.comp_def] using faces

theorem Resembles.target? (resembles : before.Resembles after) (index : Nat) :
    after.target? index = before.target? index :=
  resembles.view index (·.1.target)

theorem Resembles.failures? (resembles : before.Resembles after) (index : Nat) :
    after.failures? index = before.failures? index :=
  resembles.view index (·.2.failures)

end Views

/-! ## The four accounts -/

/-- A completion has status 200 exactly if it is labelled a success. -/
theorem label_eq_success_iff (streak : Streak) (completion : Response) :
    (streak.outcome completion).label = Outcome.success.label ↔ completion.status = 200 := by
  by_cases ok : completion.status = 200
  · simp [Streak.outcome, Response.isOk, ok]
  · cases streak <;> simp [Streak.outcome, Response.isOk, ok, Streak.recordFailure, Outcome.label]

/-- A completion is an update of its region exactly if it is labelled a success or
a hard failure. -/
theorem update_eq_labels (outcome : Outcome) :
    (if outcome = .toleratedFailure then 0 else 1) =
      (if outcome.label = Outcome.success.label then 1 else 0) +
        if outcome.label = Outcome.hardFailure.label then 1 else 0 := by
  cases outcome <;> simp [Outcome.label]

/-- What the accounts of a target are read from is the same on both displays. -/
structure SameBooks (target : String) (before after : Display) : Prop where
  statusTotal : after.metrics.statusTotal target = before.metrics.statusTotal target
  cycleTotal : after.metrics.cycleTotal target = before.metrics.cycleTotal target
  statuses : ∀ status, Tally.count (target, status) after.metrics.statuses =
    Tally.count (target, status) before.metrics.statuses
  cycles : ∀ label, Tally.count (target, label) after.metrics.cycles =
    Tally.count (target, label) before.metrics.cycles
  gauge : after.metrics.gauge? target = before.metrics.gauge? target
  updates : after.regions.updateCount target = before.regions.updateCount target

theorem SameBooks.refl (target : String) (display : Display) :
    SameBooks target display display :=
  ⟨rfl, rfl, fun _ => rfl, fun _ => rfl, rfl, rfl⟩

/-- A completion goes into no account of another target. -/
theorem SameBooks.handle {target : String} {board : Board} {index : Nat} {loop : Loop}
    {change : Response} (present : board.loops[index]? = some loop)
    (apart : target ≠ loop.request.target) (complete : change.isComplete = true) :
    SameBooks target board.display (board.handle index change).2.display := by
  have totals := board.display.metrics.totals_record loop.request.target target change.status
    (loop.streak.outcome change).label (loop.streak.after change).failures
  have counts := board.display.metrics.countsOnce_record loop.request.target change.status
    (loop.streak.outcome change).label (loop.streak.after change).failures
  have unwritten : (board.handle index change).2.display.regions.get? target =
      board.display.regions.get? target := get?_handle_of_ne present apart
  have metrics := congrArg Display.metrics (handle_display_of_complete present complete)
  dsimp only at metrics
  constructor
  · rw [metrics, totals.1, if_neg apart.symm, Nat.add_zero]
  · rw [metrics, totals.2, if_neg apart.symm, Nat.add_zero]
  · intro status
    rw [metrics, counts.statuses, if_neg (by simp [apart.symm]), Nat.add_zero]
  · intro label
    rw [metrics, counts.cycles, if_neg (by simp [apart.symm]), Nat.add_zero]
  · rw [metrics, counts.gauges, if_neg apart.symm]
  · rw [Region.Store.updateCount, unwritten, Region.Store.updateCount]

/-- The accounts of a target agree, `updates` updates of its region apart. -/
structure Tallied (target : String) (updates : Nat) (handled : List Handled)
    (board : Board) : Prop where
  known : Known handled board
  statuses : board.display.metrics.statusTotal target =
    (board.completionsFor target handled).length
  cycles : board.display.metrics.cycleTotal target = (board.completionsFor target handled).length
  successes : Tally.count (target, 200) board.display.metrics.statuses =
    Tally.count (target, Outcome.success.label) board.display.metrics.cycles
  updates : board.display.regions.updateCount target =
    updates + Tally.count (target, Outcome.success.label) board.display.metrics.cycles +
      Tally.count (target, Outcome.hardFailure.label) board.display.metrics.cycles
  gauge : board.display.metrics.gauge? target =
    (board.completionsFor target handled).getLast?.bind fun latest => board.failures? latest.loop

namespace Tallied

variable {target : String} {updates : Nat} {handled : List Handled} {board : Board} {index : Nat}
  {loop : Loop} {change : Response}

/-- A completion of a loop with the target goes into every account. -/
theorem own (tallied : Tallied target updates handled board)
    (present : board.loops[index]? = some loop) (mine : loop.request.target = target)
    (complete : change.isComplete = true) :
    Tallied target updates (handled ++ [⟨index, change, (board.handle index change).1⟩])
      (board.handle index change).2 := by
  subst mine
  let latest : Handled := ⟨index, change, (board.handle index change).1⟩
  have completions :
      (board.handle index change).2.completionsFor loop.request.target (handled ++ [latest]) =
        board.completionsFor loop.request.target handled ++ [latest] := by
    have mine : board.target? index = some loop.request.target := by simp [target?, present]
    rw [completionsFor_concat, completionsFor_congr fun entry _ => target?_handle change entry.loop,
      if_pos ⟨complete, by rw [target?_handle, mine]⟩]
  obtain ⟨status, cycle⟩ := board.display.metrics.totals_record loop.request.target
    loop.request.target change.status (loop.streak.outcome change).label
    (loop.streak.after change).failures
  obtain ⟨statuses, cycles, gauges⟩ := board.display.metrics.countsOnce_record
    loop.request.target change.status (loop.streak.outcome change).label
    (loop.streak.after change).failures
  have display := handle_display_of_complete present complete
  rw [if_pos rfl] at status cycle
  constructor
  · exact invariant_known.handles change present tallied.known
  · rw [completions, display, status, tallied.statuses, List.length_append, List.length_singleton]
  · rw [completions, display, cycle, tallied.cycles, List.length_append, List.length_singleton]
  · rw [display, statuses, cycles, tallied.successes]
    simp [label_eq_success_iff]
  · rw [display, updateCount_write, cycles, cycles, tallied.updates, update_eq_labels]
    simp only [Prod.mk.injEq, true_and]
    omega
  · rw [completions, display, gauges, if_pos rfl, List.getLast?_concat, Option.bind_some,
      failures?, handle_loops, List.getElem?_modify_eq, present]
    rfl

/-- The accounts still agree if no completion came in and nothing was entered. -/
theorem unmoved {later : List Handled} {after : Board}
    (tallied : Tallied target updates handled board) (known : Known later after)
    (books : SameBooks target board.display after.display)
    (completions : after.completionsFor target later = board.completionsFor target handled)
    (counters : ∀ entry ∈ board.completionsFor target handled,
      after.failures? entry.loop = board.failures? entry.loop) :
    Tallied target updates later after := by
  constructor
  · exact known
  · rw [books.statusTotal, completions, tallied.statuses]
  · rw [books.cycleTotal, completions, tallied.cycles]
  · rw [books.statuses, books.cycles, tallied.successes]
  · rw [books.updates, books.cycles, books.cycles, tallied.updates]
  · rw [books.gauge, tallied.gauge, completions]
    cases latest : (board.completionsFor target handled).getLast? with
    | none => rfl
    | some entry => exact (counters entry (List.mem_of_getLast? latest)).symm

/-- A change goes into the accounts of its target if it is a completion, and into no others. -/
theorem handle (tallied : Tallied target updates handled board)
    (present : board.loops[index]? = some loop) (change : Response) :
    Tallied target updates (handled ++ [⟨index, change, (board.handle index change).1⟩])
      (board.handle index change).2 := by
  have known := invariant_known.handles change present tallied.known
  have aim : board.target? index = some loop.request.target := by simp [target?, present]
  by_cases complete : change.isComplete = true
  · by_cases mine : loop.request.target = target
    · exact tallied.own present mine complete
    · refine tallied.unmoved known (.handle present (Ne.symm mine) complete) ?_ ?_
      · rw [completionsFor_concat, target?_handle, aim, if_neg (by simp [mine]), List.append_nil]
        exact completionsFor_congr fun entry _ => target?_handle change entry.loop
      · -- A loop that handled a completion for the target has the target, so it is another one.
        intro entry member
        have theirs : board.target? entry.loop = some target := by
          have both := (List.mem_filter.mp member).2
          simpa using (Bool.and_eq_true_iff.mp both).2
        refine failures?_handle_of_ne change fun same => mine ?_
        rw [same, theirs] at aim
        exact (Option.some.inj aim).symm
  · have quiet := handle_of_incomplete present (by simpa using complete)
    refine tallied.unmoved known ?_ ?_ ?_
    · rw [quiet]
      exact .refl ..
    · rw [completionsFor_concat, if_neg fun both => complete both.1, List.append_nil]
      exact completionsFor_congr fun entry _ => target?_handle change entry.loop
    · rw [quiet]
      exact fun _ _ => rfl

theorem invariant (target : String) (updates : Nat) : Invariant (Tallied target updates) where
  handles change present tallied := tallied.handle present change
  seats request transport tallied := by
    have same := seat_loops_of_known request transport tallied.known
    refine tallied.unmoved (invariant_known.seats request transport tallied.known) (.refl ..) ?_ ?_
    · exact completionsFor_congr fun entry member => by rw [target?, same entry member, target?]
    · intro entry member
      rw [failures?, same entry (List.mem_filter.mp member).1, failures?]
  rests resembles tallied := by
    refine tallied.unmoved (invariant_known.rests resembles tallied.known) ?_ ?_ ?_
    · rw [resembles.display]
      exact .refl ..
    · exact completionsFor_congr fun entry _ => resembles.target? entry.loop
    · exact fun entry _ => resembles.failures? entry.loop

end Tallied

/-! ## Runs with writes from outside -/

/-- What may be done to a board and, next to its loops, to its regions. -/
inductive Deed where
  | step (step : Step)
  | register (region initial : String)
  | write (region content : String)

/-- A board with other regions. -/
def setRegions (board : Board) (regions : Region.Store) : Board :=
  { board with display := { board.display with regions } }

/-- Carry out one deed. -/
def perform (board : Board) : Deed → Board
  | .step step => (board.step step).2
  | .register region initial => board.setRegions (board.display.regions.register region initial)
  | .write region content => board.setRegions (board.display.regions.setContent region content)

/-- The board after a list of deeds. -/
def performAll (board : Board) (deeds : List Deed) : Board :=
  deeds.foldl perform board

/-- What is handled in one deed. -/
def handledBy (board : Board) : Deed → List Handled
  | .step step => board.handledIn step
  | .register .. => []
  | .write .. => []

/-- What is handled along deeds. -/
def handledThrough (board : Board) (deeds : List Deed) : List Handled :=
  trail perform handledBy board deeds

/-- Does the deed write to the region? -/
def Deed.writesTo (region : String) : Deed → Bool
  | .write other _ => other == region
  | _ => false

/-- What loops remember is not in the regions. -/
theorem Remembers.setRegions {handled : List Handled} {board : Board}
    (remembers : Remembers handled board) (regions : Region.Store) :
    Remembers handled (board.setRegions regions) :=
  ⟨remembers.known, remembers.streaks, remembers.tolerated⟩

/-- The accounts agree once an update from outside is set apart. -/
theorem Tallied.setRegions {target : String} {updates more : Nat} {handled : List Handled}
    {board : Board} {regions : Region.Store} (tallied : Tallied target updates handled board)
    (entered : regions.updateCount target = board.display.regions.updateCount target + more) :
    Tallied target (updates + more) handled (board.setRegions regions) where
  known := tallied.known
  statuses := tallied.statuses
  cycles := tallied.cycles
  successes := tallied.successes
  updates := by
    have updates := tallied.updates
    simp only [Board.setRegions, entered]
    omega
  gauge := tallied.gauge

/-- A deed keeps the accounts and what the loops remember. -/
theorem Tallied.perform {target : String} {updates : Nat} {handled : List Handled} {board : Board}
    (tallied : Tallied target updates handled board) (remembers : Remembers handled board)
    (deed : Deed) :
    Tallied target (updates + if deed.writesTo target then 1 else 0)
      (handled ++ board.handledBy deed) (board.perform deed) ∧
    Remembers (handled ++ board.handledBy deed) (board.perform deed) := by
  cases deed with
  | step step =>
      exact ⟨(Tallied.invariant ..).step step tallied, invariant_remembers.step step remembers⟩
  | register region initial =>
      rw [handledBy, List.append_nil]
      exact ⟨tallied.setRegions (Region.Store.updateCount_register ..), remembers.setRegions _⟩
  | write region content =>
      rw [handledBy, List.append_nil]
      refine ⟨tallied.setRegions ?_, remembers.setRegions _⟩
      rw [Region.Store.updateCount_setContent]
      simp [Deed.writesTo]

/-- Deeds keep the accounts and what the loops remember. -/
theorem Tallied.performAll {target : String} {updates : Nat} {handled : List Handled}
    {board : Board} (tallied : Tallied target updates handled board)
    (remembers : Remembers handled board) (deeds : List Deed) :
    Tallied target (updates + deeds.countP (Deed.writesTo target))
      (handled ++ board.handledThrough deeds) (board.performAll deeds) ∧
    Remembers (handled ++ board.handledThrough deeds) (board.performAll deeds) := by
  induction deeds generalizing updates handled board with
  | nil => simpa [Board.handledThrough, trail, Board.performAll] using ⟨tallied, remembers⟩
  | cons deed rest ih =>
      have step := tallied.perform remembers deed
      have later := ih step.1 step.2
      rw [List.append_assoc] at later
      rw [List.countP_cons, Nat.add_comm (List.countP ..), ← Nat.add_assoc]
      exact later

/-- At the beginning nothing is accounted for but what the region was before. -/
theorem Tallied.of_blank {board : Board} (unmetered : board.display.metrics = {})
    (target : String) : Tallied target (board.display.regions.updateCount target) [] board := by
  constructor
  · exact nofun
  all_goals rw [unmetered]
  all_goals rfl

theorem Remembers.of_blank {board : Board} (blank : Blank board) : Remembers [] board where
  known := nofun
  streaks index loop present := by
    rw [blank.loops] at present
    cases present
  tolerated _ := rfl

/-- After any run, with writes from outside at any point of it, the accounts of
every target agree. Both families of counters sum up to the completions that the
loops with the target handled; the completions with status 200 are the successes;
the region was updated from outside, by the successes and by the hard failures;
every loop tolerated one failure of each maximal run of failures; and the gauge is
the failure counter of the loop that handled the latest completion. -/
theorem accounts_agree {origin : Board} (blank : Blank origin)
    (unmetered : origin.display.metrics = {}) (deeds : List Deed) (target : String) :
    let board := origin.performAll deeds
    let handled := origin.handledThrough deeds
    let metrics := board.display.metrics
    let completions := board.completionsFor target handled
    metrics.statusTotal target = metrics.cycleTotal target ∧
    metrics.cycleTotal target = completions.length ∧
    Tally.count (target, 200) metrics.statuses =
      Tally.count (target, Outcome.success.label) metrics.cycles ∧
    board.display.regions.updateCount target =
      (origin.display.regions.updateCount target + deeds.countP (Deed.writesTo target)) +
        Tally.count (target, Outcome.success.label) metrics.cycles +
        Tally.count (target, Outcome.hardFailure.label) metrics.cycles ∧
    (∀ index, (outcomesOf index handled).count .toleratedFailure =
      (failureRuns (completionsOf index handled)).length) ∧
    metrics.gauge? target =
      completions.getLast?.bind fun latest => board.failures? latest.loop := by
  intro board handled metrics completions
  obtain ⟨tallied, remembers⟩ :=
    (Tallied.of_blank unmetered target).performAll (.of_blank blank) deeds
  exact ⟨tallied.statuses.trans tallied.cycles.symm, tallied.cycles, tallied.successes,
    tallied.updates, remembers.tolerated, tallied.gauge⟩

/-- Two loops poll into one region. The cycles of the first overlap, and in between
the region is written from outside. -/
def crowd : List Deed :=
  [.register "left" "wait", .step (.start "" "left" 5 fun _ => []),
    .step (.start "" "left" 7 fun _ => [.opened, .done 500 ""]), .step (.restart 0),
    .step (.send 0 1 [.done 404 "", .done 0 ""]), .write "left" "by hand",
    .step (.send 0 0 [.done 200 "up"]), .step (.advance 7), .step (.event 0 (.done 503 ""))]

/-- Of six completions one is a success and two are hard failures; the first loop
had two runs of failures, and the last of them goes on. -/
theorem accounts_agree_crowd :
    let board := bare.performAll crowd
    board.display.metrics.statusTotal "left" = 6 ∧
    board.display.metrics.cycleTotal "left" = 6 ∧
    board.display.regions.updateCount "left" = 1 + 1 + 2 ∧
    (outcomesOf 0 (bare.handledThrough crowd)).count .toleratedFailure = 2 ∧
    board.display.metrics.gauge? "left" = some 1 := by
  intro board
  obtain ⟨totals, cycles, -, updates, tolerated, gauge⟩ :=
    @accounts_agree bare ⟨rfl, rfl⟩ rfl crowd "left"
  have completions :
      (board.completionsFor "left" (bare.handledThrough crowd)).length = 6 := by decide +kernel
  have latest : ((board.completionsFor "left" (bare.handledThrough crowd)).getLast?.bind
      fun latest => board.failures? latest.loop) = some 1 := by decide +kernel
  have counted : Tally.count ("left", "success") board.display.metrics.cycles = 1 ∧
      Tally.count ("left", "hard_failure") board.display.metrics.cycles = 2 := by
    decide +kernel
  have runs : (failureRuns (completionsOf 0 (bare.handledThrough crowd))).length = 2 := by
    decide +kernel
  have written : bare.display.regions.updateCount "left" +
      crowd.countP (Deed.writesTo "left") = 1 := by decide
  refine ⟨totals.trans (cycles.trans completions), cycles.trans completions, ?_,
    (tolerated 0).trans runs, gauge.trans latest⟩
  rw [written, Outcome.label, Outcome.label, counted.1, counted.2] at updates
  exact updates

end Board

end PanelBoard.Poll
