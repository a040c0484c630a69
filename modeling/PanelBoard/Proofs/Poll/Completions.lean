import PanelBoard.Proofs.Metrics
import PanelBoard.Proofs.Poll.Cycle
import PanelBoard.Proofs.Region.Writing

/-!
# What completions leave behind

A fresh loop handles ready-state changes in any order, next to those that other
loops handle, and nobody else writes its region. Where it then stands is decided
by its completions: the latest one decides its failure counter and the next
outcome, the latest two what its region shows.
-/

namespace PanelBoard.Poll

/-! ## Completions, the latest first -/

/-- The completions among the changes that a loop handled, the latest first. -/
def recentCompletions (changes : List Response) : List Response :=
  (changes.filter Response.isComplete).reverse

/-- The outcome of a completion, given the one before it. A failure is tolerated
unless the completion before it failed too. -/
def Outcome.following (previous : Option Response) (completion : Response) : Outcome :=
  if completion.isOk then .success
  else if previous.all Response.isOk then .toleratedFailure
  else .hardFailure

/-- The outcomes of completions, the latest first. -/
def outcomes : List Response → List Outcome
  | [] => []
  | latest :: earlier => Outcome.following earlier.head? latest :: outcomes earlier

/-- The failure counter when `latest` is the latest completion. -/
def failuresSince (latest : Option Response) : Nat :=
  if latest.all Response.isOk then 0 else 1

/-- What a region shows after completions, the latest first: at most two of them matter. -/
def shown (failureMessage : String) (initial : Option String) : List Response → Option String
  | [] => initial
  | [only] => if only.isOk then some only.body else initial
  | latest :: previous :: _ =>
    if latest.isOk then some latest.body
    else if previous.isOk then some previous.body
    else some failureMessage

@[simp] theorem recentCompletions_concat (changes : List Response) (response : Response) :
    recentCompletions (changes ++ [response]) =
      if response.isComplete then response :: recentCompletions changes
      else recentCompletions changes := by
  by_cases complete : response.isComplete = true <;> simp [recentCompletions, complete]

theorem Streak.failures_since (latest : Option Response) :
    (Streak.since latest).failures = failuresSince latest := by
  unfold Streak.since failuresSince
  split <;> rfl

theorem Streak.outcome_since (previous : Option Response) (completion : Response) :
    (Streak.since previous).outcome completion = .following previous completion := by
  unfold Streak.outcome Outcome.following Streak.since
  split
  · rfl
  · split <;> rfl

/-- Writing what the outcome asks for shows what the latest two completions ask for. -/
theorem content?_write_following {regions : Region.Store} {target failureMessage : String}
    {initial : Option String} {recent : List Response} (latest : Response)
    (content : regions.content? target = shown failureMessage initial recent) :
    ((Outcome.following recent.head? latest).write target failureMessage latest.body
      regions).content? target = shown failureMessage initial (latest :: recent) := by
  by_cases ok : latest.isOk = true
  · have written : shown failureMessage initial (latest :: recent) = some latest.body := by
      cases recent <;> simp [shown, ok]
    simp [written, Outcome.following, ok, Outcome.write, Region.Store.content?_eq_map_get?,
      Region.Store.get?_setContent_self]
  · cases recent with
    | nil => simpa [Outcome.following, ok, Outcome.write, shown] using content
    | cons previous earlier =>
        by_cases calm : previous.isOk = true
        · have kept : shown failureMessage initial (previous :: earlier) = some previous.body := by
            cases earlier <;> simp [shown, calm]
          rw [kept] at content
          simpa [Outcome.following, ok, calm, Outcome.write, shown] using content
        · simp [Outcome.following, ok, calm, Outcome.write, shown,
            Region.Store.content?_eq_map_get?, Region.Store.get?_setContent_self]

/-- An outcome other than a tolerated failure is one update of the region. -/
theorem updateCount_write (outcome : Outcome) (regions : Region.Store)
    (target failureMessage body : String) :
    (outcome.write target failureMessage body regions).updateCount target =
      regions.updateCount target + if outcome = .toleratedFailure then 0 else 1 := by
  cases outcome <;>
    simp [Outcome.write, Region.Store.updateCount, Region.Store.get?_setContent_self]

/-! ## Handling changes -/

namespace Board

/-- Hand changes to the loops of a board, each to the loop that it names. -/
def handleAll (board : Board) (arrivals : List (Nat × Response)) : Board :=
  arrivals.foldl (fun board arrival => (board.handle arrival.1 arrival.2).2) board

/-- The changes that one loop handles. -/
def changesOf (index : Nat) (arrivals : List (Nat × Response)) : List Response :=
  (arrivals.filter (·.1 == index)).map (·.2)

/-- While the changes are handled, no other loop writes the region. -/
def SoleWriter (index : Nat) (region : String) : Board → List (Nat × Response) → Prop
  | _, [] => True
  | board, (other, response) :: rest =>
    (other ≠ index →
      (board.handle other response).2.display.regions.get? region =
        board.display.regions.get? region) ∧
    SoleWriter index region (board.handle other response).2 rest

/-- Where a loop stands after completions, the latest first, next to the board
`origin` on which it was fresh. -/
structure Reflects (origin board : Board) (index : Nat) (request : Request)
    (recent : List Response) : Prop where
  settings : board.settings = origin.settings
  loop : ∃ loop, board.loops[index]? = some loop ∧ loop.request = request ∧
    loop.streak = .since recent.head?
  content : board.display.regions.content? request.target =
    shown origin.failureMessage (origin.display.regions.content? request.target) recent
  updates : board.display.regions.updateCount request.target =
    origin.display.regions.updateCount request.target +
      (outcomes recent).countP (· ≠ .toleratedFailure)

namespace Reflects

variable {origin board : Board} {index : Nat} {request : Request} {recent : List Response}

/-- A fresh loop stands where no completion has left it. -/
theorem of_fresh {loop : Loop} (present : origin.loops[index]? = some loop)
    (fresh : loop.streak = .clear) : Reflects origin origin index loop.request [] where
  settings := rfl
  loop := ⟨loop, present, rfl, fresh⟩
  content := rfl
  updates := rfl

/-- A change of another loop that does not write the region leaves the loop where it stands. -/
theorem other (reflects : Reflects origin board index request recent) {next : Nat}
    {response : Response} (different : next ≠ index)
    (unwritten : (board.handle next response).2.display.regions.get? request.target =
      board.display.regions.get? request.target) :
    Reflects origin (board.handle next response).2 index request recent := by
  obtain ⟨settings, ⟨loop, present, same, streak⟩, content, updates⟩ := reflects
  constructor
  · rw [handle_settings, settings]
  · exact ⟨loop, by simpa [List.getElem?_modify_ne, different] using present, same, streak⟩
  · rw [Region.Store.content?_eq_map_get?, unwritten, ← Region.Store.content?_eq_map_get?, content]
  · rw [← updates, Region.Store.updateCount, unwritten, Region.Store.updateCount]

/-- A change that completes nothing has no outcome and touches nothing but the log. -/
theorem handle_incomplete (reflects : Reflects origin board index request recent)
    {response : Response} (incomplete : response.isComplete = false) :
    board.handle index response =
      (none, { board with log := board.log ++ [.notComplete response.state] }) := by
  obtain ⟨loop, present, -, -⟩ := reflects.loop
  exact handle_of_incomplete present incomplete

/-- The outcome of a completion is decided by the completion before it. -/
theorem handle_outcome (reflects : Reflects origin board index request recent)
    {response : Response} (complete : response.isComplete = true) :
    (board.handle index response).1 = some (.following recent.head? response) := by
  obtain ⟨loop, present, -, streak⟩ := reflects.loop
  rw [handle_outcome_of_complete present complete, streak, Streak.outcome_since]

/-- A completion becomes the latest one. -/
theorem complete (reflects : Reflects origin board index request recent)
    {response : Response} (complete : response.isComplete = true) :
    Reflects origin (board.handle index response).2 index request (response :: recent) := by
  obtain ⟨settings, ⟨loop, present, same, streak⟩, content, updates⟩ := reflects
  have message : board.failureMessage = origin.failureMessage := congrArg Prod.snd settings
  have regions : (board.handle index response).2.display.regions =
      (Outcome.following recent.head? response).write request.target origin.failureMessage
        response.body board.display.regions := by
    rw [handle_display_of_complete present complete, streak, Streak.outcome_since, same, message]
  constructor
  · rw [handle_settings, settings]
  · refine ⟨{ loop with streak := loop.streak.after response }, ?_, same, ?_⟩
    · simp [present]
    · simp [Streak.after_of_complete _ complete]
  · rw [regions]
    exact content?_write_following response content
  · rw [regions, updateCount_write, updates, outcomes, List.countP_cons]
    simp [Nat.add_assoc, ite_not]

/-- A change of the loop keeps the account of its completions. -/
theorem own (reflects : Reflects origin board index request recent) (response : Response) :
    Reflects origin (board.handle index response).2 index request
      (if response.isComplete then response :: recent else recent) := by
  by_cases complete : response.isComplete = true
  · simpa [complete] using reflects.complete complete
  · have incomplete : response.isComplete = false := by simpa using complete
    rw [reflects.handle_incomplete incomplete, if_neg complete]
    exact ⟨reflects.settings, reflects.loop, reflects.content, reflects.updates⟩

/-- The account of a loop's completions survives every list of changes. -/
theorem handleAll {changes : List Response}
    (reflects : Reflects origin board index request (recentCompletions changes))
    (arrivals : List (Nat × Response)) (sole : SoleWriter index request.target board arrivals) :
    Reflects origin (board.handleAll arrivals) index request
      (recentCompletions (changes ++ changesOf index arrivals)) := by
  induction arrivals generalizing board changes with
  | nil => simpa [Board.handleAll, changesOf] using reflects
  | cons arrival rest ih =>
      obtain ⟨next, response⟩ := arrival
      obtain ⟨unwritten, sole⟩ := sole
      by_cases same : next = index
      · subst same
        have step : Reflects origin (board.handle next response).2 next request
            (recentCompletions (changes ++ [response])) := by
          simpa using reflects.own response
        simpa [Board.handleAll, changesOf] using ih step sole
      · have step := reflects.other same (unwritten same)
        simpa [Board.handleAll, changesOf, same] using ih step sole

/-- A completion is counted once, with its outcome and the failure counter it leaves. -/
theorem counts (reflects : Reflects origin board index request recent) {response : Response}
    (complete : response.isComplete = true) :
    board.display.metrics.CountsOnce (board.handle index response).2.display.metrics
      request.target response.status (Outcome.following recent.head? response).label
      (failuresSince (some response)) := by
  obtain ⟨loop, present, same, streak⟩ := reflects.loop
  have metrics : (board.handle index response).2.display.metrics =
      (board.display.metrics.recordStatus request.target response.status).recordCycle
        request.target (Outcome.following recent.head? response).label
        (failuresSince (some response)) := by
    rw [handle_display_of_complete present complete, Streak.after_of_complete _ complete,
      Streak.failures_since, streak, Streak.outcome_since, same]
  rw [metrics]
  exact Metrics.countsOnce_record ..

end Reflects

/-- A loop is the only writer of its region when no other loop has its target. -/
theorem soleWriter_of_unshared {board : Board} {index : Nat} {region : String}
    (unshared : board.Unshared index region) (arrivals : List (Nat × Response)) :
    SoleWriter index region board arrivals := by
  induction arrivals generalizing board with
  | nil => trivial
  | cons arrival rest ih =>
      obtain ⟨next, response⟩ := arrival
      refine ⟨fun different => ?_, ih ((Moves.handle response).unshared_iff.mpr unshared)⟩
      cases present : board.loops[next]? with
      | none => rw [handle_of_absent present]
      | some loop =>
          exact get?_handle_of_ne present (unshared next loop different present).symm

/-- After any changes a loop's completions decide where it stands. A further
change that completes nothing has no outcome and touches nothing but the log; a
further completion has the outcome that the one before it decides and is counted
once; the failure counter is decided by the latest completion, the region's
content by the latest two, and every outcome but a tolerated failure is one
update of the region. -/
theorem completions_decide {origin : Board} {index : Nat} {loop : Loop}
    (present : origin.loops[index]? = some loop) (fresh : loop.streak = .clear)
    (arrivals : List (Nat × Response))
    (sole : SoleWriter index loop.request.target origin arrivals) :
    let board := origin.handleAll arrivals
    let target := loop.request.target
    let recent := recentCompletions (changesOf index arrivals)
    (∀ response, response.isComplete = false →
      board.handle index response =
        (none, { board with log := board.log ++ [.notComplete response.state] })) ∧
    (∀ response, response.isComplete = true →
      (board.handle index response).1 = some (.following recent.head? response) ∧
      board.display.metrics.CountsOnce (board.handle index response).2.display.metrics target
        response.status (Outcome.following recent.head? response).label
        (failuresSince (some response))) ∧
    (board.loops[index]?).map (·.streak.failures) = some (failuresSince recent.head?) ∧
    board.display.regions.content? target =
      shown origin.failureMessage (origin.display.regions.content? target) recent ∧
    board.display.regions.updateCount target = origin.display.regions.updateCount target +
      (outcomes recent).countP (· ≠ .toleratedFailure) := by
  intro board target recent
  have start : Reflects origin origin index loop.request (recentCompletions []) :=
    .of_fresh present fresh
  have reflects : Reflects origin board index loop.request recent := start.handleAll arrivals sole
  refine ⟨fun _ => reflects.handle_incomplete, fun _ complete => ?_, ?_, reflects.content,
    reflects.updates⟩
  · exact ⟨reflects.handle_outcome complete, reflects.counts complete⟩
  · obtain ⟨loop, present, -, streak⟩ := reflects.loop
    rw [present, Option.map_some, streak, Streak.failures_since]

/-- A board with two fresh loops that show what they poll on the left and on the right. -/
def leftAndRight : Board :=
  { bare with
    loops := ["left", "right"].map fun target =>
      { request := { url := console, target, refresh := 5, refresh_pos := by decide }
        transport := fun _ => [] } }

/-- Two failures in a row on the left show, whatever is received on the right meanwhile. -/
theorem completions_decide_left :
    let board := leftAndRight.handleAll [(0, .done 500 ""), (0, .loading 200),
      (1, .done 200 "up"), (0, .done 404 "")]
    (board.handle 0 (.done 0 "")).1 = some .hardFailure ∧
    (board.loops[0]?).map (·.streak.failures) = some 1 ∧
    board.display.regions.content? "left" = some "down" ∧
    board.display.regions.updateCount "left" = 1 := by
  have unshared : leftAndRight.Unshared 0 "left" := by
    rw [unshared_iff]
    rintro (- | - | other) away
    · exact (away rfl).elim
    · decide
    · exact nofun
  obtain ⟨-, completion, failures, content, updates⟩ :=
    @completions_decide leftAndRight 0 _ rfl rfl [(0, .done 500 ""), (0, .loading 200),
      (1, .done 200 "up"), (0, .done 404 "")] (soleWriter_of_unshared unshared _)
  exact ⟨(completion (.done 0 "") rfl).1, failures, content, updates⟩

end Board

end PanelBoard.Poll
