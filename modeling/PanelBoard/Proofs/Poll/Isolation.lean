import PanelBoard.Proofs.Poll.Course
import PanelBoard.Proofs.Poll.Surface

/-!
# Isolation

Loops share a clock and a display and nothing else. A run from which every step
of the other loops is deleted gives a loop the same course and, unless another
loop has its target, the same surface.
-/

namespace PanelBoard.Poll

namespace Board

/-! ## A board with one of the loops only -/

/-- What is left of a step when everything that starts or names another loop is
deleted. The loop that is left is the first one. -/
def isolateStep (index : Nat) (board : Board) (step : Step) : List Step :=
  match step, (board.step step).1 with
  | .start .., .started _ => if board.loops.length = index then [step] else []
  | .send other request changes, _ => if other = index then [.send 0 request changes] else []
  | .close other request, _ => if other = index then [.close 0 request] else []
  | .restart other, _ => if other = index then [.restart 0] else []
  | .event other change, _ => if other = index then [.event 0 change] else []
  | _, _ => [step]

/-- What is left of a run when everything that starts or names another loop is deleted. -/
def isolated (index : Nat) (board : Board) (steps : List Step) : List Step :=
  along (isolateStep index) board steps

/-- A board that has nothing but one of the loops of another board. -/
structure Mirrors (index : Nat) (full alone : Board) : Prop where
  settings : alone.settings = full.settings
  now : alone.now = full.now
  loops : alone.loops = (full.loops[index]?).toList
  timers : alone.timers = (full.pending index).map (⟨·, 0⟩)
  surface : ∀ {target}, full.Unshared index target →
    alone.display.surface target = full.display.surface target

namespace Mirrors

variable {index other : Nat} {full alone : Board}

theorem loop (mirrors : Mirrors index full alone) : alone.loops[0]? = full.loops[index]? := by
  rw [mirrors.loops]
  cases full.loops[index]? <;> rfl

/-- The loop is changed on both boards alike. -/
theorem own {change : Loop → Loop} {count : Loop → Nat} {next lone : Board}
    (mirrors : Mirrors index full alone) (moves : Moves index change count full next)
    (follows : Moves 0 change count alone lone)
    (surface : ∀ {target}, full.Unshared index target →
      lone.display.surface target = next.display.surface target) :
    Mirrors index next lone where
  settings := by rw [follows.settings, moves.settings, mirrors.settings]
  now := by rw [follows.now, moves.now, mirrors.now]
  loops := by
    rw [follows.loops, moves.loops, mirrors.loops, List.getElem?_modify_eq]
    cases full.loops[index]? <;> rfl
  timers := by
    rw [follows.timers, moves.pending, if_pos rfl, mirrors.timers, List.map_append]
    congr 1
    rw [newTimers, mirrors.loop, mirrors.now]
    cases full.loops[index]? <;> simp
  surface unshared := surface (moves.unshared_iff.mp unshared)

/-- Another loop is changed, and the board without it stays as it is. -/
theorem apart {change : Loop → Loop} {count : Loop → Nat} {next : Board}
    (mirrors : Mirrors index full alone) (different : other ≠ index)
    (moves : Moves other change count full next)
    (surface : ∀ {target}, full.Unshared index target →
      next.display.surface target = full.display.surface target) :
    Mirrors index next alone where
  settings := by rw [moves.settings, mirrors.settings]
  now := by rw [moves.now, mirrors.now]
  loops := by rw [moves.loops, mirrors.loops, List.getElem?_modify_ne _ _ different]
  timers := by rw [moves.pending, if_neg different, List.append_nil, mirrors.timers]
  surface unshared := by
    have before := moves.unshared_iff.mp unshared
    rw [mirrors.surface before, surface before]

/-- Both boards display alike what the loop makes of a change. -/
theorem surface_handle (mirrors : Mirrors index full alone) (change : Response) {target : String}
    (unshared : full.Unshared index target) :
    (alone.handle 0 change).2.display.surface target =
      (full.handle index change).2.display.surface target := by
  have same := mirrors.surface unshared
  cases present : full.loops[index]? with
  | none => rw [handle_of_absent present, handle_of_absent (mirrors.loop.trans present), same]
  | some loop =>
      rw [handle_of_present present, handle_of_present (mirrors.loop.trans present)]
      by_cases hit : target = loop.request.target
      · subst hit
        have message : alone.failureMessage = full.failureMessage :=
          congrArg Prod.snd mirrors.settings
        simp only [reaction, message]
        exact surface_react_congr same
      · simp only [reaction]
        rw [surface_react_of_ne hit, surface_react_of_ne hit, same]

theorem handle (mirrors : Mirrors index full alone) (change : Response) :
    Mirrors index (full.handle index change).2 (alone.handle 0 change).2 :=
  mirrors.own (.handle change) (.handle change) (mirrors.surface_handle change)

theorem handle_apart (mirrors : Mirrors index full alone) (different : other ≠ index)
    (change : Response) : Mirrors index (full.handle other change).2 alone :=
  mirrors.apart different (.handle change) fun unshared =>
    surface_handle_of_ne fun loop present => unshared other loop different present

theorem receive (mirrors : Mirrors index full alone) (request : Nat) (change : Response) :
    Mirrors index (Board.receive index request full change)
      (Board.receive 0 request alone change) := by
  have follows : Moves 0 (Loop.deliver full.now request [change])
      (fun _ => completionCount [change]) alone (Board.receive 0 request alone change) :=
    mirrors.now ▸ .receive ..
  refine mirrors.own (.receive ..) follows fun unshared => ?_
  rw [receive_display, receive_display]
  exact mirrors.surface_handle change unshared

theorem receive_apart (mirrors : Mirrors index full alone) (different : other ≠ index)
    (request : Nat) (change : Response) :
    Mirrors index (Board.receive other request full change) alone := by
  refine mirrors.apart different (.receive ..) fun unshared => ?_
  rw [receive_display]
  exact surface_handle_of_ne fun loop present => unshared other loop different present

theorem foldl_receive (mirrors : Mirrors index full alone) (request : Nat)
    (changes : List Response) :
    Mirrors index (changes.foldl (Board.receive index request) full)
      (changes.foldl (Board.receive 0 request) alone) := by
  induction changes generalizing full alone with
  | nil => exact mirrors
  | cons change rest ih => exact ih (mirrors.receive request change)

theorem foldl_receive_apart (mirrors : Mirrors index full alone) (different : other ≠ index)
    (request : Nat) (changes : List Response) :
    Mirrors index (changes.foldl (Board.receive other request) full) alone := by
  induction changes generalizing full with
  | nil => exact mirrors
  | cons change rest ih => exact ih (mirrors.receive_apart different request change)

/-- A cycle of the loop is one on both boards. -/
theorem startCycle (mirrors : Mirrors index full alone) :
    Mirrors index (full.startCycle index) (alone.startCycle 0) := by
  cases present : full.loops[index]? with
  | none =>
      rw [startCycle_of_absent present, startCycle_of_absent (mirrors.loop.trans present)]
      exact mirrors
  | some loop =>
      rw [startCycle_of_present present, startCycle_of_present (mirrors.loop.trans present)]
      have sent : Mirrors index (full.sendGet index) (alone.sendGet 0) := by
        unfold sendGet
        rw [mirrors.now]
        exact mirrors.own (.updateLoop _ fun _ => rfl) (.updateLoop _ fun _ => rfl) mirrors.surface
      exact sent.foldl_receive ..

theorem startCycle_apart (mirrors : Mirrors index full alone) (different : other ≠ index) :
    Mirrors index (full.startCycle other) alone := by
  cases present : full.loops[other]? with
  | none =>
      rw [startCycle_of_absent present]
      exact mirrors
  | some loop =>
      rw [startCycle_of_present present]
      have sent : Mirrors index (full.sendGet other) alone :=
        mirrors.apart different (.updateLoop _ fun _ => rfl) fun _ => rfl
      exact sent.foldl_receive_apart different ..

/-- Of cycles started in a row, those of the loop are started on both boards. -/
theorem foldl_startCycle (mirrors : Mirrors index full alone) (indices : List Nat) :
    Mirrors index (indices.foldl Board.startCycle full)
      ((List.replicate (indices.count index) 0).foldl Board.startCycle alone) := by
  induction indices generalizing full alone with
  | nil => exact mirrors
  | cons first rest ih =>
      by_cases same : first = index
      · subst same
        rw [List.count_cons_self, List.replicate_succ]
        exact ih mirrors.startCycle
      · rw [List.count_cons_of_ne same]
        exact ih (mirrors.startCycle_apart same)

/-- Timers of the loop fire on both boards. -/
theorem fireAt (mirrors : Mirrors index full alone) (instant : Nat) :
    Mirrors index (full.fireAt instant) (alone.fireAt instant) := by
  have ready : (alone.timers.filter (·.due == instant)).map Timer.loop =
      List.replicate (((full.timers.filter (·.due == instant)).map Timer.loop).count index) 0 := by
    rw [count_due, mirrors.timers, List.filter_map, List.map_map]
    refine List.eq_replicate_iff.mpr ⟨?_, ?_⟩
    · rw [List.length_map, List.count_eq_length_filter]
      rfl
    · intro index member
      obtain ⟨due, -, rfl⟩ := List.mem_map.mp member
      rfl
  have stopped : Mirrors index
      { full with
        now := instant
        timers := full.timers.filter fun timer => !(timer.due == instant) }
      { alone with
        now := instant
        timers := alone.timers.filter fun timer => !(timer.due == instant) } := by
    refine ⟨mirrors.settings, rfl, mirrors.loops, ?_, mirrors.surface⟩
    have waiting := full.pending_filter index fun due => !(due == instant)
    rw [mirrors.timers, List.filter_map]
    exact congrArg (List.map fun due => (⟨due, 0⟩ : Timer)) waiting.symm
  rw [fireAt_eq, fireAt_eq, ready]
  exact stopped.foldl_startCycle _

/-- Time passes alike on both boards. -/
theorem runUntil (mirrors : Mirrors index full alone) (deadline after : Nat) :
    Mirrors index (full.runUntil deadline after) (alone.runUntil deadline after) := by
  have owned : ∀ {full alone : Board}, Mirrors index full alone → ∀ timer ∈ alone.timers,
      ∃ own ∈ full.timers, own.due = timer.due := by
    intro full alone mirrors timer member
    rw [mirrors.timers, pending, List.map_map] at member
    obtain ⟨own, there, rfl⟩ := List.mem_map.mp member
    exact ⟨own, (List.mem_filter.mp there).1, rfl⟩
  fun_induction Board.runUntil deadline after full generalizing alone with
  | case1 after full quiet =>
      have still : nextDue? alone.timers after deadline = none := by
        refine nextDue?_eq_none_iff.mpr fun timer member later => ?_
        obtain ⟨own, there, same⟩ := owned mirrors timer member
        rw [← same] at later ⊢
        exact nextDue?_eq_none_iff.mp quiet own there later
      rw [runUntil_of_none still]
      exact ⟨mirrors.settings, rfl, mirrors.loops, mirrors.timers, mirrors.surface⟩
  -- The instant may be that of another loop's timer; then `alone` only moves its clock.
  | case2 after full instant soon _ ih =>
      have bounds := nextDue?_bounds soon
      rw [alone.runUntil_eq_fireAt bounds.1 bounds.2]
      · exact ih (mirrors.fireAt instant)
      · intro timer member later
        obtain ⟨own, there, same⟩ := owned mirrors timer member
        rw [← same] at later ⊢
        exact nextDue?_le soon there later

theorem get? (mirrors : Mirrors index full alone) (request : Nat) :
    alone.get? 0 request = full.get? index request := by
  rw [Board.get?, mirrors.loop, Board.get?]

/-- The loop is put on both boards. -/
theorem addLoop (mirrors : Mirrors index full alone) (turn : full.loops.length = index)
    (request : Request) (transport : Transport) :
    Mirrors index (full.addLoop request transport) (alone.addLoop request transport) := by
  have empty : alone.loops = [] := by
    rw [mirrors.loops, List.getElem?_eq_none (Nat.le_of_eq turn)]
    rfl
  have length : alone.loops.length = 0 := congrArg List.length empty
  unfold Board.addLoop
  rw [length, turn]
  apply startCycle
  refine ⟨mirrors.settings, mirrors.now, ?_, mirrors.timers, fun unshared => mirrors.surface ?_⟩
  · simp [empty, ← turn]
  · intro other loop away present
    exact unshared other loop away
      ((List.getElem?_append_left (List.getElem?_eq_some_iff.mp present).1).trans present)

/-- Another loop is put on the board. -/
theorem addLoop_apart (mirrors : Mirrors index full alone) (different : full.loops.length ≠ index)
    (request : Request) (transport : Transport) :
    Mirrors index (full.addLoop request transport) alone := by
  unfold Board.addLoop
  refine startCycle_apart ?_ different
  refine ⟨mirrors.settings, mirrors.now, ?_, mirrors.timers, fun unshared => mirrors.surface ?_⟩
  · have same : (full.loops ++ [{ request, transport : Loop }])[index]? = full.loops[index]? := by
      rw [List.getElem?_append]
      split
      · rfl
      · next beyond =>
          rw [List.getElem?_eq_none (Nat.le_of_not_lt beyond), List.getElem?_eq_none]
          simp only [List.length_singleton]
          omega
    rw [same, mirrors.loops]
  · intro other loop away present
    exact unshared other loop away
      ((List.getElem?_append_left (List.getElem?_eq_some_iff.mp present).1).trans present)

/-- What is left of a step does to the loop what the step does. -/
theorem step (mirrors : Mirrors index full alone) (step : Step) :
    Mirrors index (full.step step).2 (alone.run (isolateStep index full step)) := by
  cases step with
  | start reference target refresh transport =>
      have base : alone.base = full.base := congrArg Prod.fst mirrors.settings
      cases created : Request.create full.base reference target refresh with
      | error cause =>
          simpa [isolateStep, Board.step, startPoll, base, created] using mirrors
      | ok request =>
          by_cases turn : full.loops.length = index
          · simpa [isolateStep, Board.step, startPoll, base, created, turn] using
              mirrors.addLoop turn request transport
          · simpa [isolateStep, Board.step, startPoll, created, turn] using
              mirrors.addLoop_apart turn request transport
  | advance elapsed =>
      have passed := mirrors.runUntil (full.now + elapsed) full.now
      simpa [isolateStep, Board.step, Board.advance, mirrors.now] using passed
  | send other request changes =>
      by_cases same : other = index
      · subst same
        simp only [isolateStep, if_pos, run_cons, run_nil, Board.step, mirrors.get?]
        split
        · exact mirrors
        · split
          · exact mirrors.foldl_receive request changes
          · exact mirrors
      · simp only [isolateStep, if_neg same, run_nil, Board.step]
        split
        · exact mirrors
        · split
          · exact mirrors.foldl_receive_apart same request changes
          · exact mirrors
  | close other request =>
      by_cases same : other = index
      · subst same
        simp only [isolateStep, if_pos, run_cons, run_nil, Board.step, mirrors.get?]
        split
        · exact mirrors
        · split
          · exact mirrors.own (.closeGet ..) (.closeGet ..) mirrors.surface
          · exact mirrors
      · simp only [isolateStep, if_neg same, run_nil, Board.step]
        split
        · exact mirrors
        · split
          · exact mirrors.apart same (.closeGet ..) fun _ => rfl
          · exact mirrors
  | restart other =>
      by_cases same : other = index
      · subst same
        simpa [isolateStep, Board.step] using mirrors.startCycle
      · simpa [isolateStep, Board.step, same] using mirrors.startCycle_apart same
  | event other change =>
      by_cases same : other = index
      · subst same
        simpa [isolateStep, Board.step] using mirrors.handle change
      · simpa [isolateStep, Board.step, same] using mirrors.handle_apart same change

/-- What is left of a run does to the loop what the run does. -/
theorem run (mirrors : Mirrors index full alone) (steps : List Step) :
    Mirrors index (full.run steps) (alone.run (isolated index full steps)) := by
  induction steps generalizing full alone with
  | nil => exact mirrors
  | cons step rest ih =>
      rw [run_cons, isolated, along, run_append]
      exact ih (mirrors.step step)

/-- A board before its first step has nothing to delete. -/
theorem of_blank (blank : Blank full) (index : Nat) : Mirrors index full full where
  settings := rfl
  now := rfl
  loops := by rw [blank.loops]; rfl
  timers := by rw [pending, blank.timers]; rfl
  surface _ := rfl

end Mirrors

private theorem lone_pending (dues : List Nat) :
    (((dues.map fun due => (⟨due, 0⟩ : Timer)).filter (·.loop == 0)).map Timer.due) = dues := by
  induction dues with
  | nil => rfl
  | cons due rest ih => simpa using ih

/-- Deleting the starts of other loops and the steps that name them changes
nothing for a loop, at no point of the run: the loop itself, with its cycles, its
failure counter and its GETs, and its timers are the same. Unless another loop
has its target, so are its region and the samples with its label. -/
theorem loops_share_nothing {origin : Board} (blank : Blank origin) (index : Nat)
    {before steps : List Step} (earlier : before <+: steps) :
    let full := origin.run before
    let alone := origin.run (isolated index origin before)
    isolated index origin before <+: isolated index origin steps ∧
    alone.loops = (full.loops[index]?).toList ∧
    alone.pending 0 = full.pending index ∧
    ∀ loop, full.loops[index]? = some loop → full.Unshared index loop.request.target →
      alone.display.regions.get? loop.request.target =
        full.display.regions.get? loop.request.target ∧
      (alone.display.metrics.samples.filter (Metrics.Sample.isAbout loop.request.target)).Perm
        (full.display.metrics.samples.filter (Metrics.Sample.isAbout loop.request.target)) := by
  intro full alone
  have mirrors : Mirrors index full alone := (Mirrors.of_blank blank index).run before
  refine ⟨?_, mirrors.loops, ?_, fun loop present unshared => ?_⟩
  · obtain ⟨after, rfl⟩ := earlier
    rw [isolated, isolated, along_append]
    exact List.prefix_append ..
  · rw [pending, mirrors.timers]
    exact lone_pending (full.pending index)
  · have surface := mirrors.surface unshared
    have region : alone.display.regions.get? loop.request.target =
        full.display.regions.get? loop.request.target := congrArg Surface.region surface
    have metrics : alone.display.metrics.about loop.request.target =
        full.display.metrics.about loop.request.target := congrArg Surface.metrics surface
    refine ⟨region, (Metrics.samples_about _ _).trans ?_⟩
    rw [metrics]
    exact (Metrics.samples_about _ _).symm

/-- A run of two loops with timers due at the same instant. -/
def pairRun : List Step :=
  [.start "" "left" 5 fun _ => [.done 500 ""], .start "" "right" 10 fun _ => [.done 500 ""],
    .advance 10, .event 0 (.done 200 "up"), .send 1 0 [.done 200 "fine"], .restart 0, .advance 10]

/-- Without its neighbour the right loop shows the same. -/
theorem loops_share_nothing_right :
    let alone := bare.run (isolated 1 bare pairRun)
    (isolated 1 bare pairRun).length = 4 ∧
    alone.loops.length = 1 ∧
    alone.display.regions.get? "right" = (bare.run pairRun).display.regions.get? "right" ∧
    (alone.display.metrics.samples.filter (Metrics.Sample.isAbout "right")).Perm
      ((bare.run pairRun).display.metrics.samples.filter (Metrics.Sample.isAbout "right")) := by
  intro alone
  have targets : (bare.run pairRun).loops.map (·.request.target) = ["left", "right"] := by
    decide +kernel
  obtain ⟨loop, present⟩ : ∃ loop, (bare.run pairRun).loops[1]? = some loop :=
    Option.isSome_iff_exists.mp (by decide +kernel)
  have right : "right" = loop.request.target := by
    have named : ((bare.run pairRun).loops.map (·.request.target))[1]? =
        some loop.request.target := by
      rw [List.getElem?_map, present, Option.map_some]
    rw [targets] at named
    exact Option.some.inj named
  have unshared : (bare.run pairRun).Unshared 1 "right" := by
    rw [unshared_iff, targets]
    rintro (- | - | other) away
    · decide
    · exact (away rfl).elim
    · exact nofun
  have blank : Blank bare := ⟨rfl, rfl⟩
  obtain ⟨-, loops, -, shows⟩ := loops_share_nothing blank 1 (List.prefix_refl pairRun)
  rw [right] at unshared ⊢
  refine ⟨by decide +kernel, ?_, shows loop present unshared⟩
  rw [loops, present]
  rfl

end Board

end PanelBoard.Poll
