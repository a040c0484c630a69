import PanelBoard.Daemon.Launch
import PanelBoard.Proofs.Poll.Completions
import PanelBoard.Proofs.Poll.Handling
import PanelBoard.Proofs.Poll.Panels
import PanelBoard.Proofs.Region.Listing
import PanelBoard.Proofs.Success

/-!
# Ownership of regions

An accepted configuration gives every panel a target of its own. Its regions are
registered before any loop starts, in the order of the panels, and each loop
writes to the region of its panel only. What a region shows is therefore decided
by what one loop handled, whatever the others do meanwhile.
-/

namespace PanelBoard.Poll

/-! ## Registered panels -/

/-- A store with the regions of panels lists them last, in order, if each is new. -/
theorem listing_registerPanels {panels : List Config.Panel} {regions : Region.Store}
    (distinct : (panels.map Config.Panel.target).Nodup)
    (new : ∀ panel ∈ panels, regions.contains panel.target = false) :
    (registerPanels panels regions).listing =
      regions.listing ++ (panels.map Config.Panel.target).zipIdx regions.listing.length := by
  induction panels generalizing regions with
  | nil => simp [registerPanels]
  | cons panel rest ih =>
      obtain ⟨absent, distinct⟩ := List.nodup_cons.mp distinct
      have unlisted := new panel List.mem_cons_self
      have listed := Region.Store.listing_register unlisted (panel.initialContent.getD "")
      have later : ∀ other ∈ rest, (regions.register panel.target
          (panel.initialContent.getD "")).contains other.target = false := by
        intro other member
        have apart : panel.target ≠ other.target :=
          fun same => absent (same ▸ List.mem_map_of_mem member)
        have before := new other (List.mem_cons_of_mem _ member)
        rw [Region.Store.contains_eq_isSome] at before ⊢
        rw [Region.Store.get?_register, if_neg apart, Option.or_none, before]
      have rest := ih distinct later
      rw [listed] at rest
      simpa [registerPanels, List.zipIdx_cons] using rest

/-- Registering panels gives a region that was not there the initial content of the
first panel that has it as its target. -/
theorem get?_registerPanels (panels : List Config.Panel) (regions : Region.Store) (id : String) :
    (registerPanels panels regions).get? id =
      (regions.get? id).or ((panels.find? (·.target == id)).map fun panel =>
        { id := panel.target, content := panel.initialContent.getD "", updates := 0 }) := by
  induction panels generalizing regions with
  | nil => simp [registerPanels]
  | cons panel rest ih =>
      have step := ih (regions.register panel.target (panel.initialContent.getD ""))
      rw [Region.Store.get?_register, Option.or_assoc] at step
      rw [registerPanels, List.foldl_cons, ← registerPanels, step]
      by_cases same : panel.target = id <;> simp [same]

/-- A panel is found by its target if the targets are distinct. -/
theorem find?_target {panels : List Config.Panel}
    (distinct : (panels.map Config.Panel.target).Nodup) {panel : Config.Panel}
    (member : panel ∈ panels) : panels.find? (·.target == panel.target) = some panel := by
  induction panels with
  | nil => cases member
  | cons head rest ih =>
      obtain ⟨absent, distinct⟩ := List.nodup_cons.mp distinct
      rcases List.mem_cons.mp member with rfl | later
      · simp
      · have apart : head.target ≠ panel.target :=
          fun same => absent (same ▸ List.mem_map_of_mem later)
        rw [List.find?_cons_of_neg (by simpa using apart), ih distinct later]

namespace Board

/-! ## Loops with regions of their own -/

/-- The targets of the loops of a board. -/
def targets (board : Board) : List String :=
  board.loops.map (·.request.target)

/-- No two loops have the same target, and every target is a region that was
registered beforehand. -/
structure Exclusive (origin board : Board) : Prop where
  distinct : board.targets.Nodup
  registered : ∀ target ∈ board.targets, origin.display.regions.contains target = true

/-- Every region is as its loop's completions have left it; no region came into
being that was not registered, and regions without a loop are as they were. -/
structure Owned (origin : Board) (handled : List Handled) (board : Board) : Prop where
  settings : board.settings = origin.settings
  listed : board.display.regions.listing = origin.display.regions.listing
  warned : ∀ region, Log.Event.unregisteredRegion region ∉ board.log
  reflects : ∀ (index : Nat) (loop : Loop), board.loops[index]? = some loop →
    Reflects origin board index loop.request (recentCompletions (changesTo index handled))
  untouched : ∀ region, region ∉ board.targets →
    board.display.regions.get? region = origin.display.regions.get? region

theorem targets_eq (board : Board) :
    board.targets = (board.loops.map Loop.request).map Request.target := by
  rw [targets, List.map_map]
  rfl

theorem targets_handle (board : Board) (index : Nat) (change : Response) :
    (board.handle index change).2.targets = board.targets := by
  rw [targets_eq, (Moves.handle change).requests, targets_eq]

theorem targets_seat (board : Board) (request : Request) (transport : Transport) :
    (board.seat request transport).targets = board.targets ++ [request.target] := by
  simp [targets, seat]

theorem Resembles.targets {before after : Board} (resembles : before.Resembles after) :
    after.targets = before.targets := by
  have seen := congrArg (List.map fun face : Request × Streak => face.1.target) resembles.faces
  rwa [List.map_map, List.map_map] at seen

/-- A loop stands where it stood on a board that looks the same. -/
theorem Reflects.rests {origin before after : Board} {index : Nat} {request : Request}
    {recent : List Response} (reflects : Reflects origin before index request recent)
    (resembles : before.Resembles after) : Reflects origin after index request recent := by
  obtain ⟨settings, ⟨loop, present, same, streak⟩, content, updates⟩ := reflects
  obtain ⟨later, there, request, remembered⟩ := resembles.symm.present present
  refine ⟨resembles.settings.trans settings, ⟨later, there, request.trans same, ?_⟩, ?_, ?_⟩
  · rw [remembered, streak]
  · rw [resembles.display, content]
  · rw [resembles.display, updates]

section Exclusive

variable {origin board : Board}

/-- Loops of an exclusive board have different targets. -/
theorem Exclusive.apart (exclusive : Exclusive origin board) {first second : Nat}
    {loop other : Loop} (present : board.loops[first]? = some loop)
    (there : board.loops[second]? = some other) (different : first ≠ second) :
    loop.request.target ≠ other.request.target := by
  intro same
  have within : first < board.targets.length := by
    rw [targets, List.length_map]
    exact (List.getElem?_eq_some_iff.mp present).1
  refine different ((List.getElem?_inj within exclusive.distinct).mp ?_)
  simp [targets, present, there, same]

theorem Exclusive.target_registered (exclusive : Exclusive origin board) {index : Nat}
    {loop : Loop} (present : board.loops[index]? = some loop) :
    origin.display.regions.contains loop.request.target = true :=
  exclusive.registered _ (List.mem_map_of_mem (List.mem_of_getElem? present))

/-- A board was exclusive before a loop was put on it if it is exclusive then. -/
theorem Exclusive.of_seat {request : Request} {transport : Transport}
    (exclusive : Exclusive origin (board.seat request transport)) :
    Exclusive origin board ∧ request.target ∉ board.targets := by
  obtain ⟨distinct, registered⟩ := exclusive
  rw [targets_seat] at distinct registered
  obtain ⟨before, -, apart⟩ := List.nodup_append.mp distinct
  refine ⟨⟨before, fun target member => ?_⟩, fun member => ?_⟩
  · exact registered target (List.mem_append_left _ member)
  · exact apart _ member _ List.mem_cons_self rfl

/-- A change for one loop leaves the regions of the others as they are. -/
theorem Exclusive.unwritten (exclusive : Exclusive origin board) {index : Nat} {loop : Loop}
    (present : board.loops[index]? = some loop) {other : Nat} (different : other ≠ index)
    (change : Response) :
    (board.handle other change).2.display.regions.get? loop.request.target =
      board.display.regions.get? loop.request.target := by
  cases there : board.loops[other]? with
  | none => rw [handle_of_absent there]
  | some stranger => exact get?_handle_of_ne there (exclusive.apart present there different.symm)

end Exclusive

/-- Writes to regions in the store leave the listing as it is. -/
theorem listing_write {target : String} {regions : Region.Store}
    (present : regions.contains target = true) (outcome : Outcome)
    (failureMessage body : String) :
    (outcome.write target failureMessage body regions).listing = regions.listing := by
  cases outcome with
  | success => exact Region.Store.listing_setContent present body
  | toleratedFailure => rfl
  | hardFailure => exact Region.Store.listing_setContent present failureMessage

section Registered

variable {board : Board} {index : Nat} {loop : Loop}
  (present : board.loops[index]? = some loop)
  (registered : board.display.regions.contains loop.request.target = true) (change : Response)

include present registered

/-- A change for a loop whose region is there leaves the listing as it is. -/
theorem listing_handle :
    (board.handle index change).2.display.regions.listing = board.display.regions.listing := by
  by_cases complete : change.isComplete = true
  · rw [handle_display_of_complete present complete]
    exact listing_write registered _ _ _
  · rw [handle_of_incomplete present (by simpa using complete)]

/-- A change for a loop whose region is there finds no region missing. -/
theorem warned_handle {region : String}
    (member : Log.Event.unregisteredRegion region ∈ (board.handle index change).2.log) :
    Log.Event.unregisteredRegion region ∈ board.log := by
  rw [handle_of_present present] at member
  rcases List.mem_append.mp member with before | now
  · exact before
  · exact (react_log registered region now).elim

end Registered

namespace Owned

variable {origin board : Board} {handled : List Handled}

/-- The regions of a board are the ones that were registered. -/
theorem contains (owned : Owned origin handled board) (region : String) :
    board.display.regions.contains region = origin.display.regions.contains region := by
  rw [Bool.eq_iff_iff, Region.Store.contains_iff_listed, Region.Store.contains_iff_listed,
    owned.listed]

/-- A handled change leaves every region to its loop. -/
theorem handle (owned : Owned origin handled board) (exclusive : Exclusive origin board)
    {index : Nat} {loop : Loop} (present : board.loops[index]? = some loop) (change : Response) :
    Owned origin (handled ++ [⟨index, change, (board.handle index change).1⟩])
      (board.handle index change).2 := by
  have registered : board.display.regions.contains loop.request.target = true := by
    rw [owned.contains, exclusive.target_registered present]
  constructor
  · rw [handle_settings, owned.settings]
  · rw [listing_handle present registered change, owned.listed]
  · exact fun region member =>
      owned.warned region (warned_handle present registered change member)
  · intro other found there
    rw [changesTo_concat]
    by_cases same : index = other
    · subst same
      rw [handle_loops, List.getElem?_modify_eq, present] at there
      obtain rfl := Option.some.inj there
      rw [if_pos rfl, recentCompletions_concat]
      exact (owned.reflects index loop present).own change
    · rw [handle_loops, List.getElem?_modify_ne _ _ same] at there
      rw [if_neg same, List.append_nil]
      exact (owned.reflects other found there).other same (exclusive.unwritten there same change)
  · intro region absent
    rw [targets_handle] at absent
    have apart : region ≠ loop.request.target := fun same =>
      absent (same ▸ List.mem_map_of_mem (List.mem_of_getElem? present))
    rw [get?_handle_of_ne present apart, owned.untouched region absent]

/-- A loop that comes in finds its region as it was registered. -/
theorem seat (owned : Owned origin handled board) (known : Known handled board)
    (request : Request) (transport : Transport) (fresh : request.target ∉ board.targets) :
    Owned origin handled (board.seat request transport) := by
  constructor
  · exact owned.settings
  · exact owned.listed
  · intro region member
    rcases List.mem_append.mp member with before | now
    · exact owned.warned region before
    · simp at now
  · intro index loop present
    rcases seat_loops present with earlier | ⟨rfl, rfl⟩
    · obtain ⟨settings, ⟨other, there, same, streak⟩, content, updates⟩ :=
        owned.reflects index loop earlier
      rw [earlier] at there
      obtain rfl := Option.some.inj there
      exact ⟨settings, ⟨loop, present, same, streak⟩, content, updates⟩
    · have unwritten := owned.untouched _ fresh
      rw [known.changesTo]
      refine ⟨owned.settings, ⟨_, present, rfl, rfl⟩, ?_, ?_⟩
      · rw [Region.Store.content?_eq_map_get?, Region.Store.content?_eq_map_get?]
        exact congrArg _ unwritten
      · rw [Region.Store.updateCount, Region.Store.updateCount]
        exact congrArg (Option.elim · 0 Region.Snapshot.updates) unwritten
  · intro region absent
    rw [targets_seat] at absent
    exact owned.untouched region fun member => absent (List.mem_append_left _ member)

theorem rests {after : Board} (owned : Owned origin handled board)
    (resembles : board.Resembles after) : Owned origin handled after := by
  constructor
  · rw [resembles.settings, owned.settings]
  · rw [resembles.display, owned.listed]
  · rw [resembles.log]
    exact owned.warned
  · intro index loop present
    obtain ⟨earlier, there, same, -⟩ := resembles.present present
    rw [← same]
    exact (owned.reflects index earlier there).rests resembles
  · rw [resembles.targets, resembles.display]
    exact owned.untouched

/-- What the region of a loop shows follows from what the loop handled. -/
theorem region (owned : Owned origin handled board) {index : Nat} {loop : Loop}
    (present : board.loops[index]? = some loop) {id content : String}
    (registered : origin.display.regions.get? loop.request.target =
      some { id, content, updates := 0 }) :
    let recent := recentCompletions (changesTo index handled)
    board.display.regions.content? loop.request.target =
      shown origin.failureMessage (some content) recent ∧
    board.display.regions.updateCount loop.request.target =
      (outcomes recent).countP (· ≠ .toleratedFailure) := by
  intro recent
  obtain ⟨-, -, shows, updates⟩ := owned.reflects index loop present
  rw [Region.Store.content?_eq_map_get? origin.display.regions, registered] at shows
  rw [Region.Store.updateCount.eq_def origin.display.regions, registered] at updates
  exact ⟨shows, updates.trans (Nat.zero_add _)⟩

/-- Before loops come in, every region is as it was registered. -/
theorem of_blank (blank : Blank origin) (silent : origin.log = []) : Owned origin [] origin where
  settings := rfl
  listed := rfl
  warned region member := by
    rw [silent] at member
    cases member
  reflects index loop present := by
    rw [blank.loops] at present
    cases present
  untouched _ _ := rfl

/-- Regions are owned for as long as the board is exclusive. -/
theorem invariant (origin : Board) :
    Invariant fun handled board =>
      Known handled board ∧ (Exclusive origin board → Owned origin handled board) where
  handles change present := by
    rintro ⟨known, owned⟩
    refine ⟨invariant_known.handles change present known, fun exclusive => ?_⟩
    have before : Exclusive origin _ :=
      ⟨targets_handle .. ▸ exclusive.distinct, targets_handle .. ▸ exclusive.registered⟩
    exact (owned before).handle before present change
  seats request transport := by
    rintro ⟨known, owned⟩
    refine ⟨invariant_known.seats request transport known, fun exclusive => ?_⟩
    obtain ⟨before, fresh⟩ := exclusive.of_seat
    exact (owned before).seat known request transport fresh
  rests resembles := by
    rintro ⟨known, owned⟩
    refine ⟨invariant_known.rests resembles known, fun exclusive => ?_⟩
    have before : Exclusive origin _ :=
      ⟨resembles.targets ▸ exclusive.distinct, resembles.targets ▸ exclusive.registered⟩
    exact (owned before).rests resembles

end Owned

/-! ## Configured boards -/

/-- The steps that start panels, the first one on the transport with the given index. -/
def startSteps (network : Nat → Transport) : Nat → List Config.Panel → List Step
  | _, [] => []
  | index, panel :: rest =>
    .start panel.url panel.target panel.refresh (network index) ::
      startSteps network (index + 1) rest

/-- A panel with a request is started by the step of the same name. -/
theorem step_start {board : Board} {panel : Config.Panel} {request : Request}
    (created : panelRequest board.base panel = .ok request) (transport : Transport) :
    board.step (.start panel.url panel.target panel.refresh transport) =
      (.started request, board.addLoop request transport) := by
  rw [panelRequest] at created
  simp only [step, startPoll, created]

/-- Panels that can all be started are started step by step. -/
theorem run_startSteps {network : Nat → Transport} {panels : List Config.Panel}
    {board started : Board} {requests : List Request}
    (answered : board.startPanels network panels = (.ok requests, started)) :
    board.run (startSteps network board.loops.length panels) = started := by
  induction panels generalizing board requests with
  | nil =>
      cases answered
      rfl
  | cons panel rest ih =>
      obtain ⟨request, others, created, later, -⟩ := startPanels_cons_ok answered
      have length : (board.addLoop request (network board.loops.length)).loops.length =
          board.loops.length + 1 := by
        simpa using congrArg List.length
          (requests_addLoop board request (network board.loops.length))
      rw [startSteps, run_cons, step_start created, ← length]
      exact ih later

/-- Running loops keep their requests. -/
theorem upheld_requests (requests : List Request) :
    Upheld fun _ board => board.loops.map Loop.request = requests where
  handles change _ kept := (Moves.handle change).requests.trans kept
  rests resembles kept := by
    rw [← kept]
    have seen := congrArg (List.map Prod.fst) resembles.faces
    rwa [List.map_map, List.map_map] at seen

theorem requests_run (board : Board) {steps : List Step}
    (running : ∀ step ∈ steps, step.isStart = false) :
    (board.run steps).loops.map Loop.request = board.loops.map Loop.request :=
  @Upheld.run _ [] board (upheld_requests _) steps running rfl

theorem targets_of_serves {base : Url} {panels : List Config.Panel} {requests : List Request}
    (serves : List.Forall₂ (Serves base) panels requests) :
    requests.map Request.target = panels.map Config.Panel.target := by
  induction serves with
  | nil => rfl
  | cons first _ ih => rw [List.map_cons, List.map_cons, first.target, ih]

/-- The board of a configuration without problems of set-up is made by starting its
panels on a blank board with their regions. -/
theorem exists_startConfigured {config : Config} (network : Nat → Transport)
    (given : ∀ panel ∈ config.panels, Text.isBlank panel.url = false)
    (allowed : ∀ problem ∈ config.problems, problem.preventsSetUp = false) :
    ∃ blank started, Board.ofConfig config { regions := registerPanels config.panels {} } =
        .ok blank ∧
      startConfigured network config = .ok started ∧
      started = blank.run (startSteps network 0 config.panels) ∧
      started.targets = config.panels.map Config.Panel.target := by
  obtain ⟨blank, requests, started, made, answered, serves⟩ :=
    exists_startPanels network { regions := registerPanels config.panels {} } given allowed
  obtain ⟨base, -, rfl⟩ := ofConfig_eq_ok_iff.mp made
  refine ⟨_, started, made, ?_, (run_startSteps answered).symm, ?_⟩
  · simp only [startConfigured, made, bind, Except.bind]
    rw [answered]
  · rw [targets_eq, requests_startPanels answered, List.map_nil, List.nil_append,
      targets_of_serves serves]

/-- The targets of panels are the regions that they register, in order. -/
theorem listing_configured {panels : List Config.Panel}
    (distinct : (panels.map Config.Panel.target).Nodup) :
    (registerPanels panels {}).listing = (panels.map Config.Panel.target).zipIdx := by
  simpa [Region.Store.listing] using
    @listing_registerPanels panels {} distinct fun _ _ => rfl

/-- The region of a panel has its initial content and no updates. -/
theorem get?_configured {panels : List Config.Panel}
    (distinct : (panels.map Config.Panel.target).Nodup) {panel : Config.Panel}
    (member : panel ∈ panels) :
    (registerPanels panels {}).get? panel.target =
      some { id := panel.target, content := panel.initialContent.getD "", updates := 0 } := by
  rw [get?_registerPanels, find?_target distinct member]
  rfl

/-- Along any run of a configured board its regions are owned, as long as its loops
are those of the panels. -/
theorem owned_of_configured {config : Config} {blank : Board} {steps : List Step}
    (distinct : (config.panels.map Config.Panel.target).Nodup)
    (made : Board.ofConfig config { regions := registerPanels config.panels {} } = .ok blank)
    (targets : (blank.run steps).targets = config.panels.map Config.Panel.target) :
    Exclusive blank (blank.run steps) ∧
      Owned blank (blank.handledAlong steps) (blank.run steps) := by
  obtain ⟨base, -, eq⟩ := ofConfig_eq_ok_iff.mp made
  have exclusive : Exclusive blank (blank.run steps) := by
    refine ⟨targets ▸ distinct, fun target member => ?_⟩
    rw [targets] at member
    obtain ⟨panel, there, rfl⟩ := List.mem_map.mp member
    rw [Region.Store.contains_eq_isSome, eq, get?_configured distinct there]
    rfl
  have begun : Owned blank [] blank := .of_blank (by rw [eq]; exact ⟨rfl, rfl⟩) (by rw [eq])
  have held := (Owned.invariant blank).run steps
    ⟨fun _ member => (List.not_mem_nil member).elim, fun _ => begun⟩
  exact ⟨exclusive, held.2 exclusive⟩

/-- A command line overrides nothing but the dashboard. -/
theorem override_eq (command : Daemon.Command) (config : Config) :
    ∃ dashboard, command.override config = { config with dashboard } := by
  unfold Daemon.Command.override
  split
  · exact ⟨config.dashboard, rfl⟩
  · exact ⟨_, rfl⟩

/-- An exporter with an address that can be read is no unreadable one. -/
theorem exporterOf_ne_unreadable {observability : Config.Observability}
    (readable : observability.metricsEnabled = true →
      (Net.SocketAddress.parse? observability.metricsAddress).isSome = true) (address : String) :
    Daemon.exporterOf observability ≠ .unreadable address := by
  unfold Daemon.exporterOf
  split
  · next enabled =>
      obtain ⟨socket, read⟩ := Option.isSome_iff_exists.mp (readable enabled)
      simp [read]
  · exact nofun

/-- A loaded configuration was found valid. -/
theorem validate_of_parse {text : String} {config : Config}
    (loaded : Config.parse text = .ok config) : config.validate = .ok () := by
  unfold Config.parse at loaded
  split at loaded
  · cases loaded
  · split at loaded
    · cases loaded
    · split at loaded
      · cases loaded
      · next valid =>
          cases loaded
          exact valid

/-- Overriding a loaded configuration leaves it sound, and nothing prevents its set-up. -/
theorem sound_of_override {text : String} {accepted : Config}
    (loaded : Config.parse text = .ok accepted) (command : Daemon.Command) :
    (command.override accepted).Sound ∧
      ∀ problem ∈ (command.override accepted).problems, problem.preventsSetUp = false := by
  have valid := validate_of_parse loaded
  obtain ⟨base, urls, targets, metrics⟩ := Config.sound_of_accepted valid
  have allowed : ∀ problem ∈ accepted.problems, problem.preventsSetUp = false := by
    simp [(Config.validate_eq_ok_iff accepted).mp valid]
  obtain ⟨dashboard, overridden⟩ := override_eq command accepted
  rw [Config.problems_allow_setUp_iff] at allowed
  rw [overridden, Config.problems_allow_setUp_iff]
  exact ⟨⟨base, urls, targets, metrics⟩, allowed⟩

/-- Whatever is loaded and overridden, the metrics address can be read if there are
metrics, and one loop polls for each panel. In every state that is reached without
further loops, the regions are those of the panels in order, none of them written
before it was registered; no change that one loop handles reaches the region of
another; and content and updates of a region follow from the completions that its
loop handled since it had its initial content and no updates. -/
theorem panels_own_regions {text : String} {accepted : Config}
    (loaded : Config.parse text = .ok accepted) (command : Daemon.Command)
    (network : Nat → Transport) :
    let config := command.override accepted
    let targets := config.panels.map Config.Panel.target
    (∀ address, Daemon.exporterOf config.observability ≠ .unreadable address) ∧
    ∃ blank started, Board.ofConfig config { regions := registerPanels config.panels {} } =
        .ok blank ∧
      startConfigured network config = .ok started ∧
      started = blank.run (startSteps network 0 config.panels) ∧
      ∀ steps, (∀ step ∈ steps, step.isStart = false) →
        let board := started.run steps
        let handled := blank.handledAlong (startSteps network 0 config.panels ++ steps)
        board.targets = targets ∧
        board.display.regions.snapshot.map Region.Snapshot.id = targets ∧ targets.Nodup ∧
        (∀ region, Log.Event.unregisteredRegion region ∉ board.log) ∧
        ∀ index panel, config.panels[index]? = some panel →
          let recent := recentCompletions (changesTo index handled)
          (∀ other change, other ≠ index →
            (board.handle other change).2.display.regions.get? panel.target =
              board.display.regions.get? panel.target) ∧
          board.display.regions.content? panel.target =
            shown config.failureMessage (some (panel.initialContent.getD "")) recent ∧
          board.display.regions.updateCount panel.target =
            (outcomes recent).countP (· ≠ .toleratedFailure) := by
  intro config targets
  obtain ⟨sound, allowed⟩ := sound_of_override loaded command
  have distinct : targets.Nodup := sound.targets
  obtain ⟨blank, started, made, configured, eq, targeted⟩ :=
    exists_startConfigured network sound.urls allowed
  refine ⟨exporterOf_ne_unreadable sound.metrics, blank, started, made, configured, eq,
    fun steps running => ?_⟩
  intro board handled
  have reached : board = blank.run (startSteps network 0 config.panels ++ steps) := by
    rw [run_append, ← eq]
  have kept : board.targets = targets := by
    rw [targets_eq, requests_run started running, ← targets_eq, targeted]
  obtain ⟨exclusive, owned⟩ := owned_of_configured distinct made (reached ▸ kept)
  rw [← reached] at exclusive owned
  obtain ⟨base, -, origin⟩ := ofConfig_eq_ok_iff.mp made
  refine ⟨kept, Region.Store.ids_snapshot ?_, distinct, owned.warned, fun index panel at_ => ?_⟩
  · rw [owned.listed, origin]
    exact listing_configured distinct
  intro recent
  have seated : board.targets[index]? = some panel.target := by
    rw [kept, List.getElem?_map, at_, Option.map_some]
  obtain ⟨loop, present, mine⟩ : ∃ loop, board.loops[index]? = some loop ∧
      loop.request.target = panel.target := by
    rw [Board.targets, List.getElem?_map] at seated
    exact Option.map_eq_some_iff.mp seated
  have registered : blank.display.regions.get? loop.request.target =
      some { id := panel.target, content := panel.initialContent.getD "", updates := 0 } := by
    rw [mine, origin]
    exact get?_configured distinct (List.mem_of_getElem? at_)
  have message : blank.failureMessage = config.failureMessage := by rw [origin]
  rw [← mine, ← message]
  exact ⟨fun other change different => exclusive.unwritten present different change,
    owned.region present registered⟩

/-- The base URL of a configuration that gives none. -/
def localhost : Url where
  scheme := "http".toList
  authority := some { host := .ipv4 0x7F000001, port := some 7657 }
  path := .segments [[]]

/-- A document with two panels, one of them with initial content. -/
def twoPanelText : String :=
  "failure_message = 'down'

[[panels]]
target = 'news'
url = '/news'
refresh_ms = 5
initial_content = 'wait'

[[panels]]
target = 'mail'
url = '/mail'
refresh_ms = 7

[observability]
metrics_enabled = true
"

/-- The configuration of the two panels. -/
def twoPanels : Config where
  failureMessage := "down"
  panels := [{ target := "news", url := "/news", refresh := 5, initialContent := some "wait" },
    { target := "mail", url := "/mail", refresh := 7 }]
  observability := { metricsEnabled := true }

/-- The news come at once, the mail server is down. -/
def twoServers (index request : Nat) : List Response :=
  if index = 0 then [.opened, .done 200 "today"] else if request = 0 then [.done 503 ""] else []

/-- A second failure of the mail shows there and leaves the news alone. -/
theorem panels_own_regions_news :
    ∃ started, startConfigured twoServers twoPanels = .ok started ∧
      let board := started.run [.advance 6, .event 1 (.done 0 "")]
      board.display.regions.snapshot.map Region.Snapshot.id = ["news", "mail"] ∧
      (∀ region, Log.Event.unregisteredRegion region ∉ board.log) ∧
      board.display.regions.content? "news" = some "today" ∧
      board.display.regions.updateCount "news" = 2 ∧
      board.display.regions.content? "mail" = some "down" ∧
      board.display.regions.updateCount "mail" = 1 := by
  have loaded : Config.parse twoPanelText = .ok twoPanels := ok_of_toOption (by decide +kernel)
  obtain ⟨-, blank, started, made, configured, -, reached⟩ :=
    panels_own_regions loaded {} twoServers
  obtain ⟨-, ids, -, warned, regions⟩ :=
    reached [.advance 6, .event 1 (.done 0 "")] (by decide)
  obtain ⟨base, parsed, rfl⟩ := ofConfig_eq_ok_iff.mp made
  have based : Url.parse twoPanels.client.baseUrl = .ok localhost :=
    ok_of_toOption (by decide +kernel)
  obtain rfl : localhost = base := Except.ok.inj (based.symm.trans parsed)
  obtain ⟨-, newsContent, newsUpdates⟩ := regions 0 _ rfl
  obtain ⟨-, mailContent, mailUpdates⟩ := regions 1 _ rfl
  refine ⟨started, configured, ids, warned, newsContent.trans ?_, newsUpdates.trans ?_,
    mailContent.trans ?_, mailUpdates.trans ?_⟩ <;> decide +kernel

end Board

end PanelBoard.Poll
