import Mathlib.Data.List.Forall2
import PanelBoard.Poll.Panels
import PanelBoard.Proofs.Config.Faults
import PanelBoard.Proofs.Poll.Course

/-!
# Starting panels

Which panels can be started is decided by the base URL and the panels alone, and
it is what validation says: the two look at the same URLs and intervals, one
collecting every problem and the other stopping at the first.
-/

namespace PanelBoard.Poll

open PanelBoard.Text

/-! ## The request of a panel -/

/-- The request of a panel, or why it has none. -/
def panelRequest (base : Url) (panel : Config.Panel) : Except SetupError Request :=
  Request.create base panel.url panel.target panel.refresh

/-- The request that a panel asks for. -/
structure Serves (base : Url) (panel : Config.Panel) (request : Request) : Prop where
  target : request.target = panel.target
  refresh : request.refresh = panel.refresh
  url : base.join panel.url = .ok request.url
  scheme : request.url.schemeText = "http"

/-- Why a panel has no request, next to the problem that validation reports. An
interval of zero comes before anything about the URL. -/
inductive Reported (base : Url) (panel : Config.Panel) : SetupError → Config.Problem → Prop where
  | zeroRefresh (zero : panel.refresh = 0) :
      Reported base panel (.zeroRefresh panel.target) (.zeroRefresh panel.target)
  | invalidUrl {cause : Url.ParseError} (positive : panel.refresh ≠ 0)
      (failed : base.join panel.url = .error cause) :
      Reported base panel (.invalidUrl panel.url cause) (.invalidUrl panel.target panel.url)
  | unsupportedScheme {url : Url} (positive : panel.refresh ≠ 0)
      (joined : base.join panel.url = .ok url) (other : url.schemeText ≠ "http") :
      Reported base panel (.unsupportedScheme url.text url.schemeText)
        (.unsupportedScheme panel.target panel.url url.schemeText)

/-- A panel with a URL has a request and nothing in its report that keeps it from
being started, or it has no request and the report says why. -/
theorem panelRequest_cases (base : Url) (index : Nat) (earlier : List String)
    {panel : Config.Panel} (given : isBlank panel.url = false) :
    let report := Config.panelProblems (some base) index earlier panel
    (∃ request, panelRequest base panel = .ok request ∧ Serves base panel request ∧
      ∀ problem ∈ report, problem.preventsSetUp = false) ∨
    (∃ cause problem, panelRequest base panel = .error cause ∧ Reported base panel cause problem ∧
      problem ∈ report ∧ problem.preventsSetUp = true) := by
  intro report
  have targets : ∀ problem ∈ Config.targetProblems index earlier panel,
      problem.preventsSetUp = false := fun _ => Config.preventsSetUp_of_target
  by_cases zero : panel.refresh = 0
  · refine .inr ⟨_, _, ?_, .zeroRefresh zero, ?_, rfl⟩
    · simp [panelRequest, Request.create, zero]
    · simp [report, Config.panelProblems, Config.refreshProblems, zero]
  · have positive : 0 < panel.refresh := Nat.pos_of_ne_zero zero
    cases joined : base.join panel.url with
    | error cause =>
        refine .inr ⟨_, _, ?_, .invalidUrl zero joined, ?_, rfl⟩
        · simp [panelRequest, Request.create, positive, joined]
        · simp [report, Config.panelProblems, Config.urlProblems, given, joined]
    | ok url =>
        by_cases scheme : url.schemeText = "http"
        · refine .inl ⟨⟨url, panel.target, panel.refresh, positive⟩, ?_, ?_, ?_⟩
          · simp [panelRequest, Request.create, positive, joined, scheme]
          · exact ⟨rfl, rfl, joined, scheme⟩
          · simpa [report, Config.panelProblems, Config.urlProblems, Config.refreshProblems,
              given, joined, scheme, zero] using targets
        · refine .inr ⟨_, _, ?_, .unsupportedScheme zero joined scheme, ?_, rfl⟩
          · simp [panelRequest, Request.create, positive, joined, scheme]
          · simp [report, Config.panelProblems, Config.urlProblems, given, joined, scheme]

/-- Panels with URLs have requests, one each and in order, if no report keeps
them from being started; otherwise the first report that does says why. -/
theorem panelRequests_cases (base : Url) (index : Nat) (earlier : List String)
    {panels : List Config.Panel} (given : ∀ panel ∈ panels, isBlank panel.url = false) :
    let reports := Config.panelReports (some base) index earlier panels
    (∃ requests, panels.mapM (panelRequest base) = .ok requests ∧
      List.Forall₂ (Serves base) panels requests ∧
      ∀ report ∈ reports, ∀ problem ∈ report, problem.preventsSetUp = false) ∨
    (∃ cause first panel report problem, panels.mapM (panelRequest base) = .error cause ∧
      reports.findIdx? (·.any Config.Problem.preventsSetUp) = some first ∧
      panels[first]? = some panel ∧ reports[first]? = some report ∧
      problem ∈ report ∧ problem.preventsSetUp = true ∧ Reported base panel cause problem) := by
  induction panels generalizing index earlier with
  | nil => exact .inl ⟨[], rfl, .nil, nofun⟩
  | cons panel rest ih =>
      intro reports
      have later := ih (index + 1) (panel.target :: earlier)
        fun other member => given other (List.mem_cons_of_mem _ member)
      rcases panelRequest_cases base index earlier (given panel List.mem_cons_self) with
        ⟨request, made, serves, allows⟩ | ⟨cause, problem, refused, reported, member, prevents⟩
      · rcases later with ⟨requests, all, served, calm⟩ |
          ⟨cause, first, other, report, problem, refused, found, at_, shown, rest⟩
        · refine .inl ⟨request :: requests, ?_, .cons serves served, ?_⟩
          · simp [List.mapM_cons, made, all, bind, Except.bind, pure, Except.pure]
          · simpa [reports, Config.panelReports] using ⟨allows, calm⟩
        · refine .inr ⟨cause, first + 1, other, report, problem, ?_, ?_, at_, shown, rest⟩
          · simp [List.mapM_cons, made, refused, bind, Except.bind]
          · have quiet : (Config.panelProblems (some base) index earlier panel).any
                Config.Problem.preventsSetUp = false := by simpa using allows
            simp [reports, Config.panelReports, List.findIdx?_cons, quiet, found]
      · refine .inr ⟨cause, 0, panel, _, problem, ?_, ?_, rfl, rfl, member, prevents, reported⟩
        · simp [List.mapM_cons, refused, bind, Except.bind]
        · have loud : (Config.panelProblems (some base) index earlier panel).any
              Config.Problem.preventsSetUp = true :=
            List.any_eq_true.mpr ⟨problem, member, prevents⟩
          simp [reports, Config.panelReports, List.findIdx?_cons, loud]

/-! ## Loops for requests -/

namespace Board

/-- An operation on a loop leaves all requests as they are. -/
theorem Moves.requests {before after : Board} {index : Nat} {change : Loop → Loop}
    {count : Loop → Nat} (moves : Moves index change count before after) :
    after.loops.map Loop.request = before.loops.map Loop.request := by
  rw [moves.loops]
  exact map_modify_unseen moves.keeps

theorem requests_addLoop (board : Board) (request : Request) (transport : Transport) :
    (board.addLoop request transport).loops.map Loop.request =
      board.loops.map Loop.request ++ [request] := by
  unfold addLoop
  rw [(Moves.startCycle ..).requests, List.map_append, List.map_singleton]

theorem settings_addLoop (board : Board) (request : Request) (transport : Transport) :
    (board.addLoop request transport).settings = board.settings :=
  (Moves.startCycle ..).settings

/-- Starting panels answers with their requests, or with the first reason why a
panel has none. -/
theorem startPanels_fst (network : Nat → Transport) (panels : List Config.Panel) (board : Board) :
    (board.startPanels network panels).1 = panels.mapM (panelRequest board.base) := by
  induction panels generalizing board with
  | nil => rfl
  | cons panel rest ih =>
      rw [startPanels, startPoll, List.mapM_cons, panelRequest]
      cases created : Request.create board.base panel.url panel.target panel.refresh with
      | error cause => rfl
      | ok request =>
          have base : (board.addLoop request (network board.loops.length)).base = board.base :=
            congrArg Prod.fst (settings_addLoop ..)
          have later := ih (board.addLoop request (network board.loops.length))
          rw [base] at later
          simp only [bind, Except.bind, pure, Except.pure, ← later]
          cases (board.addLoop request (network board.loops.length)).startPanels network rest with
          | mk answer started => cases answer <;> rfl

/-- Panels are started one by one. -/
theorem startPanels_cons_ok {network : Nat → Transport} {panel : Config.Panel}
    {rest : List Config.Panel} {board started : Board} {requests : List Request}
    (answered : board.startPanels network (panel :: rest) = (.ok requests, started)) :
    ∃ request others,
      Request.create board.base panel.url panel.target panel.refresh = .ok request ∧
      (board.addLoop request (network board.loops.length)).startPanels network rest =
        (.ok others, started) ∧
      requests = request :: others := by
  rw [startPanels, startPoll] at answered
  cases created : Request.create board.base panel.url panel.target panel.refresh with
  | error cause => simp [created] at answered
  | ok request =>
      simp only [created] at answered
      split at answered
      · cases answered
      · next others final later =>
          cases answered
          exact ⟨request, others, rfl, later, rfl⟩

/-- Panels that are started are loops in the order of the panels. -/
theorem requests_startPanels {network : Nat → Transport} {panels : List Config.Panel}
    {board started : Board} {requests : List Request}
    (answered : board.startPanels network panels = (.ok requests, started)) :
    started.loops.map Loop.request = board.loops.map Loop.request ++ requests := by
  induction panels generalizing board requests with
  | nil =>
      cases answered
      exact (List.append_nil _).symm
  | cons panel rest ih =>
      obtain ⟨request, others, -, later, rfl⟩ := startPanels_cons_ok answered
      rw [ih later, requests_addLoop, List.append_assoc, List.singleton_append]

theorem base?_of_parsed {client : Config.Client} {base : Url}
    (parsed : Url.parse client.baseUrl = .ok base) : client.base? = some base := by
  rw [Config.Client.base?, parsed]
  rfl

/-- A configuration has a board exactly if its base URL can be read. -/
theorem ofConfig_eq_ok_iff {config : Config} {display : Display} {board : Board} :
    Board.ofConfig config display = .ok board ↔ ∃ base,
      Url.parse config.client.baseUrl = .ok base ∧
        board = { base, failureMessage := config.failureMessage, display } := by
  unfold Board.ofConfig
  cases Url.parse config.client.baseUrl with
  | error cause => simp
  | ok base => simp [eq_comm]

theorem exists_ofConfig {config : Config} (readable : config.client.base?.isSome = true)
    (display : Display) : ∃ board, Board.ofConfig config display = .ok board := by
  unfold Board.ofConfig
  cases parsed : Url.parse config.client.baseUrl with
  | error cause => simp [Config.Client.base?, parsed, Except.toOption] at readable
  | ok base => exact ⟨_, rfl⟩

/-- The panels of a board with URLs, and what validation reports of them: all are
started and no report keeps them from it, or the first report that does says why not. -/
theorem startPanels_cases {config : Config} {display : Display} {board : Board}
    (network : Nat → Transport) (given : ∀ panel ∈ config.panels, isBlank panel.url = false)
    (made : Board.ofConfig config display = .ok board) :
    (∃ requests started, board.startPanels network config.panels = (.ok requests, started) ∧
      List.Forall₂ (Serves board.base) config.panels requests ∧
      ∀ report ∈ config.reports, ∀ problem ∈ report, problem.preventsSetUp = false) ∨
    (∃ cause started first panel report problem,
      board.startPanels network config.panels = (.error cause, started) ∧
      config.reports.findIdx? (·.any Config.Problem.preventsSetUp) = some first ∧
      config.panels[first]? = some panel ∧ config.reports[first]? = some report ∧
      problem ∈ report ∧ problem.preventsSetUp = true ∧
      Reported board.base panel cause problem) := by
  obtain ⟨base, parsed, rfl⟩ := ofConfig_eq_ok_iff.mp made
  have read : config.client.base? = some base := base?_of_parsed parsed
  have answer := startPanels_fst network config.panels
    { base, failureMessage := config.failureMessage, display }
  have cases := panelRequests_cases base 0 [] given
  rw [← read] at cases
  rcases cases with ⟨requests, all, rest⟩ | ⟨cause, first, panel, report, problem, refused, rest⟩
  · exact .inl ⟨requests, _, Prod.ext (answer.trans all) rfl, rest⟩
  · exact .inr ⟨cause, _, first, panel, report, problem, Prod.ext (answer.trans refused) rfl, rest⟩

/-- A configuration is set up if nothing that validation finds prevents it. -/
theorem exists_startPanels {config : Config} (network : Nat → Transport) (display : Display)
    (given : ∀ panel ∈ config.panels, isBlank panel.url = false)
    (allowed : ∀ problem ∈ config.problems, problem.preventsSetUp = false) :
    ∃ board requests started, Board.ofConfig config display = .ok board ∧
      board.startPanels network config.panels = (.ok requests, started) ∧
      List.Forall₂ (Serves board.base) config.panels requests := by
  obtain ⟨readable, calm⟩ := (Config.problems_allow_setUp_iff config).mp allowed
  obtain ⟨board, made⟩ := exists_ofConfig readable display
  rcases startPanels_cases network given made with
    ⟨requests, started, answered, serves, -⟩ |
    ⟨cause, stopped, first, panel, report, problem, -, -, -, shown, member, prevents, -⟩
  · exact ⟨board, requests, started, made, answered, serves⟩
  · have allows := calm report (List.mem_of_getElem? shown) problem member
    rw [prevents] at allows
    cases allows

/-- Validation and set-up agree. An accepted configuration has a board, on which
one loop is started for each panel, in order. If no panel has a blank URL,
starting succeeds exactly if validation finds nothing that prevents it, and a
failure is that of the first panel of which validation reports such a problem. -/
theorem setUp_as_validated (network : Nat → Transport) (config : Config) (display : Display) :
    (config.validate = .ok () →
      ∃ board requests started, Board.ofConfig config display = .ok board ∧
        Url.parse config.client.baseUrl = .ok board.base ∧
        board.startPanels network config.panels = (.ok requests, started) ∧
        started.loops.map Loop.request = requests ∧
        List.Forall₂ (Serves board.base) config.panels requests) ∧
    ((∀ panel ∈ config.panels, isBlank panel.url = false) →
      ((∃ board requests started, Board.ofConfig config display = .ok board ∧
          board.startPanels network config.panels = (.ok requests, started)) ↔
        ∀ problem ∈ config.problems, problem.preventsSetUp = false) ∧
      ∀ board cause stopped, Board.ofConfig config display = .ok board →
        board.startPanels network config.panels = (.error cause, stopped) →
        ∃ first panel report problem,
          config.reports.findIdx? (·.any Config.Problem.preventsSetUp) = some first ∧
          config.panels[first]? = some panel ∧ config.reports[first]? = some report ∧
          problem ∈ report ∧ problem.preventsSetUp = true ∧
          Reported board.base panel cause problem) := by
  refine ⟨fun accepted => ?_, fun given => ⟨⟨?_, fun allowed => ?_⟩, ?_⟩⟩
  · have none := (Config.validate_eq_ok_iff config).mp accepted
    obtain ⟨board, requests, started, made, answered, serves⟩ :=
      exists_startPanels network display (Config.sound_of_accepted accepted).urls (by simp [none])
    obtain ⟨base, parsed, rfl⟩ := ofConfig_eq_ok_iff.mp made
    exact ⟨_, requests, started, made, parsed, answered, requests_startPanels answered, serves⟩
  · rintro ⟨board, requests, started, made, answered⟩
    obtain ⟨base, parsed, -⟩ := ofConfig_eq_ok_iff.mp made
    refine (Config.problems_allow_setUp_iff config).mpr ⟨by rw [base?_of_parsed parsed]; rfl, ?_⟩
    rcases startPanels_cases network given made with
      ⟨_, _, _, -, calm⟩ | ⟨cause, stopped, _, _, _, _, refused, -⟩
    · exact calm
    · rw [answered] at refused
      cases refused
  · obtain ⟨board, requests, started, made, answered, -⟩ :=
      exists_startPanels network display given allowed
    exact ⟨board, requests, started, made, answered⟩
  · intro board cause stopped made refused
    rcases startPanels_cases network given made with
      ⟨_, _, answered, -⟩ | ⟨other, _, first, panel, report, problem, answered, reasons⟩
    · rw [answered] at refused
      cases refused
    · rw [answered] at refused
      cases refused
      exact ⟨first, panel, report, problem, reasons⟩

/-- Three panels of which the first can be started, the second has a URL of
another scheme, and the third has no URL that can be read and no interval. -/
def mixedConfig : Config where
  panels := [{ target := "news", url := "/news" },
    { target := "mail", url := "mailto:console@home", refresh := 5 },
    { target := "far", url := "http://[::1", refresh := 0 }]

/-- Set-up of the mixed panels stops at the second, and without the last two it succeeds. -/
theorem setUp_as_validated_mixed :
    let first : Config := { mixedConfig with panels := mixedConfig.panels.take 1 }
    (∃ board requests started, Board.ofConfig first {} = .ok board ∧
      board.startPanels (fun _ _ => []) first.panels = (.ok requests, started) ∧
      started.loops.map Loop.request = requests ∧ requests.length = 1) ∧
    ∀ board cause stopped, Board.ofConfig mixedConfig {} = .ok board →
      board.startPanels (fun _ _ => []) mixedConfig.panels = (.error cause, stopped) →
      ∃ url : Url, cause = .unsupportedScheme url.text "mailto" := by
  intro first
  refine ⟨?_, fun board cause stopped made refused => ?_⟩
  · have accepted : first.validate = .ok () := by decide +kernel
    obtain ⟨board, requests, started, made, -, answered, loops, serves⟩ :=
      (setUp_as_validated (fun _ _ => []) first {}).1 accepted
    exact ⟨board, requests, started, made, answered, loops, serves.length_eq.symm⟩
  · have given : ∀ panel ∈ mixedConfig.panels, isBlank panel.url = false := by decide +kernel
    obtain ⟨position, panel, report, problem, found, at_, shown, member, prevents, reported⟩ :=
      ((setUp_as_validated (fun _ _ => []) mixedConfig {}).2 given).2 board cause stopped
        made refused
    have second : mixedConfig.reports.findIdx? (·.any Config.Problem.preventsSetUp) = some 1 := by
      decide +kernel
    rw [second] at found
    cases found
    obtain rfl : _ = panel := Option.some.inj at_
    have reports : mixedConfig.reports[1]? =
        some [.unsupportedScheme "mail" "mailto:console@home" "mailto"] := by decide +kernel
    rw [reports] at shown
    cases shown
    rw [List.mem_singleton] at member
    cases reported with
    | zeroRefresh => cases member
    | invalidUrl => cases member
    | @unsupportedScheme url _ _ _ =>
        obtain ⟨-, -, scheme⟩ := Config.Problem.unsupportedScheme.inj member
        exact ⟨url, by rw [scheme]⟩

end Board

end PanelBoard.Poll
