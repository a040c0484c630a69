import PanelBoard.Config.Validation

/-!
# Reports

The problems of a configuration panel by panel. Some of them keep the panels
from being started; a blank or repeated target and an unusable address do not.
-/

namespace PanelBoard.Config

open PanelBoard.Text

/-- Does the problem keep the panels from being started? -/
def Problem.preventsSetUp : Problem → Bool
  | .invalidBaseUrl _ => true
  | .emptyTarget _ => false
  | .duplicateTarget _ => false
  | .emptyUrl _ => false
  | .invalidUrl .. => true
  | .unsupportedScheme .. => true
  | .zeroRefresh _ => true
  | .invalidAddress .. => false

/-- The problems of each panel from `index` on; `earlier` holds the targets before. -/
def panelReports (base : Option Url) (index : Nat) (earlier : List String) :
    List Panel → List (List Problem)
  | [] => []
  | panel :: rest =>
    panelProblems base index earlier panel ::
      panelReports base (index + 1) (panel.target :: earlier) rest

/-- The problems of each panel of a configuration. -/
def reports (config : Config) : List (List Problem) :=
  panelReports config.client.base? 0 [] config.panels

/-- The problems of the panels are those of their reports. -/
theorem flatten_panelReports (base : Option Url) (index : Nat) (earlier : List String)
    (panels : List Panel) :
    (panelReports base index earlier panels).flatten =
      panelsProblems base index earlier panels := by
  induction panels generalizing index earlier with
  | nil => rfl
  | cons panel rest ih => rw [panelReports, panelsProblems, List.flatten_cons, ih]

/-- The problems of a configuration are those of its base URL, of its panels one
after another, and of its addresses. -/
theorem problems_eq (config : Config) :
    config.problems =
      baseProblems config.client ++ config.reports.flatten ++
        addressProblems config.dashboard.enabled "dashboard.bind_address"
          config.dashboard.bindAddress ++
        addressProblems config.observability.metricsEnabled "observability.metrics_address"
          config.observability.metricsAddress := by
  rw [reports, flatten_panelReports]
  rfl

theorem preventsSetUp_of_address {inUse : Bool} {field value : String} {problem : Problem}
    (member : problem ∈ addressProblems inUse field value) : problem.preventsSetUp = false := by
  unfold addressProblems at member
  split at member
  · rw [List.mem_singleton.mp member]
    rfl
  · exact (List.not_mem_nil member).elim

theorem preventsSetUp_of_target {index : Nat} {earlier : List String} {panel : Panel}
    {problem : Problem} (member : problem ∈ targetProblems index earlier panel) :
    problem.preventsSetUp = false := by
  unfold targetProblems at member
  split at member
  · rw [List.mem_singleton.mp member]
    rfl
  · split at member
    · rw [List.mem_singleton.mp member]
      rfl
    · exact (List.not_mem_nil member).elim

/-- Nothing keeps the panels from being started exactly if the base URL can be
read and no report has a problem that does. -/
theorem problems_allow_setUp_iff (config : Config) :
    (∀ problem ∈ config.problems, problem.preventsSetUp = false) ↔
      config.client.base?.isSome = true ∧
        ∀ report ∈ config.reports, ∀ problem ∈ report, problem.preventsSetUp = false := by
  have base : (∀ problem ∈ baseProblems config.client, problem.preventsSetUp = false) ↔
      config.client.base?.isSome = true := by
    unfold baseProblems
    cases config.client.base? <;> simp [Problem.preventsSetUp]
  simp only [problems_eq, List.mem_append, or_imp, forall_and]
  rw [base]
  constructor
  · rintro ⟨⟨⟨readable, reported⟩, -⟩, -⟩
    exact ⟨readable, fun report member problem within =>
      reported problem (List.mem_flatten.mpr ⟨report, member, within⟩)⟩
  · rintro ⟨readable, reported⟩
    refine ⟨⟨⟨readable, fun problem member => ?_⟩, fun _ => preventsSetUp_of_address⟩,
      fun _ => preventsSetUp_of_address⟩
    obtain ⟨report, member, within⟩ := List.mem_flatten.mp member
    exact reported report member problem within

/-! ## Accepted configurations -/

/-- A configuration is accepted exactly if it has no problems. -/
theorem validate_eq_ok_iff (config : Config) : config.validate = .ok () ↔ config.problems = [] := by
  unfold validate
  rw [← List.isEmpty_iff]
  split <;> simp_all

/-- An accepted configuration has a base URL and URLs for its panels, which have
targets of their own, and a metrics address that can be read if it is used. -/
structure Sound (config : Config) : Prop where
  base : config.client.base?.isSome = true
  urls : ∀ panel ∈ config.panels, isBlank panel.url = false
  targets : (config.panels.map Panel.target).Nodup
  metrics : config.observability.metricsEnabled = true →
    (Net.SocketAddress.parse? config.observability.metricsAddress).isSome = true

end PanelBoard.Config
