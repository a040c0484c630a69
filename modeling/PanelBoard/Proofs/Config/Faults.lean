import Mathlib.Data.List.Forall2
import Mathlib.Data.List.Nodup
import PanelBoard.Proofs.Config.Reports

/-!
# Faults

What is wrong with a configuration, said of the configuration alone and not of the
way in which it is looked for: a target is a duplicate because an earlier panel has
it, not because it was met before. Validation accepts exactly the configurations
without faults, and it reports every fault once, in the order of the configuration.
-/

namespace PanelBoard.Config

open PanelBoard.Text

/-! ## What can be wrong -/

/-- The base URL cannot be read. -/
inductive BaseFault (client : Client) : Problem → Prop where
  | unreadable {cause : Url.ParseError} (failed : Url.parse client.baseUrl = .error cause) :
      BaseFault client (.invalidBaseUrl client.baseUrl)

/-- The target of the panel at a position is blank, or it is that of an earlier panel. -/
inductive TargetFault (panels : List Panel) (position : Nat) (panel : Panel) :
    Problem → Prop where
  | empty (blank : isBlank panel.target = true) :
      TargetFault panels position panel (.emptyTarget position)
  | duplicate {earlier : Nat} {other : Panel} (given : isBlank panel.target = false)
      (before : earlier < position) (present : panels[earlier]? = some other)
      (same : other.target = panel.target) :
      TargetFault panels position panel (.duplicateTarget panel.target)

/-- The URL of a panel does not lead from a base to an HTTP URL. -/
inductive JoinFault (base : Url) (panel : Panel) : Problem → Prop where
  | unreadable {cause : Url.ParseError} (failed : base.join panel.url = .error cause) :
      JoinFault base panel (.invalidUrl panel.target panel.url)
  | unsupported {url : Url} (joined : base.join panel.url = .ok url)
      (other : url.schemeText ≠ "http") :
      JoinFault base panel (.unsupportedScheme panel.target panel.url url.schemeText)

/-- The URL of a panel is blank, or something is wrong with it next to a base that can be read. -/
inductive UrlFault (client : Client) (panel : Panel) : Problem → Prop where
  | empty (blank : isBlank panel.url = true) : UrlFault client panel (.emptyUrl panel.target)
  | joined {base : Url} {problem : Problem} (given : isBlank panel.url = false)
      (parsed : Url.parse client.baseUrl = .ok base) (fault : JoinFault base panel problem) :
      UrlFault client panel problem

/-- A panel is to be polled without any time in between. -/
inductive RefreshFault (panel : Panel) : Problem → Prop where
  | zero (none : panel.refresh = 0) : RefreshFault panel (.zeroRefresh panel.target)

/-- An address that is in use cannot be read. -/
inductive AddressFault (inUse : Bool) (field value : String) : Problem → Prop where
  | unreadable (used : inUse = true) (failed : Net.SocketAddress.parse? value = none) :
      AddressFault inUse field value (.invalidAddress field value)

/-- A configuration without faults. -/
structure Valid (config : Config) : Prop where
  base : ∃ base, Url.parse config.client.baseUrl = .ok base ∧ ∀ panel ∈ config.panels,
    ∃ url, base.join panel.url = .ok url ∧ url.schemeText = "http"
  targets : ∀ panel ∈ config.panels, isBlank panel.target = false
  distinct : (config.panels.map Panel.target).Nodup
  urls : ∀ panel ∈ config.panels, isBlank panel.url = false
  refreshes : ∀ panel ∈ config.panels, 0 < panel.refresh
  dashboard : config.dashboard.enabled = true →
    (Net.SocketAddress.parse? config.dashboard.bindAddress).isSome = true
  metrics : config.observability.metricsEnabled = true →
    (Net.SocketAddress.parse? config.observability.metricsAddress).isSome = true

/-! ## What is to be reported -/

/-- A list that reports a fault once if there is one, and nothing else. -/
structure Reporting (fault : Problem → Prop) (found : List Problem) : Prop where
  once : found.length ≤ 1
  mem_iff : ∀ problem, problem ∈ found ↔ fault problem

/-- A report of the panel at a position: its target, its URL, its interval. -/
inductive PanelFindings (config : Config) (position : Nat) (panel : Panel) :
    List Problem → Prop where
  | inOrder {target url refresh : List Problem}
      (targets : Reporting (TargetFault config.panels position panel) target)
      (urls : Reporting (UrlFault config.client panel) url)
      (refreshes : Reporting (RefreshFault panel) refresh) :
      PanelFindings config position panel (target ++ url ++ refresh)

/-- A report of a configuration: its base URL, its panels one after another, the
address of the dashboard, the address of the metrics. -/
inductive Findings (config : Config) : List Problem → Prop where
  | inOrder {base dashboard metrics : List Problem} {panels : List (List Problem)}
      (bases : Reporting (BaseFault config.client) base)
      (reports : List.Forall₂ (fun entry => PanelFindings config entry.2 entry.1)
        config.panels.zipIdx panels)
      (dashboards : Reporting (AddressFault config.dashboard.enabled "dashboard.bind_address"
        config.dashboard.bindAddress) dashboard)
      (addresses : Reporting (AddressFault config.observability.metricsEnabled
        "observability.metrics_address" config.observability.metricsAddress) metrics) :
      Findings config (base ++ panels.flatten ++ dashboard ++ metrics)

namespace Reporting

variable {fault : Problem → Prop} {first second : List Problem}

theorem none (absent : ∀ problem, ¬ fault problem) : Reporting fault [] where
  once := Nat.zero_le 1
  mem_iff problem := by simp [absent problem]

theorem one {problem : Problem} (there : fault problem)
    (only : ∀ other, fault other → other = problem) : Reporting fault [problem] where
  once := Nat.le_refl 1
  mem_iff other := by
    rw [List.mem_singleton]
    exact ⟨fun same => same ▸ there, only other⟩

/-- What is reported depends on which faults there are. -/
theorem of_iff {other : Problem → Prop} (reporting : Reporting fault first)
    (same : ∀ problem, fault problem ↔ other problem) : Reporting other first where
  once := reporting.once
  mem_iff problem := (reporting.mem_iff problem).trans (same problem)

/-- Faults determine their report. -/
theorem unique (left : Reporting fault first) (right : Reporting fault second) :
    first = second := by
  have same : ∀ problem, problem ∈ first ↔ problem ∈ second := fun problem =>
    (left.mem_iff problem).trans (right.mem_iff problem).symm
  match first, second, left.once, right.once with
  | [], [], _, _ => rfl
  | [], problem :: _, _, _ => simpa using same problem
  | problem :: _, [], _, _ => simpa using same problem
  | [problem], [_], _, _ =>
      have member := (same problem).mp (List.mem_singleton_self problem)
      rw [List.mem_singleton.mp member]

/-- A report is empty if there is no fault. -/
theorem eq_nil_iff (reporting : Reporting fault first) :
    first = [] ↔ ∀ problem, ¬ fault problem := by
  simp only [List.eq_nil_iff_forall_not_mem, reporting.mem_iff]

end Reporting

theorem PanelFindings.unique {config : Config} {position : Nat} {panel : Panel}
    {first second : List Problem} (left : PanelFindings config position panel first)
    (right : PanelFindings config position panel second) : first = second := by
  obtain ⟨targets, urls, refreshes⟩ := left
  obtain ⟨targets', urls', refreshes'⟩ := right
  rw [targets.unique targets', urls.unique urls', refreshes.unique refreshes']

/-- A configuration determines its report. -/
theorem Findings.unique {config : Config} {first second : List Problem}
    (left : Findings config first) (right : Findings config second) : first = second := by
  obtain ⟨bases, reports, dashboards, addresses⟩ := left
  obtain ⟨bases', reports', dashboards', addresses'⟩ := right
  have unique : Relator.RightUnique fun (entry : Panel × Nat) =>
      PanelFindings config entry.2 entry.1 := fun _ _ _ => PanelFindings.unique
  have panels := unique.forall₂ reports reports'
  rw [bases.unique bases', panels, dashboards.unique dashboards', addresses.unique addresses']

/-! ## What validation finds -/

theorem Client.base?_eq_some_iff {client : Client} {base : Url} :
    client.base? = some base ↔ Url.parse client.baseUrl = .ok base := by
  unfold Client.base?
  cases Url.parse client.baseUrl <;> simp [Except.toOption]

theorem reporting_base (client : Client) :
    Reporting (BaseFault client) (baseProblems client) := by
  unfold baseProblems Client.base?
  cases parsed : Url.parse client.baseUrl with
  | error cause =>
      refine .one (.unreadable parsed) fun other fault => ?_
      cases fault
      rfl
  | ok base =>
      refine .none fun other fault => ?_
      cases fault with
      | unreadable failed =>
          rw [parsed] at failed
          cases failed

/-- The targets before a panel are those of the panels before it. -/
theorem reporting_target {panels before rest : List Panel} {panel : Panel} {earlier : List String}
    (split : panels = before ++ panel :: rest)
    (known : ∀ target, target ∈ earlier ↔ target ∈ before.map Panel.target) :
    Reporting (TargetFault panels before.length panel)
      (targetProblems before.length earlier panel) := by
  have repeated : panel.target ∈ earlier ↔ ∃ position other, position < before.length ∧
      panels[position]? = some other ∧ other.target = panel.target := by
    rw [known, List.mem_map, split]
    constructor
    · rintro ⟨other, member, same⟩
      obtain ⟨position, present⟩ := List.mem_iff_getElem?.mp member
      have within := (List.getElem?_eq_some_iff.mp present).1
      exact ⟨position, other, within, by rwa [List.getElem?_append_left within], same⟩
    · rintro ⟨position, other, within, present, same⟩
      rw [List.getElem?_append_left within] at present
      exact ⟨other, List.mem_of_getElem? present, same⟩
  unfold targetProblems
  split
  next blank =>
    refine .one (.empty blank) fun other fault => ?_
    cases fault with
    | empty => rfl
    | duplicate given => simp [blank] at given
  next given =>
    have given : isBlank panel.target = false := by simpa using given
    split
    next member =>
      obtain ⟨position, other, within, present, same⟩ := repeated.mp member
      refine .one (.duplicate given within present same) fun problem fault => ?_
      cases fault with
      | empty blank => simp [given] at blank
      | duplicate => rfl
    next absent =>
      refine .none fun problem fault => ?_
      cases fault with
      | empty blank => simp [given] at blank
      | duplicate _ within present same =>
          exact absent (repeated.mpr ⟨_, _, within, present, same⟩)

theorem reporting_join (base : Url) {panel : Panel} (given : isBlank panel.url = false) :
    Reporting (JoinFault base panel) (urlProblems (some base) panel) := by
  simp only [urlProblems, given, Bool.false_eq_true, if_false]
  split
  next cause failed =>
    refine .one (.unreadable failed) fun other fault => ?_
    cases fault with
    | unreadable => rfl
    | unsupported joined => simp [failed] at joined
  next url joined =>
    have same : ∀ {other}, base.join panel.url = .ok other → other = url := by
      intro other again
      rw [joined] at again
      exact (Except.ok.inj again).symm
    split
    next http =>
      refine .none fun other fault => ?_
      cases fault with
      | unreadable failed => simp [joined] at failed
      | unsupported again unequal => exact unequal (same again ▸ http)
    next unequal =>
      refine .one (.unsupported joined unequal) fun other fault => ?_
      cases fault with
      | unreadable failed => simp [joined] at failed
      | unsupported again => rw [same again]

theorem reporting_url (client : Client) (panel : Panel) :
    Reporting (UrlFault client panel) (urlProblems client.base? panel) := by
  cases given : isBlank panel.url with
  | true =>
      simp only [urlProblems, given, if_true]
      refine .one (.empty given) fun other fault => ?_
      cases fault with
      | empty => rfl
      | joined filled => simp [given] at filled
  | false =>
      cases read : client.base? with
      | none =>
          simp only [urlProblems, given, Bool.false_eq_true, if_false]
          refine .none fun other fault => ?_
          cases fault with
          | empty blank => simp [given] at blank
          | joined _ parsed => simp [Client.base?_eq_some_iff.mpr parsed] at read
      | some base =>
          have parsed := Client.base?_eq_some_iff.mp read
          refine (reporting_join base given).of_iff fun problem => ⟨.joined given parsed, ?_⟩
          rintro (blank | ⟨-, again, fault⟩)
          · simp [given] at blank
          · rw [parsed] at again
            cases again
            exact fault

theorem reporting_refresh (panel : Panel) :
    Reporting (RefreshFault panel) (refreshProblems panel) := by
  unfold refreshProblems
  split
  next zero =>
    refine .one (.zero zero) fun other fault => ?_
    cases fault
    rfl
  next positive =>
    refine .none fun other fault => ?_
    cases fault with
    | zero none => exact positive none

theorem reporting_address (inUse : Bool) (field value : String) :
    Reporting (AddressFault inUse field value) (addressProblems inUse field value) := by
  unfold addressProblems
  split
  next unusable =>
    rw [Bool.and_eq_true, Option.isNone_iff_eq_none] at unusable
    refine .one (.unreadable unusable.1 unusable.2) fun other fault => ?_
    cases fault
    rfl
  next usable =>
    refine .none fun other fault => ?_
    cases fault with
    | unreadable used failed => simp [used, failed] at usable

/-- The report of each panel is that of the panel at its position. -/
theorem forall_zipIdx_reports {config : Config} {before rest : List Panel}
    {earlier : List String} (own : config.panels = before ++ rest)
    (known : ∀ target, target ∈ earlier ↔ target ∈ before.map Panel.target) :
    List.Forall₂ (fun entry => PanelFindings config entry.2 entry.1)
      (rest.zipIdx before.length)
      (panelReports config.client.base? before.length earlier rest) := by
  induction rest generalizing before earlier with
  | nil => exact .nil
  | cons panel rest ih =>
      rw [List.zipIdx_cons, panelReports]
      refine .cons (.inOrder (reporting_target own known) (reporting_url _ panel)
        (reporting_refresh panel)) ?_
      have next := @ih (before ++ [panel]) (panel.target :: earlier) (by simpa using own) (by
        intro target
        rw [List.mem_cons, known, List.map_append, List.mem_append, List.map_singleton,
          List.mem_singleton, or_comm])
      rwa [List.length_append, List.length_singleton] at next

/-- Validation finds what is to be reported. -/
theorem findings_problems (config : Config) : Findings config config.problems := by
  rw [problems_eq]
  have reports := @forall_zipIdx_reports config [] config.panels [] rfl (by simp)
  exact .inOrder (reporting_base _) reports (reporting_address ..) (reporting_address ..)

/-! ## Configurations without faults -/

theorem no_baseFault_iff (client : Client) :
    (∀ problem, ¬ BaseFault client problem) ↔ ∃ base, Url.parse client.baseUrl = .ok base := by
  cases parsed : Url.parse client.baseUrl with
  | error cause => simpa using ⟨_, .unreadable parsed⟩
  | ok base =>
      simp only [Except.ok.injEq, exists_eq', iff_true]
      rintro problem ⟨failed⟩
      rw [parsed] at failed
      cases failed

theorem no_targetFault_iff (panels : List Panel) (position : Nat) (panel : Panel) :
    (∀ problem, ¬ TargetFault panels position panel problem) ↔
      isBlank panel.target = false ∧ ∀ earlier other, earlier < position →
        panels[earlier]? = some other → other.target ≠ panel.target := by
  constructor
  · intro none
    have given : isBlank panel.target = false := by
      by_contra blank
      exact none _ (.empty (by simpa using blank))
    exact ⟨given, fun earlier other before present same =>
      none _ (.duplicate given before present same)⟩
  · rintro ⟨given, new⟩ problem (blank | ⟨-, before, present, same⟩)
    · simp [given] at blank
    · exact new _ _ before present same

theorem no_urlFault_iff {client : Client} {base : Url}
    (parsed : Url.parse client.baseUrl = .ok base) (panel : Panel) :
    (∀ problem, ¬ UrlFault client panel problem) ↔
      isBlank panel.url = false ∧
        ∃ url, base.join panel.url = .ok url ∧ url.schemeText = "http" := by
  constructor
  · intro none
    have given : isBlank panel.url = false := by
      by_contra blank
      exact none _ (.empty (by simpa using blank))
    refine ⟨given, ?_⟩
    cases joined : base.join panel.url with
    | error cause => exact (none _ (.joined given parsed (.unreadable joined))).elim
    | ok url =>
        refine ⟨url, rfl, ?_⟩
        by_contra other
        exact none _ (.joined given parsed (.unsupported joined other))
  · rintro ⟨given, url, joined, http⟩ problem (blank | ⟨-, again, fault⟩)
    · simp [given] at blank
    · rw [parsed] at again
      cases again
      cases fault with
      | unreadable failed => simp [joined] at failed
      | unsupported again other =>
          rw [joined] at again
          cases again
          exact other http

theorem no_refreshFault_iff (panel : Panel) :
    (∀ problem, ¬ RefreshFault panel problem) ↔ 0 < panel.refresh := by
  rw [Nat.pos_iff_ne_zero]
  constructor
  · exact fun none zero => none _ (.zero zero)
  · rintro positive problem ⟨zero⟩
    exact positive zero

theorem no_addressFault_iff (inUse : Bool) (field value : String) :
    (∀ problem, ¬ AddressFault inUse field value problem) ↔
      (inUse = true → (Net.SocketAddress.parse? value).isSome = true) := by
  constructor
  · intro none used
    by_contra failed
    exact none _ (.unreadable used (by simpa using failed))
  · rintro readable problem ⟨used, failed⟩
    simpa [failed] using readable used

/-- The report of a panel is empty if nothing is wrong with it. -/
theorem PanelFindings.eq_nil_iff {config : Config} {position : Nat} {panel : Panel}
    {found : List Problem} (findings : PanelFindings config position panel found) :
    found = [] ↔ (∀ problem, ¬ TargetFault config.panels position panel problem) ∧
      (∀ problem, ¬ UrlFault config.client panel problem) ∧
      ∀ problem, ¬ RefreshFault panel problem := by
  obtain ⟨targets, urls, refreshes⟩ := findings
  rw [List.append_eq_nil_iff, List.append_eq_nil_iff, targets.eq_nil_iff, urls.eq_nil_iff,
    refreshes.eq_nil_iff, and_assoc]

/-- The reports of all panels are empty if nothing is wrong with any of them. -/
theorem flatten_eq_nil_iff {config : Config} {entries : List (Panel × Nat)}
    {reports : List (List Problem)}
    (found : List.Forall₂ (fun entry => PanelFindings config entry.2 entry.1) entries reports) :
    reports.flatten = [] ↔ ∀ entry ∈ entries,
      (∀ problem, ¬ TargetFault config.panels entry.2 entry.1 problem) ∧
      (∀ problem, ¬ UrlFault config.client entry.1 problem) ∧
      ∀ problem, ¬ RefreshFault entry.1 problem := by
  induction found with
  | nil => simp
  | cons first _ ih => rw [List.flatten_cons, List.append_eq_nil_iff, first.eq_nil_iff, ih,
      List.forall_mem_cons]

/-- Targets of their own are targets that no earlier panel has. -/
theorem nodup_targets_iff (panels : List Panel) :
    (panels.map Panel.target).Nodup ↔ ∀ entry ∈ panels.zipIdx, ∀ earlier other,
      earlier < entry.2 → panels[earlier]? = some other → other.target ≠ entry.1.target := by
  rw [List.nodup_iff_getElem?_ne_getElem?]
  constructor
  · rintro apart ⟨panel, position⟩ member earlier other before present same
    rw [List.mem_zipIdx_iff_getElem?] at member
    have within := (List.getElem?_eq_some_iff.mp member).1
    refine apart earlier position before (by simpa using within) ?_
    rw [List.getElem?_map, List.getElem?_map, present, member, Option.map_some, Option.map_some,
      same]
  · intro apart earlier position before within same
    rw [List.length_map] at within
    have later := List.getElem?_eq_getElem within
    have sooner := List.getElem?_eq_getElem (Nat.lt_trans before within)
    rw [List.getElem?_map, List.getElem?_map, later, sooner, Option.map_some, Option.map_some,
      Option.some.injEq] at same
    exact apart (panels[position], position) (List.mem_zipIdx_iff_getElem?.mpr later) _ _ before
      sooner same

/-- What holds of every panel next to its position holds of every panel. -/
theorem forall_mem_zipIdx {panels : List Panel} {property : Panel → Prop} :
    (∀ entry ∈ panels.zipIdx, property entry.1) ↔ ∀ panel ∈ panels, property panel := by
  rw [← List.forall_mem_map, List.zipIdx_map_fst]

/-- There is nothing to report exactly if the configuration is valid. -/
theorem Findings.eq_nil_iff {config : Config} {found : List Problem}
    (findings : Findings config found) : found = [] ↔ config.Valid := by
  obtain ⟨bases, reports, dashboards, addresses⟩ := findings
  rw [List.append_eq_nil_iff, List.append_eq_nil_iff, List.append_eq_nil_iff, bases.eq_nil_iff,
    flatten_eq_nil_iff reports, dashboards.eq_nil_iff, addresses.eq_nil_iff, no_baseFault_iff,
    no_addressFault_iff, no_addressFault_iff]
  simp only [no_targetFault_iff, no_refreshFault_iff]
  constructor
  · rintro ⟨⟨⟨⟨base, parsed⟩, calm⟩, dashboard⟩, metrics⟩
    simp only [no_urlFault_iff parsed] at calm
    exact {
      base := ⟨base, parsed, forall_mem_zipIdx.mp fun entry member => (calm entry member).2.1.2⟩
      targets := forall_mem_zipIdx.mp fun entry member => (calm entry member).1.1
      distinct := (nodup_targets_iff _).mpr fun entry member => (calm entry member).1.2
      urls := forall_mem_zipIdx.mp fun entry member => (calm entry member).2.1.1
      refreshes := forall_mem_zipIdx.mp fun entry member => (calm entry member).2.2
      dashboard, metrics }
  · rintro ⟨⟨base, parsed, joins⟩, targets, distinct, urls, refreshes, dashboard, metrics⟩
    simp only [no_urlFault_iff parsed]
    refine ⟨⟨⟨⟨base, parsed⟩, fun entry member => ?_⟩, dashboard⟩, metrics⟩
    have own : entry.1 ∈ config.panels := List.fst_mem_of_mem_zipIdx member
    exact ⟨⟨targets _ own, (nodup_targets_iff _).mp distinct entry member⟩,
      ⟨urls _ own, joins _ own⟩, refreshes _ own⟩

/-- Validation accepts exactly the valid configurations. -/
theorem accepted_iff_valid (config : Config) : config.validate = .ok () ↔ config.Valid :=
  (validate_eq_ok_iff config).trans (findings_problems config).eq_nil_iff

theorem sound_of_accepted {config : Config} (accepted : config.validate = .ok ()) :
    config.Sound := by
  have valid := (accepted_iff_valid config).mp accepted
  obtain ⟨base, parsed, -⟩ := valid.base
  have read := Client.base?_eq_some_iff.mpr parsed
  exact ⟨by rw [read]; rfl, valid.urls, valid.distinct, valid.metrics⟩

/-! ## Duplicates -/

theorem count_duplicate_target {target : String} (given : isBlank target = false) (index : Nat)
    (earlier : List String) (panel : Panel) :
    (targetProblems index earlier panel).count (.duplicateTarget target) =
      if panel.target = target ∧ target ∈ earlier then 1 else 0 := by
  unfold targetProblems
  by_cases same : panel.target = target
  · subst same
    by_cases member : panel.target ∈ earlier <;> simp [given, member]
  · split
    · simp [same]
    · split <;> simp [same]

theorem count_duplicate_panel {target : String} (given : isBlank target = false)
    (base : Option Url) (index : Nat) (earlier : List String) (panel : Panel) :
    (panelProblems base index earlier panel).count (.duplicateTarget target) =
      if panel.target = target ∧ target ∈ earlier then 1 else 0 := by
  have urls : (urlProblems base panel).count (.duplicateTarget target) = 0 := by
    unfold urlProblems
    split
    · rfl
    · split
      · rfl
      · split
        · rfl
        · split <;> rfl
  have refreshes : (refreshProblems panel).count (.duplicateTarget target) = 0 := by
    unfold refreshProblems
    split <;> rfl
  rw [panelProblems, List.count_append, List.count_append, count_duplicate_target given, urls,
    refreshes, Nat.add_zero]

/-- A target is a duplicate as often as panels have it, once less if it was not met before. -/
theorem count_duplicate_panels {target : String} (given : isBlank target = false)
    (base : Option Url) (index : Nat) (earlier : List String) (panels : List Panel) :
    (panelsProblems base index earlier panels).count (.duplicateTarget target) =
      (panels.map Panel.target).count target - if target ∈ earlier then 0 else 1 := by
  induction panels generalizing index earlier with
  | nil => simp [panelsProblems]
  | cons panel rest ih =>
      rw [panelsProblems, List.count_append, count_duplicate_panel given, ih, List.map_cons]
      by_cases same : panel.target = target
      · subst same
        by_cases member : panel.target ∈ earlier
        · simp [member, Nat.add_comm]
        · simp [member]
      · have apart : target ≠ panel.target := fun other => same other.symm
        simp [same, apart]

theorem count_duplicate (config : Config) {target : String} (given : isBlank target = false) :
    config.problems.count (.duplicateTarget target) =
      (config.panels.map Panel.target).count target - 1 := by
  have base : (baseProblems config.client).count (.duplicateTarget target) = 0 := by
    unfold baseProblems
    split <;> rfl
  have address : ∀ inUse field value,
      (addressProblems inUse field value).count (.duplicateTarget target) = 0 := by
    intro inUse field value
    unfold addressProblems
    split <;> rfl
  rw [problems, List.count_append, List.count_append, List.count_append, base, address, address,
    count_duplicate_panels given]
  simp

/-! ## Validation -/

/-- Validation accepts exactly the valid configurations, and of any other it
reports every fault once and in order: of the base URL, of the target, the URL and
the interval of each panel, and of the addresses in use. A target that `k` panels
have is reported `k - 1` times. -/
theorem validate_reports_faults (config : Config) :
    (config.validate = .ok () ↔ config.Valid) ∧
    (∀ found, config.validate = .error found ↔ ¬ config.Valid ∧ Findings config found) ∧
    ∀ found target, config.validate = .error found → isBlank target = false →
      found.count (.duplicateTarget target) =
        (config.panels.map Panel.target).count target - 1 := by
  have findings := findings_problems config
  have valid := accepted_iff_valid config
  have refused : ∀ found, config.validate = .error found →
      found = config.problems ∧ ¬ config.Valid := by
    intro found error
    refine ⟨?_, fun allowed => ?_⟩
    · unfold validate at error
      split at error
      · cases error
      · exact (Except.error.inj error).symm
    · rw [valid.mpr allowed] at error
      cases error
  refine ⟨valid, fun found => ⟨fun error => ?_, ?_⟩, fun found target error given => ?_⟩
  · obtain ⟨rfl, invalid⟩ := refused found error
    exact ⟨invalid, findings⟩
  · rintro ⟨invalid, other⟩
    have present : ¬ config.problems.isEmpty = true := fun none =>
      invalid (findings.eq_nil_iff.mp (List.isEmpty_iff.mp none))
    rw [validate, if_neg present, other.unique findings]
  · rw [(refused found error).1]
    exact count_duplicate config given

/-- Three panels with one target next to a panel without any; the base URL is not
absolute, so that of the URLs only the blank one is reported, and only the address in
use is looked at. -/
def crowdedConfig : Config where
  client := { baseUrl := "/console" }
  panels := [{ target := "news", url := "mailto:console@home" }, { target := " ", url := "/a" },
    { target := "news", url := "\t", refresh := 0 }, { target := "news", url := "/b" }]
  dashboard := { bindAddress := "nowhere" }
  observability := { metricsAddress := "nowhere" }

/-- Of the crowded panels two are duplicates. -/
theorem validate_reports_faults_crowded :
    ∃ found, crowdedConfig.validate = .error found ∧ found.length = 7 ∧
      Findings crowdedConfig found ∧ found.count (.duplicateTarget "news") = 2 := by
  have refused : crowdedConfig.validate = .error [.invalidBaseUrl "/console", .emptyTarget 1,
      .duplicateTarget "news", .emptyUrl "news", .zeroRefresh "news", .duplicateTarget "news",
      .invalidAddress "dashboard.bind_address" "nowhere"] := by decide +kernel
  obtain ⟨-, reported, duplicates⟩ := validate_reports_faults crowdedConfig
  exact ⟨_, refused, rfl, ((reported _).mp refused).2,
    duplicates _ "news" refused (by decide +kernel)⟩

end PanelBoard.Config
