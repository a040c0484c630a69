import PanelBoard.Metrics

/-!
# Counting

Counting a key adds one to that key and leaves every other count alone; setting
a gauge replaces that gauge and no other.
-/

namespace PanelBoard

/-- Counting a key adds one to it and nothing to the others. -/
theorem Tally.count_bump {κ : Type} [DecidableEq κ] (key counted : κ) (tally : Tally κ) :
    Tally.count key (Tally.bump counted tally) =
      Tally.count key tally + if counted = key then 1 else 0 := by
  induction tally with
  | nil => simp [Tally.bump, Tally.count]
  | cons entry rest ih =>
      obtain ⟨other, n⟩ := entry
      by_cases hit : other = counted
      · subst hit
        by_cases same : other = key <;> simp [Tally.bump, Tally.count, same]
      · by_cases same : other = key
        · subst same
          simp [Tally.bump, Tally.count, hit, Ne.symm hit]
        · simp [Tally.bump, Tally.count, hit, same, ih]

theorem Tally.total_cons {κ : Type} (counts : κ → Bool) (key : κ) (n : Nat) (rest : Tally κ) :
    Tally.total counts ((key, n) :: rest) =
      (if counts key then n else 0) + Tally.total counts rest := by
  unfold Tally.total
  simp only [← List.sum_eq_foldl]
  by_cases counted : counts key = true <;> simp [counted]

/-- Counting a key adds one to every total that it belongs to. -/
theorem Tally.total_bump {κ : Type} [DecidableEq κ] (counts : κ → Bool) (key : κ)
    (tally : Tally κ) :
    Tally.total counts (Tally.bump key tally) =
      Tally.total counts tally + if counts key then 1 else 0 := by
  induction tally with
  | nil => by_cases counted : counts key = true <;> simp [Tally.bump, Tally.total, counted]
  | cons entry rest ih =>
      obtain ⟨other, n⟩ := entry
      by_cases hit : other = key
      · subst hit
        simp only [Tally.bump, if_true, Tally.total_cons]
        split <;> omega
      · simp only [Tally.bump, hit, if_false, Tally.total_cons, ih]
        omega

/-- Setting a gauge replaces its value and no other. -/
theorem lookup_putGauge (key other : String) (value : Nat) (gauges : List (String × Nat)) :
    (putGauge key value gauges).lookup other =
      if key = other then some value else gauges.lookup other := by
  induction gauges with
  | nil =>
      by_cases same : key = other
      · simp [putGauge, same]
      · simp [putGauge, same, List.lookup_cons, beq_eq_false_iff_ne.mpr (Ne.symm same)]
  | cons entry rest ih =>
      obtain ⟨name, old⟩ := entry
      by_cases hit : name = key
      · subst hit
        by_cases same : name = other
        · simp [putGauge, same]
        · simp [putGauge, same, List.lookup_cons, beq_eq_false_iff_ne.mpr (Ne.symm same)]
      · simp only [putGauge, hit, if_false, List.lookup_cons, ih]
        by_cases same : key = other
        · subst same
          simp [beq_eq_false_iff_ne.mpr (Ne.symm hit)]
        · simp [same]

/-- Counting a key among the kept ones is counting it before keeping them. -/
theorem Tally.filter_bump {κ : Type} [DecidableEq κ] (keep : κ → Bool) (key : κ)
    (tally : Tally κ) :
    (Tally.bump key tally).filter (fun entry => keep entry.1) =
      if keep key then Tally.bump key (tally.filter fun entry => keep entry.1)
      else tally.filter fun entry => keep entry.1 := by
  induction tally with
  | nil => by_cases kept : keep key = true <;> simp [Tally.bump, kept]
  | cons entry rest ih =>
      obtain ⟨other, n⟩ := entry
      by_cases hit : other = key
      · subst hit
        by_cases kept : keep other = true <;> simp [Tally.bump, kept]
      · by_cases kept : keep key = true <;> by_cases others : keep other = true <;>
          simp_all [Tally.bump]

theorem filter_putGauge (keep : String → Bool) (key : String) (value : Nat)
    (gauges : List (String × Nat)) :
    (putGauge key value gauges).filter (fun entry => keep entry.1) =
      if keep key then putGauge key value (gauges.filter fun entry => keep entry.1)
      else gauges.filter fun entry => keep entry.1 := by
  induction gauges with
  | nil => by_cases kept : keep key = true <;> simp [putGauge, kept]
  | cons entry rest ih =>
      obtain ⟨other, old⟩ := entry
      by_cases hit : other = key
      · subst hit
        by_cases kept : keep other = true <;> simp [putGauge, kept]
      · by_cases kept : keep key = true <;> by_cases others : keep other = true <;>
          simp_all [putGauge]

namespace Metrics

/-- The metrics of one target. -/
def about (metrics : Metrics) (target : String) : Metrics where
  statuses := metrics.statuses.filter fun entry => entry.1.1 = target
  cycles := metrics.cycles.filter fun entry => entry.1.1 = target
  failures := metrics.failures.filter fun entry => entry.1 = target

/-- A completion of a target counts towards the metrics of that target only. -/
theorem about_record (metrics : Metrics) (target other : String) (status : UInt16)
    (outcome : String) (failures : Nat) :
    ((metrics.recordStatus target status).recordCycle target outcome failures).about other =
      if target = other then
        ((metrics.about other).recordStatus target status).recordCycle target outcome failures
      else metrics.about other := by
  have statuses := Tally.filter_bump (fun key => key.1 = other) (target, status) metrics.statuses
  have cycles := Tally.filter_bump (fun key => key.1 = other) (target, outcome) metrics.cycles
  have gauges := filter_putGauge (· = other) target failures metrics.failures
  simp only [decide_eq_true_eq] at statuses cycles gauges
  unfold about recordStatus recordCycle
  simp only [statuses, cycles, gauges]
  split <;> rfl

/-- Does a sample carry the label of a target? -/
def Sample.isAbout (target : String) (sample : Sample) : Bool :=
  sample.labels.contains ("target", target)

private theorem filter_isAbout {κ : Type} {report : κ × Nat → Sample} {target : String}
    (name : κ → String)
    (labelled : ∀ entry, (report entry).isAbout target = decide (name entry.1 = target))
    (entries : List (κ × Nat)) :
    (entries.map report).filter (Sample.isAbout target) =
      (entries.filter fun entry => name entry.1 = target).map report := by
  rw [List.filter_map]
  congr 1
  exact List.filter_congr fun entry _ => labelled entry

/-- The samples with the label of a target are those of the metrics of that target. -/
theorem samples_about (metrics : Metrics) (target : String) :
    (metrics.samples.filter (Sample.isAbout target)).Perm (metrics.about target).samples := by
  refine ((List.mergeSort_perm _ _).filter _).trans
    (.trans (.of_eq ?_) (List.mergeSort_perm _ _).symm)
  rw [List.filter_append, List.filter_append]
  refine congr (congrArg _ (congr (congrArg _ ?_) ?_)) ?_
  · exact filter_isAbout Prod.fst (by simp [Sample.isAbout, eq_comm]) _
  · exact filter_isAbout Prod.fst (by simp [Sample.isAbout, eq_comm]) _
  · exact filter_isAbout id (by simp [Sample.isAbout, eq_comm]) _

/-- The sum of the status counters of a target. -/
def statusTotal (metrics : Metrics) (target : String) : Nat :=
  Tally.total (fun key => key.1 = target) metrics.statuses

/-- The sum of the cycle counters of a target. -/
def cycleTotal (metrics : Metrics) (target : String) : Nat :=
  Tally.total (fun key => key.1 = target) metrics.cycles

/-- The failure gauge of a target; none if it was never set. -/
def gauge? (metrics : Metrics) (target : String) : Option Nat :=
  metrics.failures.lookup target

/-- One completion more: counted once by its status and once by its outcome, and
the gauge of its target set. -/
structure CountsOnce (before after : Metrics) (target : String) (status : UInt16)
    (outcome : String) (failures : Nat) : Prop where
  statuses : ∀ key, Tally.count key after.statuses =
    Tally.count key before.statuses + if (target, status) = key then 1 else 0
  cycles : ∀ key, Tally.count key after.cycles =
    Tally.count key before.cycles + if (target, outcome) = key then 1 else 0
  gauges : ∀ other, after.gauge? other =
    if target = other then some failures else before.gauge? other

/-- Recording a status and a cycle counts one completion. -/
theorem countsOnce_record (metrics : Metrics) (target : String) (status : UInt16)
    (outcome : String) (failures : Nat) :
    metrics.CountsOnce ((metrics.recordStatus target status).recordCycle target outcome failures)
      target status outcome failures where
  statuses key := Tally.count_bump key (target, status) metrics.statuses
  cycles key := Tally.count_bump key (target, outcome) metrics.cycles
  gauges other := lookup_putGauge target other failures metrics.failures

/-- A completion adds one to both sums of its target and nothing to those of others. -/
theorem totals_record (metrics : Metrics) (target other : String) (status : UInt16)
    (outcome : String) (failures : Nat) :
    let recorded := (metrics.recordStatus target status).recordCycle target outcome failures
    recorded.statusTotal other = metrics.statusTotal other + (if target = other then 1 else 0) ∧
    recorded.cycleTotal other = metrics.cycleTotal other + if target = other then 1 else 0 := by
  constructor
  · simpa [statusTotal, recordStatus, recordCycle] using
      Tally.total_bump (fun key => key.1 = other) (target, status) metrics.statuses
  · simpa [cycleTotal, recordStatus, recordCycle] using
      Tally.total_bump (fun key => key.1 = other) (target, outcome) metrics.cycles

end Metrics

end PanelBoard
