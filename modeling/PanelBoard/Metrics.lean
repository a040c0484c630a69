/-!
# Metrics

Counters of completed cycles and response statuses, and a gauge of the current
failure streak, all by target. A metric is present once it was touched.
-/

namespace PanelBoard

/-- How often each key was counted; keys appear in the order of their first count. -/
abbrev Tally (κ : Type) := List (κ × Nat)

namespace Tally

variable {κ : Type} [DecidableEq κ]

/-- Count a key once more. -/
def bump (key : κ) : Tally κ → Tally κ
  | [] => [(key, 1)]
  | (other, count) :: rest =>
    if other = key then (other, count + 1) :: rest else (other, count) :: bump key rest

/-- How often a key was counted. -/
def count (key : κ) : Tally κ → Nat
  | [] => 0
  | (other, n) :: rest => if other = key then n else count key rest

/-- The sum over the keys satisfying `counts`. -/
def total (counts : κ → Bool) (tally : Tally κ) : Nat :=
  ((tally.filter (fun entry => counts entry.1)).map (·.2)).foldl (· + ·) 0

end Tally

/-- Set the value of a key; new keys come last. -/
def putGauge (key : String) (value : Nat) : List (String × Nat) → List (String × Nat)
  | [] => [(key, value)]
  | (other, old) :: rest =>
    if other = key then (key, value) :: rest else (other, old) :: putGauge key value rest

/-- All metrics of a board. Cycles are counted by target and the label of their
outcome. -/
structure Metrics where
  statuses : Tally (String × UInt16) := []
  cycles : Tally (String × String) := []
  failures : List (String × Nat) := []
  deriving Repr, DecidableEq

namespace Metrics

/-- Count the status of a completed response. -/
def recordStatus (metrics : Metrics) (target : String) (status : UInt16) : Metrics :=
  { metrics with statuses := Tally.bump (target, status) metrics.statuses }

/-- Count a completed cycle and set the failure streak of its target. -/
def recordCycle (metrics : Metrics) (target outcome : String) (failures : Nat) : Metrics :=
  { metrics with
    cycles := Tally.bump (target, outcome) metrics.cycles
    failures := putGauge target failures metrics.failures }

/-- The value of a metric sample. -/
inductive SampleValue where
  | counter (count : Nat)
  | gauge (value : Nat)
  deriving Repr, DecidableEq

/-- One metric as it is reported: name, labels and value. -/
structure Sample where
  name : String
  labels : List (String × String)
  value : SampleValue
  deriving Repr, DecidableEq

/-- What samples are ordered by: the name, then the labels one after another. -/
def Sample.sortKey (sample : Sample) : List String :=
  sample.name :: sample.labels.flatMap fun (key, value) => [key, value]

/-- All samples, ordered by name and labels. -/
def samples (metrics : Metrics) : List Sample :=
  let statuses := metrics.statuses.map fun ((target, status), count) =>
    { name := "poller_response_status_total"
      labels := [("target", target), ("status", toString status.toNat)]
      value := .counter count : Sample }
  let cycles := metrics.cycles.map fun ((target, outcome), count) =>
    { name := "poller_cycles_total"
      labels := [("target", target), ("outcome", outcome)]
      value := .counter count : Sample }
  let failures := metrics.failures.map fun (target, value) =>
    { name := "poller_consecutive_failures", labels := [("target", target)]
      value := .gauge value : Sample }
  (statuses ++ cycles ++ failures).mergeSort (fun a b => (compare a.sortKey b.sortKey).isLE)

end Metrics

end PanelBoard
