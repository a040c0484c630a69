import PanelBoard.Proofs.Metrics
import PanelBoard.Proofs.Poll.Cycle

/-!
# Surfaces

What a display shows of one target: its region and the metrics with its label.
Surfaces of different targets have nothing in common, and what a reaction makes
of a surface depends on that surface only.
-/

namespace PanelBoard.Poll

/-- What a display shows of one target. -/
structure Surface where
  region : Option Region.Snapshot
  metrics : Metrics
  deriving DecidableEq

/-- The surface of a target. -/
def Display.surface (display : Display) (target : String) : Surface where
  region := display.regions.get? target
  metrics := display.metrics.about target

/-- What an outcome makes of a region depends on that region only. -/
theorem get?_write_congr {first second : Region.Store} {target : String}
    (same : first.get? target = second.get? target) (outcome : Outcome)
    (failureMessage body : String) :
    (outcome.write target failureMessage body first).get? target =
      (outcome.write target failureMessage body second).get? target := by
  have updates : first.updateCount target = second.updateCount target := by
    rw [Region.Store.updateCount, same, Region.Store.updateCount]
  cases outcome with
  | success =>
      simp only [Outcome.write, Region.Store.get?_setContent_self, updates]
  | toleratedFailure => exact same
  | hardFailure =>
      simp only [Outcome.write, Region.Store.get?_setContent_self, updates]

section React

variable {target failureMessage : String} {streak : Streak} {response : Response}

/-- A reaction leaves the surfaces of other targets as they are. -/
theorem surface_react_of_ne {display : Display} {other : String} (apart : other ≠ target) :
    (react target failureMessage streak display response).display.surface other =
      display.surface other := by
  by_cases complete : response.isComplete = true
  · have metrics := @react_metrics target failureMessage streak display response complete
    unfold Display.surface
    rw [get?_react_of_ne apart, metrics, Metrics.about_record, if_neg (Ne.symm apart)]
  · rw [react_of_incomplete (by simpa using complete)]

/-- Reactions to the same change agree on a surface on which their displays agreed. -/
theorem surface_react_congr {first second : Display}
    (same : first.surface target = second.surface target) :
    (react target failureMessage streak first response).display.surface target =
      (react target failureMessage streak second response).display.surface target := by
  by_cases complete : response.isComplete = true
  · have region : first.regions.get? target = second.regions.get? target :=
      congrArg Surface.region same
    have metrics : first.metrics.about target = second.metrics.about target :=
      congrArg Surface.metrics same
    unfold Display.surface
    simp only [react_regions complete, react_metrics complete, Metrics.about_record, metrics,
      get?_write_congr region]
  · rw [react_of_incomplete (by simpa using complete),
      react_of_incomplete (by simpa using complete)]
    exact same

end React

namespace Board

variable {board : Board} {index : Nat} {change : Response}

/-- A loop leaves the surfaces of other targets as they are. -/
theorem surface_handle_of_ne {target : String}
    (apart : ∀ loop, board.loops[index]? = some loop → loop.request.target ≠ target) :
    (board.handle index change).2.display.surface target = board.display.surface target := by
  cases present : board.loops[index]? with
  | none => rw [handle_of_absent present]
  | some loop =>
      rw [handle_of_present present]
      exact surface_react_of_ne (apart loop present).symm

end Board

end PanelBoard.Poll
