import PanelBoard.Log
import PanelBoard.Metrics
import PanelBoard.Poll.Streak
import PanelBoard.Region.Store

/-!
# Reacting to a ready-state change

What one loop does with one ready-state change. A change that does not complete
its request touches nothing. A completion with status 200 shows its body; a
failure is tolerated once and then shows the failure message.
-/

namespace PanelBoard.Poll

/-- What loops write to: the regions and the metrics. -/
structure Display where
  regions : Region.Store := {}
  metrics : Metrics := {}
  deriving Repr, DecidableEq

/-- The effect of one ready-state change. Without an outcome nothing completed. -/
structure Reaction where
  outcome : Option Outcome
  streak : Streak
  display : Display
  log : List Log.Event := []
  deriving Repr, DecidableEq

/-- The events of writing to a region: one if the region is new. -/
def writeEvents (regions : Region.Store) (target : String) : List Log.Event :=
  if regions.contains target then [] else [.unregisteredRegion target]

/-- Handle one ready-state change of a loop with the given target. -/
def react (target failureMessage : String) (streak : Streak) (display : Display)
    (response : Response) : Reaction :=
  if response.isComplete then
    let metrics := display.metrics.recordStatus target response.status
    let (outcome, next) :=
      if response.isOk then streak.recordSuccess else streak.recordFailure
    let (regions, log) :=
      match outcome with
      | .success =>
        (display.regions.setContent target response.body,
          writeEvents display.regions target ++
            [.regionUpdated response.body.utf8ByteSize])
      | .toleratedFailure => (display.regions, [.failureTolerated response.status])
      | .hardFailure =>
        (display.regions.setContent target failureMessage,
          writeEvents display.regions target ++ [.failureShown response.status])
    { outcome := some outcome
      streak := next
      display := { regions, metrics := metrics.recordCycle target outcome.label next.failures }
      log }
  else
    { outcome := none, streak, display, log := [.notComplete response.state] }

end PanelBoard.Poll
