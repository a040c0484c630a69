/-!
# Failure streaks

One failed poll is tolerated in silence; a second one in a row shows. A loop
therefore only remembers whether its last completed poll failed.
-/

namespace PanelBoard.Poll

/-- What a completed poll meant for the display. -/
inductive Outcome where
  | success
  | toleratedFailure
  | hardFailure
  deriving Repr, DecidableEq

/-- The label of an outcome. -/
def Outcome.label : Outcome → String
  | .success => "success"
  | .toleratedFailure => "tolerated_failure"
  | .hardFailure => "hard_failure"

/-- What a loop remembers of its completed polls. -/
inductive Streak where
  | clear
  | tolerating
  deriving Repr, DecidableEq

namespace Streak

/-- The length of the streak, which does not grow past one. -/
def failures : Streak → Nat
  | .clear => 0
  | .tolerating => 1

/-- A status of 200 ends every streak. -/
def recordSuccess (_ : Streak) : Outcome × Streak :=
  (.success, .clear)

/-- The first failure of a streak is tolerated, every further one is hard. -/
def recordFailure : Streak → Outcome × Streak
  | .clear => (.toleratedFailure, .tolerating)
  | .tolerating => (.hardFailure, .tolerating)

end Streak

end PanelBoard.Poll
