/-!
# Cutting lists at separators

Splitting keeps empty pieces: a list with `n` separators has `n + 1` pieces.
-/

namespace PanelBoard.Text

/-- The pieces between the elements satisfying `isSeparator`. -/
def splitOn {α : Type} (isSeparator : α → Bool) : List α → List (List α)
  | [] => [[]]
  | x :: rest =>
    if isSeparator x then [] :: splitOn isSeparator rest
    else
      match splitOn isSeparator rest with
      | [] => [[x]]
      | piece :: pieces => (x :: piece) :: pieces

/-- There is always at least one piece. -/
theorem splitOn_ne_nil {α : Type} (isSeparator : α → Bool) (xs : List α) :
    splitOn isSeparator xs ≠ [] := by
  cases xs with
  | nil => simp [splitOn]
  | cons x rest =>
    unfold splitOn
    split
    · simp
    · split <;> simp

/-- Cut before the first element satisfying `stop`. -/
def cutBefore {α : Type} (stop : α → Bool) (xs : List α) : List α × List α :=
  (xs.takeWhile (fun x => !stop x), xs.dropWhile (fun x => !stop x))

/-- Cut at the last element satisfying `stop`, which belongs to neither part. -/
def cutAtLast? {α : Type} (stop : α → Bool) : List α → Option (List α × List α)
  | [] => none
  | x :: rest =>
    match cutAtLast? stop rest with
    | some (front, back) => some (x :: front, back)
    | none => if stop x then some ([], rest) else none

/-- Put `separator` between neighbouring pieces. -/
def joinWith {α : Type} (separator : List α) : List (List α) → List α
  | [] => []
  | [piece] => piece
  | piece :: rest => piece ++ separator ++ joinWith separator rest

end PanelBoard.Text
