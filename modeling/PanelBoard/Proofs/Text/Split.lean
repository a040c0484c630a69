import PanelBoard.Text.Split

/-!
# Where lists are cut

Cutting is splitting at every separator or before the first stop, so it is
known from the parts of a list that are put together around them.
-/

namespace PanelBoard.Text

variable {α : Type}

theorem splitOn_eq_splitOnP (isSeparator : α → Bool) (xs : List α) :
    splitOn isSeparator xs = xs.splitOnP isSeparator := by
  induction xs with
  | nil => rfl
  | cons x rest ih =>
      rw [splitOn, List.splitOnP_cons_eq_if_modifyHead, ih]
      split
      · rfl
      · cases pieces : rest.splitOnP isSeparator with
        | nil => exact absurd pieces (List.splitOnP_ne_nil _ _)
        | cons piece pieces => rfl

/-- A list without separators is one piece. -/
theorem splitOn_of_free {isSeparator : α → Bool} {piece : List α}
    (free : ∀ x ∈ piece, isSeparator x = false) : splitOn isSeparator piece = [piece] := by
  rw [splitOn_eq_splitOnP, List.splitOnP_eq_singleton free]

/-- What stands in front of the first separator is the first piece. -/
theorem splitOn_append_cons {isSeparator : α → Bool} {piece : List α}
    (free : ∀ x ∈ piece, isSeparator x = false) {separator : α}
    (separates : isSeparator separator = true) (rest : List α) :
    splitOn isSeparator (piece ++ separator :: rest) = piece :: splitOn isSeparator rest := by
  rw [splitOn_eq_splitOnP, splitOn_eq_splitOnP,
    List.splitOnP_append_cons_of_forall_mem free separator separates]

/-- Pieces with a separator in front of each are the pieces behind an empty one. -/
theorem splitOn_flatMap {isSeparator : α → Bool} {separator : α}
    (separates : isSeparator separator = true) {pieces : List (List α)}
    (free : ∀ piece ∈ pieces, ∀ x ∈ piece, isSeparator x = false) :
    splitOn isSeparator (pieces.flatMap (separator :: ·)) = [] :: pieces := by
  have behind {pieces : List (List α)} (free : ∀ piece ∈ pieces, ∀ x ∈ piece, isSeparator x = false)
      {piece : List α} (own : ∀ x ∈ piece, isSeparator x = false) :
      splitOn isSeparator (piece ++ pieces.flatMap (separator :: ·)) = piece :: pieces := by
    induction pieces generalizing piece with
    | nil => rw [List.flatMap_nil, List.append_nil, splitOn_of_free own]
    | cons second rest ih =>
        have parts := List.forall_mem_cons.mp free
        rw [List.flatMap_cons, List.cons_append, splitOn_append_cons own separates,
          ih parts.2 parts.1]
  have none : ∀ x ∈ ([] : List α), isSeparator x = false := nofun
  exact behind free none

/-- No piece holds a separator, and what it holds stands in the list in the same order. -/
theorem forall_mem_splitOn (isSeparator : α → Bool) (xs : List α) :
    ∀ piece ∈ splitOn isSeparator xs, piece.Sublist xs ∧ ∀ x ∈ piece, isSeparator x = false := by
  induction xs with
  | nil =>
      intro piece listed
      rw [splitOn, List.mem_singleton] at listed
      rw [listed]
      exact ⟨List.Sublist.refl _, List.forall_mem_nil _⟩
  | cons first rest ih =>
      intro piece listed
      rw [splitOn] at listed
      split at listed
      next =>
        rcases List.mem_cons.mp listed with rfl | later
        · exact ⟨List.nil_sublist _, List.forall_mem_nil _⟩
        · exact ⟨(ih piece later).1.cons _, (ih piece later).2⟩
      next plain =>
        split at listed
        next none => exact absurd none (splitOn_ne_nil _ _)
        next front others pieces =>
          rw [pieces] at ih
          obtain ⟨own, known⟩ := List.forall_mem_cons.mp ih
          rcases List.mem_cons.mp listed with rfl | later
          · refine ⟨own.1.cons_cons _, List.forall_mem_cons.mpr ⟨?_, own.2⟩⟩
            simpa using plain
          · exact ⟨(known piece later).1.cons _, (known piece later).2⟩

/-- What stands in a list of pieces put together is of the separator or of a piece. -/
theorem mem_of_mem_joinWith {separator : List α} {pieces : List (List α)} {x : α}
    (member : x ∈ joinWith separator pieces) :
    x ∈ separator ∨ ∃ piece ∈ pieces, x ∈ piece := by
  induction pieces with
  | nil => cases member
  | cons piece rest ih =>
      cases rest with
      | nil => exact .inr ⟨piece, List.mem_cons_self, member⟩
      | cons second rest =>
          change x ∈ piece ++ separator ++ joinWith separator (second :: rest) at member
          rcases List.mem_append.mp member with front | later
          · rcases List.mem_append.mp front with own | mark
            · exact .inr ⟨piece, List.mem_cons_self, own⟩
            · exact .inl mark
          · rcases ih later with mark | ⟨other, listed, own⟩
            · exact .inl mark
            · exact .inr ⟨other, List.mem_cons_of_mem _ listed, own⟩

/-- A list is cut before its first stop. -/
theorem cutBefore_append {stop : α → Bool} {front rest : List α}
    (free : ∀ x ∈ front, stop x = false) (stops : ∀ x ∈ rest.head?, stop x = true) :
    cutBefore stop (front ++ rest) = (front, rest) := by
  have kept : ∀ x ∈ front, (!stop x) = true := by
    intro x member
    rw [free x member, Bool.not_false]
  rw [cutBefore, List.takeWhile_append_of_pos kept, List.dropWhile_append_of_pos kept]
  cases rest with
  | nil => rw [List.takeWhile_nil, List.append_nil, List.dropWhile_nil]
  | cons x rest => simp [stops x rfl]

/-- A list without stops is not cut. -/
theorem cutBefore_of_free {stop : α → Bool} {front : List α}
    (free : ∀ x ∈ front, stop x = false) : cutBefore stop front = (front, []) := by
  have none : ∀ x ∈ ([] : List α).head?, stop x = true := nofun
  simpa using cutBefore_append free none

/-- Both parts of a cut, and that no stop is in front of it. -/
theorem eq_append_of_cutBefore {stop : α → Bool} {xs front rest : List α}
    (cut : cutBefore stop xs = (front, rest)) :
    xs = front ++ rest ∧ (∀ x ∈ front, stop x = false) ∧ ∀ x ∈ rest.head?, stop x = true := by
  cases cut
  refine ⟨List.takeWhile_append_dropWhile.symm, ?_, ?_⟩
  · intro x member
    simpa using List.all_eq_true.mp List.all_takeWhile x member
  · intro x first
    have kept := List.head?_dropWhile_not (fun x => !stop x) xs
    rw [Option.mem_def.mp first] at kept
    simpa using kept

/-- A list is cut at an element that satisfies the test. -/
theorem eq_append_of_cutAtLast? {stop : α → Bool} {xs front back : List α}
    (cut : cutAtLast? stop xs = some (front, back)) :
    ∃ x, stop x = true ∧ xs = front ++ x :: back := by
  induction xs generalizing front back with
  | nil => cases cut
  | cons first rest ih =>
      rw [cutAtLast?] at cut
      split at cut
      next inner outer later =>
        cases cut
        obtain ⟨x, stops, same⟩ := ih later
        exact ⟨x, stops, by rw [same, List.cons_append]⟩
      next =>
        split at cut
        next stops =>
          cases cut
          exact ⟨first, stops, rfl⟩
        next => cases cut

end PanelBoard.Text
