import Mathlib.Data.List.SplitBy
import PanelBoard.Proofs.Poll.Completions
import PanelBoard.Proofs.Poll.Handling

/-!
# Runs of failures

The completions that a loop handled fall into maximal runs of failures and of
successes. The loop remembers whether the latest of them failed, and of each run
of failures it tolerates one, the first.
-/

namespace PanelBoard.Poll

/-- Do two completions both fail or both succeed? -/
def Response.alike (first second : Response) : Bool :=
  first.isOk == second.isOk

/-- The maximal runs of failures among completions. -/
def failureRuns (completions : List Response) : List (List Response) :=
  (completions.splitBy Response.alike).filter (·.all (!·.isOk))

/-- A further element that belongs to the last segment makes that segment longer. -/
theorem splitBy_concat {α : Type} {related : α → α → Bool} {list : List α} {element : α}
    {segments : List (List α)} {last : List α} (split : list.splitBy related = segments ++ [last])
    (joins : ∀ previous ∈ last.getLast?, related previous element = true) :
    (list ++ [element]).splitBy related = segments ++ [last ++ [element]] := by
  obtain ⟨joined, nonempty, chains, apart⟩ := List.splitBy_eq_iff.mp split
  refine List.splitBy_eq_iff.mpr ⟨by simp [joined], ?_, fun segment member => ?_, ?_⟩
  · simpa using fun empty => nonempty (List.mem_append_left _ empty)
  · rcases List.mem_append.mp member with earlier | final
    · exact chains segment (List.mem_append_left _ earlier)
    · rw [List.mem_singleton.mp final]
      refine List.isChain_append.mpr ⟨chains last (by simp), .singleton _, ?_⟩
      simpa using joins
  · rw [List.isChain_append] at apart ⊢
    refine ⟨apart.1, .singleton _, fun segment member final same => ?_⟩
    obtain rfl : last ++ [element] = final := by simpa using same
    obtain ⟨filled, present, differ⟩ := apart.2.2 segment member last rfl
    exact ⟨filled, by simp, by rwa [List.head_append_of_ne_nil present]⟩

/-- A completion that fares as the one before it belongs to the same run. -/
private theorem length_failureRuns_same {earlier : List Response} {previous latest : Response}
    (same : previous.isOk = latest.isOk) :
    (failureRuns (earlier ++ [previous] ++ [latest])).length =
      (failureRuns (earlier ++ [previous])).length := by
  have filled : (earlier ++ [previous]).splitBy Response.alike ≠ [] :=
    List.splitBy_ne_nil.mpr (by simp)
  obtain ⟨segments, last, split⟩ := (List.eq_nil_or_concat _).resolve_left filled
  rw [List.concat_eq_append] at split
  obtain ⟨joined, unfilled, -⟩ := List.splitBy_eq_iff.mp split
  have nonempty : last ≠ [] := fun empty => unfilled (by simp [empty])
  have final : last.getLast? = some previous := by
    have ends := congrArg List.getLast? joined
    rw [List.getLast?_concat, List.flatten_concat, List.getLast?_append_of_ne_nil _ nonempty]
      at ends
    exact ends.symm
  have longer : (earlier ++ [previous] ++ [latest]).splitBy Response.alike =
      segments ++ [last ++ [latest]] :=
    splitBy_concat split (by simp [final, Response.alike, same])
  -- Whether the last segment fails throughout is already told by its last completion.
  have kept : (last ++ [latest]).all (!·.isOk) = last.all (!·.isOk) := by
    obtain ⟨start, rfl⟩ := List.getLast?_eq_some_iff.mp final
    simp [same]
  simp only [failureRuns, longer, split, List.filter_append, List.length_append,
    List.filter_singleton, kept]
  cases last.all (!·.isOk) <;> rfl

/-- A completion that fares other than the one before it begins a run. -/
private theorem failureRuns_other {earlier : List Response} {latest : Response}
    (other : ∀ previous ∈ earlier.getLast?, previous.isOk ≠ latest.isOk) :
    failureRuns (earlier ++ [latest]) =
      failureRuns earlier ++ if latest.isOk then [] else [[latest]] := by
  have apart : (earlier ++ [latest]).splitBy Response.alike =
      earlier.splitBy Response.alike ++ [[latest]] :=
    List.splitBy_append_cons [] (by simpa [Response.alike] using other)
  rw [failureRuns, apart, List.filter_append, failureRuns]
  cases ok : latest.isOk <;> simp [ok]

/-- A completion begins a run of failures if it fails and the one before it did not. -/
theorem length_failureRuns_concat (completions : List Response) (latest : Response) :
    (failureRuns (completions ++ [latest])).length =
      (failureRuns completions).length +
        if Outcome.following completions.getLast? latest = .toleratedFailure then 1 else 0 := by
  rcases List.eq_nil_or_concat completions with rfl | ⟨earlier, previous, rfl⟩
  · rw [failureRuns_other (by simp)]
    cases ok : latest.isOk <;> simp [Outcome.following, ok]
  · rw [List.concat_eq_append, List.getLast?_concat]
    by_cases same : previous.isOk = latest.isOk
    · rw [length_failureRuns_same same]
      cases ok : latest.isOk <;> simp [Outcome.following, ok, same]
    · rw [failureRuns_other (by simpa using same)]
      cases ok : latest.isOk <;> simp_all [Outcome.following]

/-! ## What a loop handled -/

/-- The completions that a loop handled, in order. -/
def completionsOf (index : Nat) (handled : List Handled) : List Response :=
  (changesTo index handled).filter Response.isComplete

/-- The outcomes of the changes that a loop handled, in order. -/
def outcomesOf (index : Nat) (handled : List Handled) : List Outcome :=
  (handled.filter (·.loop == index)).filterMap Handled.outcome

section Concat

variable {handled : List Handled} {index other : Nat} {change : Response}
  {outcome : Option Outcome}

theorem completionsOf_concat :
    completionsOf other (handled ++ [⟨index, change, outcome⟩]) =
      completionsOf other handled ++
        if index = other ∧ change.isComplete = true then [change] else [] := by
  rw [completionsOf, changesTo_concat, List.filter_append, completionsOf]
  by_cases same : index = other <;> by_cases complete : change.isComplete = true <;>
    simp [same, complete]

theorem outcomesOf_concat :
    outcomesOf other (handled ++ [⟨index, change, outcome⟩]) =
      outcomesOf other handled ++ if index = other then outcome.toList else [] := by
  by_cases same : index = other <;> cases outcome <;> simp [outcomesOf, same]

end Concat

namespace Board

/-- Every loop remembers whether its latest completion failed, and of each run of
failures it tolerated one. -/
structure Remembers (handled : List Handled) (board : Board) : Prop where
  known : Known handled board
  streaks : ∀ (index : Nat) (loop : Loop), board.loops[index]? = some loop →
    loop.streak = .since (completionsOf index handled).getLast?
  tolerated : ∀ index, (outcomesOf index handled).count .toleratedFailure =
    (failureRuns (completionsOf index handled)).length

/-- A completion is remembered, and is tolerated if it begins a run of failures. -/
theorem Remembers.handle {handled : List Handled} {board : Board} {index : Nat} {loop : Loop}
    (remembers : Remembers handled board) (present : board.loops[index]? = some loop)
    (change : Response) :
    Remembers (handled ++ [⟨index, change, (board.handle index change).1⟩])
      (board.handle index change).2 := by
  obtain ⟨known, streaks, tolerated⟩ := remembers
  have extended := invariant_known.handles change present known
  by_cases complete : change.isComplete = true
  · refine ⟨extended, fun other found there => ?_, fun other => ?_⟩ <;>
      rw [completionsOf_concat]
    · by_cases same : index = other
      · subst same
        rw [handle_loops, List.getElem?_modify_eq, present] at there
        obtain rfl := Option.some.inj there
        rw [if_pos ⟨rfl, complete⟩, List.getLast?_concat]
        exact Streak.after_of_complete _ complete
      · rw [handle_loops, List.getElem?_modify_ne _ _ same] at there
        rw [if_neg fun both => same both.1, List.append_nil]
        exact streaks other found there
    · rw [outcomesOf_concat, handle_outcome_of_complete present complete,
        streaks index loop present, Streak.outcome_since]
      by_cases same : index = other
      · subst same
        simp [complete, tolerated, length_failureRuns_concat, List.count_singleton]
      · simp [same, tolerated]
  · have handled := handle_of_incomplete present (by simpa using complete)
    refine ⟨extended, fun other found there => ?_, fun other => ?_⟩ <;>
      rw [completionsOf_concat, if_neg fun both => complete both.2, List.append_nil]
    · rw [handled] at there
      exact streaks other found there
    · rw [handled, outcomesOf_concat]
      simp [tolerated]

theorem invariant_remembers : Invariant Remembers where
  handles change present remembers := remembers.handle present change
  seats request transport remembers := by
    obtain ⟨known, streaks, tolerated⟩ := remembers
    refine ⟨invariant_known.seats request transport known, fun _ _ present => ?_, tolerated⟩
    rcases seat_loops present with earlier | ⟨rfl, rfl⟩
    · exact streaks _ _ earlier
    · rw [completionsOf, known.changesTo]
      rfl
  rests resembles remembers := by
    obtain ⟨known, streaks, tolerated⟩ := remembers
    refine ⟨invariant_known.rests resembles known, fun _ _ present => ?_, tolerated⟩
    obtain ⟨earlier, there, -, streak⟩ := resembles.present present
    rw [← streak]
    exact streaks _ _ there

end Board

end PanelBoard.Poll
