import Mathlib.Algebra.Order.BigOperators.Group.Finset
import Mathlib.Algebra.Order.BigOperators.Group.List
import PanelBoard.Proofs.Poll.Firing

/-!
# Growth

A loop that is started once, over a transport that reports at once and at most `m`
completions of each GET, issues its GETs in generations: one refresh interval after
the other, and each at most `m` times as large as the one before.
-/

namespace PanelBoard.Poll

open Finset

/-- Whatever completed a GET was reported at once. -/
def Get.IsPrompt (get : Get) : Prop :=
  get.completedAt = List.replicate get.completedAt.length get.issuedAt

/-- GETs that complete at an instant were issued then. -/
theorem count_completions {gets : List Get} (prompt : ∀ get ∈ gets, get.IsPrompt) (instant : Nat) :
    (gets.flatMap Get.completedAt).count instant =
      ((gets.filter (·.issuedAt == instant)).map (·.completedAt.length)).sum := by
  induction gets with
  | nil => rfl
  | cons get gets ih =>
      obtain ⟨reported, others⟩ := List.forall_mem_cons.mp prompt
      rw [List.flatMap_cons, List.count_append, ih others, reported, List.count_replicate,
        List.filter_cons]
      split <;> simp

theorem count_issues (gets : List Get) (instant : Nat) :
    (gets.map Get.issuedAt).count instant = (gets.filter (·.issuedAt == instant)).length := by
  rw [List.count, List.countP_map, List.countP_eq_length_filter]
  rfl

/-- A loop whose GETs were started once from outside and complete at once if ever, next to
the account of it. -/
structure Lone (now begun : Nat) (loop : Loop) : Prop where
  prompt : ∀ get ∈ loop.gets, get.IsPrompt
  came : (loop.issueTimes : Multiset Nat) =
    {begun} + (loop.dueTimes : Multiset Nat).filter (· ≤ now)

namespace Lone

variable {now begun : Nat} {loop : Loop} {most : Nat}

theorem count_issueTimes (lone : Lone now begun loop) (instant : Nat) :
    loop.issueTimes.count instant = (if instant = begun then 1 else 0) +
      if instant ≤ now then loop.dueTimes.count instant else 0 := by
  have counted := congrArg (Multiset.count instant) lone.came
  rwa [Multiset.count_add, Multiset.count_singleton, Multiset.count_filter, Multiset.coe_count,
    Multiset.coe_count] at counted

/-- What completes was issued at that instant. -/
theorem issued_of_completed (lone : Lone now begun loop) {instant : Nat}
    (completed : instant ∈ loop.completionTimes) : instant ∈ loop.issueTimes := by
  obtain ⟨get, member, among⟩ := List.mem_flatMap.mp completed
  rw [lone.prompt get member] at among
  rw [(List.mem_replicate.mp among).2]
  exact List.mem_map_of_mem member

/-- GETs are issued a whole number of refresh intervals after the start. -/
theorem exists_generation (lone : Lone now begun loop) {issue : Nat}
    (issued : issue ∈ loop.issueTimes) :
    ∃ generation, issue = begun + generation * loop.request.refresh := by
  induction issue using Nat.strongRecOn with
  | ind issue ih =>
      have came : issue ∈ ({begun} : Multiset Nat) +
          (loop.dueTimes : Multiset Nat).filter (· ≤ now) := lone.came ▸ issued
      obtain first | due := Multiset.mem_add.mp came
      · exact ⟨0, by simpa using first⟩
      · obtain ⟨earlier, completed, rfl⟩ := List.mem_map.mp (Multiset.mem_filter.mp due).1
        have sooner := Nat.lt_add_of_pos_right (n := earlier) loop.request.refresh_pos
        obtain ⟨generation, rfl⟩ := ih earlier sooner (lone.issued_of_completed completed)
        exact ⟨generation + 1, by rw [Nat.succ_mul, Nat.add_assoc]⟩

/-- Later than the start only completions issue GETs, one refresh interval before. -/
theorem count_generation_succ (lone : Lone now begun loop) (generation : Nat) :
    loop.issueTimes.count (begun + (generation + 1) * loop.request.refresh) =
      if begun + (generation + 1) * loop.request.refresh ≤ now then
        loop.completionTimes.count (begun + generation * loop.request.refresh)
      else 0 := by
  have positive := loop.request.refresh_pos
  have next : begun + (generation + 1) * loop.request.refresh =
      begun + generation * loop.request.refresh + loop.request.refresh := by
    rw [Nat.succ_mul, Nat.add_assoc]
  have shifted : loop.dueTimes.count
      (begun + generation * loop.request.refresh + loop.request.refresh) =
        loop.completionTimes.count (begun + generation * loop.request.refresh) :=
    List.count_map_of_injective _ (· + loop.request.refresh) (add_left_injective _) _
  rw [lone.count_issueTimes, next, shifted, if_neg (by omega), Nat.zero_add]

/-- At the start one GET is issued. -/
theorem count_begun (lone : Lone now begun loop) : loop.issueTimes.count begun = 1 := by
  have none : loop.dueTimes.count begun = 0 := by
    rw [List.count_eq_zero]
    intro due
    obtain ⟨earlier, completed, same⟩ := List.mem_map.mp due
    obtain ⟨generation, rfl⟩ := lone.exists_generation (lone.issued_of_completed completed)
    have positive := loop.request.refresh_pos
    omega
  rw [lone.count_issueTimes, none]
  simp

theorem count_completionTimes_le (lone : Lone now begun loop)
    (few : ∀ get ∈ loop.gets, get.completedAt.length ≤ most) (instant : Nat) :
    loop.completionTimes.count instant ≤ loop.issueTimes.count instant * most := by
  rw [Loop.completionTimes, Loop.issueTimes, count_completions lone.prompt, count_issues]
  refine (List.sum_le_card_nsmul _ most ?_).trans_eq (by simp)
  intro count member
  obtain ⟨get, among, rfl⟩ := List.mem_map.mp member
  exact few get (List.mem_filter.mp among).1

theorem count_completionTimes_eq (lone : Lone now begun loop)
    (each : ∀ get ∈ loop.gets, get.completedAt.length = most) (instant : Nat) :
    loop.completionTimes.count instant = loop.issueTimes.count instant * most := by
  rw [Loop.completionTimes, Loop.issueTimes, count_completions lone.prompt, count_issues]
  refine (List.sum_eq_card_nsmul _ most ?_).trans (by simp)
  intro count member
  obtain ⟨get, among, rfl⟩ := List.mem_map.mp member
  exact each get (List.mem_filter.mp among).1

/-- A generation is at most so many times as large as the one before. -/
theorem count_generation_le (lone : Lone now begun loop)
    (few : ∀ get ∈ loop.gets, get.completedAt.length ≤ most) (generation : Nat) :
    loop.issueTimes.count (begun + generation * loop.request.refresh) ≤ most ^ generation := by
  induction generation with
  | zero => simp [lone.count_begun]
  | succ generation ih =>
      rw [lone.count_generation_succ, Nat.pow_succ]
      split
      · exact (lone.count_completionTimes_le few _).trans (Nat.mul_le_mul_right most ih)
      · exact Nat.zero_le _

/-- A generation that has come is just so many times as large as the one before. -/
theorem count_generation_eq (lone : Lone now begun loop)
    (each : ∀ get ∈ loop.gets, get.completedAt.length = most) {generation : Nat}
    (come : begun + generation * loop.request.refresh ≤ now) :
    loop.issueTimes.count (begun + generation * loop.request.refresh) = most ^ generation := by
  induction generation with
  | zero => simp [lone.count_begun]
  | succ generation ih =>
      have earlier : begun + generation * loop.request.refresh ≤ now := by
        rw [Nat.succ_mul] at come
        omega
      rw [lone.count_generation_succ, if_pos come, lone.count_completionTimes_eq each,
        ih earlier, Nat.pow_succ]

/-- All GETs up to an instant are those of the generations up to it. -/
theorem countP_issueTimes (lone : Lone now begun loop) (elapsed : Nat) :
    loop.issueTimes.countP (· ≤ begun + elapsed) =
      ∑ generation ∈ range (elapsed / loop.request.refresh + 1),
        loop.issueTimes.count (begun + generation * loop.request.refresh) := by
  have positive := loop.request.refresh_pos
  let generations := range (elapsed / loop.request.refresh + 1)
  let early : Multiset Nat := (loop.issueTimes : Multiset Nat).filter (· ≤ begun + elapsed)
  have within : ∀ issue ∈ early,
      issue ∈ generations.image fun generation => begun + generation * loop.request.refresh := by
    intro issue member
    obtain ⟨issued, soon⟩ := Multiset.mem_filter.mp member
    obtain ⟨generation, rfl⟩ := lone.exists_generation issued
    refine mem_image.mpr ⟨generation, mem_range.mpr (Nat.lt_succ_of_le ?_), rfl⟩
    rw [Nat.le_div_iff_mul_le positive]
    omega
  have apart : Set.InjOn (fun generation => begun + generation * loop.request.refresh)
      generations := by
    intro first _ second _ same
    exact Nat.eq_of_mul_eq_mul_right positive (Nat.add_left_cancel same)
  calc loop.issueTimes.countP (· ≤ begun + elapsed)
      = early.card := by
        rw [← Multiset.countP_eq_card_filter, Multiset.coe_countP]
    _ = ∑ generation ∈ generations,
          early.count (begun + generation * loop.request.refresh) := by
        rw [← Multiset.sum_count_eq_card within, sum_image apart]
    _ = _ := by
        refine sum_congr rfl fun generation member => ?_
        have soon : begun + generation * loop.request.refresh ≤ begun + elapsed := by
          have bound := Nat.le_of_lt_succ (mem_range.mp member)
          rw [Nat.le_div_iff_mul_le positive] at bound
          omega
        rw [Multiset.count_filter, if_pos soon, Multiset.coe_count]

end Lone

/-- By its account a loop is lone if it was started once and nothing was sent on its GETs. -/
theorem Accounts.lone {now begun : Nat} {sends : Nat → List Nat} {track : Track}
    (accounts : Accounts 0 now [begun] sends track) (unsent : ∀ request, sends request = []) :
    Lone now begun track.loop where
  prompt get member := by
    obtain ⟨request, present⟩ := List.mem_iff_getElem?.mp member
    have noted := accounts.noted request get present
    rw [unsent, List.append_nil] at noted
    rw [Get.IsPrompt, noted, List.length_replicate]
  came := accounts.came

/-- What a prompt GET completes with is what its transport reports. -/
theorem Accounts.forall_completed {now : Nat} {starts : List Nat} {sends : Nat → List Nat}
    {track : Track} (accounts : Accounts 0 now starts sends track)
    (unsent : ∀ request, sends request = []) (property : Nat → Prop)
    (reported : ∀ request < track.loop.gets.length,
      property (completionCount (track.loop.transport request))) :
    ∀ get ∈ track.loop.gets, property get.completedAt.length := by
  intro get member
  obtain ⟨request, present⟩ := List.mem_iff_getElem?.mp member
  rw [accounts.noted request get present, unsent, List.append_nil, List.length_replicate]
  exact reported request (List.getElem?_eq_some_iff.mp present).1

namespace Board

/-- A loop that is started once, over a transport that reports at most `most` completions
of each GET, at once and then nothing more, issues at most `most ^ generation` GETs
`generation` refresh intervals after its start and none at any other time; if it is just
`most` completions each time, it is just so many GETs as far as time has come. So however
fast timers multiply, to fire them one by one ends before every deadline, and passing time
is to do so. That rests on positive refresh intervals, and others are refused. -/
theorem cycles_grow {origin : Board} (blank : Blank origin) (steps : List Step) {index : Nat}
    {loop : Loop} (present : (origin.run steps).loops[index]? = some loop) {begun : Nat}
    (once : startsOf index origin steps = [begun])
    (unsent : ∀ request, sendsOf index origin steps request = []) {most : Nat}
    (few : ∀ request < loop.gets.length, completionCount (loop.transport request) ≤ most) :
    let board := origin.run steps
    let refresh := loop.request.refresh
    (∀ elapsed, loop.issueTimes.countP (· ≤ begun + elapsed) ≤
      ∑ generation ∈ range (elapsed / refresh + 1), most ^ generation) ∧
    (∀ generation,
      loop.issueTimes.count (begun + generation * refresh) ≤ most ^ generation) ∧
    (∀ issue ∈ loop.issueTimes, ∃ generation, issue = begun + generation * refresh) ∧
    ((∀ request < loop.gets.length, completionCount (loop.transport request) = most) →
      (∀ generation, begun + generation * refresh ≤ board.now →
        loop.issueTimes.count (begun + generation * refresh) = most ^ generation) ∧
      ∀ elapsed, begun + elapsed ≤ board.now → loop.issueTimes.countP (· ≤ begun + elapsed) =
        ∑ generation ∈ range (elapsed / refresh + 1), most ^ generation) ∧
    (∀ deadline, WellFounded fun next board : Board => Fires deadline board next) ∧
    (∀ elapsed, ∃ last, Relation.ReflTransGen (Fires (board.now + elapsed)) board last ∧
      (∀ next, ¬ Fires (board.now + elapsed) last next) ∧
      board.advance elapsed = { last with now := board.now + elapsed }) ∧
    (∀ deadline next, Fires deadline board next →
      (next.pending index : Multiset Nat) = board.pending index ∨
        Countdown refresh deadline (board.pending index) (next.pending index)) ∧
    (∀ interval deadline,
      (WellFounded fun next dues => Countdown interval deadline dues next) ↔ 0 < interval) ∧
    ∀ base reference target,
      Request.create base reference target 0 = .error (.zeroRefresh target) := by
  intro board refresh
  have accounts := Accounts.kept.of_blank Accounts.begins blank present
  rw [once] at accounts
  have lone : Lone board.now begun loop := accounts.lone unsent
  have bounded := lone.count_generation_le (accounts.forall_completed unsent (· ≤ most) few)
  refine ⟨fun elapsed => ?_, bounded, fun issue => lone.exists_generation, fun exactly => ?_,
    wellFounded_fires, advance_fires blank steps, fun deadline next fires =>
      fires.countdown present, wellFounded_countdown_iff, fun _ _ _ => rfl⟩
  · rw [lone.countP_issueTimes]
    exact sum_le_sum fun generation _ => bounded generation
  · have each := accounts.forall_completed unsent (· = most) exactly
    refine ⟨fun generation come => lone.count_generation_eq each come, fun elapsed come => ?_⟩
    rw [lone.countP_issueTimes]
    refine sum_congr rfl fun generation member => lone.count_generation_eq each ?_
    have bound := Nat.le_of_lt_succ (mem_range.mp member)
    rw [Nat.le_div_iff_mul_le loop.request.refresh_pos] at bound
    omega

/-- A run of one loop each of whose GETs completes twice. -/
def doublingRun : List Step :=
  [.start "" "left" 5 fun _ => [.done 200 "a", .opened, .done 200 "a"], .advance 17]

/-- After seventeen milliseconds four generations have come: fifteen GETs. -/
theorem cycles_grow_doubling :
    ∃ loop, (bare.run doublingRun).loops[0]? = some loop ∧
      loop.issueTimes.count 15 = 8 ∧ loop.issueTimes.countP (· ≤ 17) = 15 ∧
      ∃ last, Relation.ReflTransGen (Fires 37) (bare.run doublingRun) last ∧
        (bare.run doublingRun).advance 20 = { last with now := 37 } := by
  have facts : ((bare.run doublingRun).loops[0]?).any (fun loop => loop.request.refresh = 5 ∧
      ∀ request < loop.gets.length, completionCount (loop.transport request) = 2) = true := by
    decide +kernel
  obtain ⟨loop, present, facts⟩ := (Option.any_eq_true ..).mp facts
  obtain ⟨refresh, twice⟩ := of_decide_eq_true facts
  have now : (bare.run doublingRun).now = 17 := by decide +kernel
  have once : startsOf 0 bare doublingRun = [0] := by decide +kernel
  obtain ⟨-, -, -, doubles, -, passes, -⟩ := cycles_grow ⟨rfl, rfl⟩ doublingRun present once
    (fun _ => rfl) fun request sent => Nat.le_of_eq (twice request sent)
  obtain ⟨generations, sums⟩ := doubles twice
  rw [now] at generations sums passes
  rw [refresh] at generations sums
  obtain ⟨last, reached, -, same⟩ := passes 20
  exact ⟨loop, present, generations 3 (by decide), sums 17 (by decide), last, reached, same⟩

end Board

end PanelBoard.Poll
