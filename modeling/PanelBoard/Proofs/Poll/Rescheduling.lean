import Mathlib.Algebra.Order.Group.Multiset
import Mathlib.Data.Multiset.Filter
import Mathlib.Tactic.Abel
import PanelBoard.Proofs.Poll.Course

/-!
# Rescheduling

No cycle is lost and none is made twice. The GETs of a loop and its timers
together are its starts from outside and one due time for every completion that
its GETs reported; the due times that have come are GETs, the others timers.
-/

namespace PanelBoard.Poll

/-- What the account says of one GET: when it was issued and when it completed. -/
def Get.times (get : Get) : Nat × List Nat :=
  (get.issuedAt, get.completedAt)

namespace Loop

/-- When the GETs of a loop were issued. -/
def issueTimes (loop : Loop) : List Nat :=
  loop.gets.map Get.issuedAt

/-- When completions that the GETs of a loop reported were handled. -/
def completionTimes (loop : Loop) : List Nat :=
  loop.gets.flatMap Get.completedAt

/-- One refresh interval after every completion. -/
def dueTimes (loop : Loop) : List Nat :=
  loop.completionTimes.map (· + loop.request.refresh)

end Loop

/-- Completions noted on one GET are completions of the loop. -/
theorem completions_modify {gets : List Get} {request : Nat} {get : Get}
    (present : gets[request]? = some get) (instant count : Nat) :
    (((gets.modify request (Get.completeAll instant count)).flatMap Get.completedAt : List Nat) :
        Multiset Nat) =
      (gets.flatMap Get.completedAt : List Nat) + Multiset.replicate count instant := by
  induction gets generalizing request with
  | nil => simp at present
  | cons first rest ih =>
      cases request with
      | zero =>
          simp only [List.modify_zero_cons, List.flatMap_cons, Get.completeAll,
            ← Multiset.coe_add, Multiset.coe_replicate]
          exact add_right_comm ..
      | succ request =>
          have rest_present : rest[request]? = some get := by simpa using present
          simp only [List.modify_succ_cons, List.flatMap_cons, ← Multiset.coe_add,
            ih rest_present, add_assoc]

/-- The account of a loop's GETs and timers. `owed` cycles are to be started at
the present instant. -/
structure Accounts (owed now : Nat) (starts : List Nat) (sends : Nat → List Nat)
    (track : Track) : Prop where
  noted : ∀ request get, track.loop.gets[request]? = some get →
    get.completedAt =
      List.replicate (completionCount (track.loop.transport request)) get.issuedAt ++ sends request
  unsent : ∀ request, track.loop.gets.length ≤ request → sends request = []
  cycles : track.loop.cycles = track.loop.gets.length
  balance : (track.loop.issueTimes : Multiset Nat) + track.pending + Multiset.replicate owed now =
    starts + track.loop.dueTimes
  started : ∀ start ∈ starts, start ≤ now
  issued : ∀ issue ∈ track.loop.issueTimes, issue ≤ now
  later : ∀ due ∈ track.pending, now < due
  ordered : track.loop.issueTimes.Pairwise (· ≤ ·)

namespace Accounts

variable {owed now : Nat} {starts : List Nat} {sends : Nat → List Nat} {track : Track}

/-- A cycle settles one start that is owed. -/
theorem cycle (accounts : Accounts (owed + 1) now starts sends track) :
    Accounts owed now starts sends (track.cycle now) := by
  obtain ⟨noted, unsent, cycles, balance, started, issued, later, ordered⟩ := accounts
  have issues : (track.cycle now).loop.issueTimes = track.loop.issueTimes ++ [now] := by
    simp [Track.cycle, Loop.cycle, Loop.issueTimes, Loop.nextGet]
  have dues : (track.cycle now).loop.dueTimes =
      track.loop.dueTimes ++
        List.replicate track.loop.prompt (now + track.loop.request.refresh) := by
    simp [Track.cycle, Loop.cycle, Loop.dueTimes, Loop.completionTimes, Loop.nextGet]
  constructor
  · intro request get present
    simp only [Track.cycle, Loop.cycle, List.getElem?_append] at present ⊢
    split at present
    · exact noted request get present
    · next beyond =>
        have last : request = track.loop.gets.length := by
          have bound := (List.getElem?_eq_some_iff.mp present).1
          simp only [List.length_singleton] at bound
          omega
        subst last
        simp only [Nat.sub_self, List.getElem?_cons_zero, Option.some.injEq] at present
        rw [← present, unsent _ (Nat.le_refl _), List.append_nil, ← cycles]
        rfl
  · intro request beyond
    refine unsent request (Nat.le_trans ?_ beyond)
    simp [Track.cycle, Loop.cycle]
  · simp [Track.cycle, Loop.cycle, cycles]
  · have regroup : ∀ issues pending prompt rest : Multiset Nat,
        issues + {now} + (pending + prompt) + rest =
          issues + pending + ({now} + rest) + prompt := by
      intros
      abel
    rw [Multiset.replicate_succ, ← Multiset.singleton_add] at balance
    rw [issues, dues]
    simp only [Track.cycle, ← Multiset.coe_add, Multiset.coe_singleton]
    rw [regroup, balance, add_assoc]
  · exact started
  · intro issue member
    rw [issues] at member
    rcases List.mem_append.mp member with old | new
    · exact issued issue old
    · exact Nat.le_of_eq (List.mem_singleton.mp new)
  · intro due member
    rcases List.mem_append.mp member with old | new
    · exact later due old
    · rw [(List.mem_replicate.mp new).2]
      exact Nat.lt_add_of_pos_right track.loop.request.refresh_pos
  · rw [issues]
    refine List.pairwise_append.mpr ⟨ordered, List.pairwise_singleton .., ?_⟩
    intro issue member last new
    rw [List.mem_singleton.mp new]
    exact issued issue member

/-- Cycles settle as many starts as are owed. -/
theorem cycles_settle (accounts : Accounts owed now starts sends track) :
    Accounts 0 now starts sends ((Track.cycle now)^[owed] track) := by
  induction owed generalizing track with
  | zero => exact accounts
  | succ owed ih =>
      rw [Function.iterate_succ_apply]
      exact ih accounts.cycle

/-- A start from outside is owed a cycle. -/
theorem owe (accounts : Accounts owed now starts sends track) :
    Accounts (owed + 1) now (starts ++ [now]) sends track := by
  refine { accounts with balance := ?_, started := ?_ }
  · have regroup : ∀ settled rest : Multiset Nat,
        settled + ({now} + rest) = settled + rest + {now} := by
      intros
      abel
    rw [Multiset.replicate_succ, ← Multiset.singleton_add, regroup, accounts.balance,
      ← Multiset.coe_add, Multiset.coe_singleton, add_right_comm]
  · intro start member
    rcases List.mem_append.mp member with old | new
    · exact accounts.started start old
    · exact Nat.le_of_eq (List.mem_singleton.mp new)

/-- Timers due at the next instant are owed a cycle each. -/
theorem fall_due {instant : Nat} (accounts : Accounts 0 now starts sends track)
    (sooner : now < instant) (first : ∀ due ∈ track.pending, now < due → instant ≤ due) :
    Accounts (track.pending.count instant) instant starts sends
      { track with pending := track.pending.filter (· ≠ instant) } := by
  refine { accounts with balance := ?_, started := ?_, issued := ?_, later := ?_ }
  · have split : ((track.pending.filter (· ≠ instant) : List Nat) : Multiset Nat) +
        Multiset.replicate (track.pending.count instant) instant = track.pending := by
      rw [← Multiset.coe_count, ← Multiset.filter_eq', ← Multiset.filter_coe, add_comm]
      exact Multiset.filter_add_not (· = instant) _
    rw [add_assoc, split]
    simpa using accounts.balance
  · exact fun start member => Nat.le_trans (accounts.started start member) (Nat.le_of_lt sooner)
  · exact fun issue member => Nat.le_trans (accounts.issued issue member) (Nat.le_of_lt sooner)
  · intro due member
    obtain ⟨waiting, apart⟩ := List.mem_filter.mp member
    have bound := first due waiting (accounts.later due waiting)
    have different : due ≠ instant := by simpa using apart
    omega

/-- Completions delivered on a GET set as many timers. -/
theorem deliver (accounts : Accounts 0 now starts sends track) {request : Nat} {get : Get}
    (present : track.loop.gets[request]? = some get) (changes : List Response) :
    Accounts 0 now starts
      (fun other => sends other ++
        if request = other then List.replicate (completionCount changes) now else [])
      (track.deliver now request changes) := by
  obtain ⟨noted, unsent, cycles, balance, started, issued, later, ordered⟩ := accounts
  have issues : (track.deliver now request changes).loop.issueTimes = track.loop.issueTimes :=
    map_modify_unseen fun _ => rfl
  have dues : ((track.deliver now request changes).loop.dueTimes : Multiset Nat) =
      track.loop.dueTimes +
        Multiset.replicate (completionCount changes) (now + track.loop.request.refresh) := by
    have completions := completions_modify present now (completionCount changes)
    have mapped := congrArg (Multiset.map (· + track.loop.request.refresh)) completions
    simpa [Loop.dueTimes, Loop.completionTimes, Track.deliver, Loop.deliver] using mapped
  constructor
  · intro other after found
    simp only [Track.deliver, Loop.deliver, List.getElem?_modify] at found ⊢
    obtain ⟨before, earlier, rfl⟩ := Option.map_eq_some_iff.mp found
    by_cases same : request = other
    · subst same
      simp [Get.completeAll, noted request before earlier]
    · simpa [same] using noted other before earlier
  · intro other beyond
    have few : track.loop.gets.length ≤ other := by
      simpa [Track.deliver, Loop.deliver] using beyond
    have apart : request ≠ other := by
      have within := (List.getElem?_eq_some_iff.mp present).1
      omega
    simp [unsent other few, apart]
  · simpa [Track.deliver, Loop.deliver] using cycles
  · rw [issues, dues, ← add_assoc, ← balance]
    simp only [Track.deliver, ← Multiset.coe_add, Multiset.coe_replicate,
      Multiset.replicate_zero, add_zero, add_assoc]
  · exact started
  · rw [issues]
    exact issued
  · intro due member
    rcases List.mem_append.mp member with old | new
    · exact later due old
    · rw [(List.mem_replicate.mp new).2]
      exact Nat.lt_add_of_pos_right track.loop.request.refresh_pos
  · rw [issues]
    exact ordered

/-- A change of the channels or the streak is no matter of the account. -/
theorem of_same (accounts : Accounts owed now starts sends track) {next : Track}
    (gets : next.loop.gets.map Get.times = track.loop.gets.map Get.times)
    (transport : next.loop.transport = track.loop.transport)
    (request : next.loop.request = track.loop.request)
    (cycles : next.loop.cycles = track.loop.cycles) (pending : next.pending = track.pending) :
    Accounts owed now starts sends next := by
  have length : next.loop.gets.length = track.loop.gets.length := by
    simpa using congrArg List.length gets
  have issues : next.loop.issueTimes = track.loop.issueTimes := by
    have firsts := congrArg (List.map Prod.fst) gets
    rwa [List.map_map, List.map_map] at firsts
  have dues : next.loop.dueTimes = track.loop.dueTimes := by
    have completions := congrArg (List.flatMap Prod.snd) gets
    rw [List.flatMap_map, List.flatMap_map] at completions
    exact congrArg₂ (fun times interval => times.map (· + interval)) completions
      (congrArg Request.refresh request)
  constructor
  · intro other get present
    have alike : (track.loop.gets.map Get.times)[other]? = some get.times := by
      rw [← gets, List.getElem?_map, present, Option.map_some]
    rw [List.getElem?_map] at alike
    obtain ⟨before, earlier, same⟩ := Option.map_eq_some_iff.mp alike
    have issuedAt : before.issuedAt = get.issuedAt := congrArg Prod.fst same
    have completedAt : before.completedAt = get.completedAt := congrArg Prod.snd same
    rw [← completedAt, ← issuedAt, transport]
    exact accounts.noted other before earlier
  · intro other beyond
    exact accounts.unsent other (length ▸ beyond)
  · rw [cycles, length, accounts.cycles]
  · rw [issues, dues, pending, accounts.balance]
  · exact accounts.started
  · rw [issues]
    exact accounts.issued
  · rw [pending]
    exact accounts.later
  · rw [issues]
    exact accounts.ordered

/-- The account holds as soon as a loop has started. -/
theorem begins (now : Nat) (request : Request) (transport : Transport) :
    Accounts 0 now [now] (fun _ => []) (Track.cycle now ⟨{ request, transport }, []⟩) := by
  have blank : Accounts 0 now [] (fun _ => []) ⟨{ request, transport }, []⟩ := by
    constructor <;> simp [Loop.issueTimes, Loop.dueTimes, Loop.completionTimes]
  exact blank.owe.cycle

/-- Whatever happens to a loop keeps its account. -/
theorem kept : Board.Kept (Accounts 0) where
  hears change accounts := accounts.of_same rfl rfl rfl rfl rfl
  closes request accounts := by
    refine accounts.of_same ?_ rfl rfl rfl rfl
    exact map_modify_unseen fun _ => rfl
  delivers changes present _ accounts := accounts.deliver present changes
  restarts accounts := accounts.owe.cycle
  fires sooner first accounts := (accounts.fall_due sooner first).cycles_settle
  waits ordered quiet accounts := { accounts with
    started := fun start member => Nat.le_trans (accounts.started start member) ordered
    issued := fun issue member => Nat.le_trans (accounts.issued issue member) ordered
    later := fun due member => quiet due member (accounts.later due member)
    balance := by simpa using accounts.balance }

/-- Due times that have come are GETs, next to the starts from outside. -/
theorem came (accounts : Accounts 0 now starts sends track) :
    (track.loop.issueTimes : Multiset Nat) =
      starts + (track.loop.dueTimes : Multiset Nat).filter (· ≤ now) := by
  have issued : (track.loop.issueTimes : Multiset Nat).filter (· ≤ now) = track.loop.issueTimes :=
    Multiset.filter_eq_self.mpr accounts.issued
  have waiting : (track.pending : Multiset Nat).filter (· ≤ now) = 0 :=
    Multiset.filter_eq_nil.mpr fun due member => Nat.not_le.mpr (accounts.later due member)
  have started : (starts : Multiset Nat).filter (· ≤ now) = starts :=
    Multiset.filter_eq_self.mpr accounts.started
  have balance := congrArg (Multiset.filter (· ≤ now)) accounts.balance
  rwa [Multiset.replicate_zero, add_zero, Multiset.filter_add, Multiset.filter_add, issued,
    waiting, started, add_zero] at balance

/-- Due times that are still to come are the timers. -/
theorem to_come (accounts : Accounts 0 now starts sends track) :
    (track.pending : Multiset Nat) =
      (track.loop.dueTimes : Multiset Nat).filter (now < ·) := by
  have issued : (track.loop.issueTimes : Multiset Nat).filter (now < ·) = 0 :=
    Multiset.filter_eq_nil.mpr fun issue member => Nat.not_lt.mpr (accounts.issued issue member)
  have waiting : (track.pending : Multiset Nat).filter (now < ·) = track.pending :=
    Multiset.filter_eq_self.mpr accounts.later
  have started : (starts : Multiset Nat).filter (now < ·) = 0 :=
    Multiset.filter_eq_nil.mpr fun start member => Nat.not_lt.mpr (accounts.started start member)
  have balance := congrArg (Multiset.filter (now < ·)) accounts.balance
  rwa [Multiset.replicate_zero, add_zero, Multiset.filter_add, Multiset.filter_add, issued,
    waiting, started, zero_add, zero_add] at balance

end Accounts

namespace Board

/-- After any run the GETs of a loop were issued at its starts from outside and
one refresh interval after every completion that one of its GETs reported, at
once or by a later send, as far as that instant has come; its timers are due at
those instants that have not come yet. -/
theorem cycles_accounted {origin : Board} (blank : Blank origin) (steps : List Step)
    {index : Nat} {loop : Loop} (present : (origin.run steps).loops[index]? = some loop) :
    let board := origin.run steps
    let starts : Multiset Nat := startsOf index origin steps
    let completions : Multiset Nat := loop.completionTimes
    let dues := completions.map (· + loop.request.refresh)
    (∀ request get, loop.gets[request]? = some get → get.completedAt =
      List.replicate (completionCount (loop.transport request)) get.issuedAt ++
        sendsOf index origin steps request) ∧
    (loop.issueTimes : Multiset Nat) = starts + dues.filter (· ≤ board.now) ∧
    (board.pending index : Multiset Nat) = dues.filter (board.now < ·) ∧
    loop.issueTimes.Pairwise (· ≤ ·) ∧
    loop.cycles = loop.gets.length := by
  intro board starts completions dues
  have accounts : Accounts 0 board.now (startsOf index origin steps) (sendsOf index origin steps)
      ⟨loop, board.pending index⟩ :=
    Accounts.kept.of_blank Accounts.begins blank present
  have mapped : dues = (loop.dueTimes : List Nat) := Multiset.map_coe ..
  rw [mapped]
  exact ⟨accounts.noted, accounts.came, accounts.to_come, accounts.ordered, accounts.cycles⟩

/-- A run of one loop: two completions on one GET, a restart, a closed channel and
a change that no GET reported. -/
def busyRun : List Step :=
  [.start "" "left" 5 fun request => if request = 0 then [.done 200 ""] else [],
    .advance 5, .send 0 1 [.loading 200, .done 500 "", .done 200 ""], .close 0 1, .restart 0,
    .advance 3, .event 0 (.done 0 ""), .advance 2, .send 0 3 [.done 200 ""]]

/-- Five cycles have come and one is still to come. -/
theorem cycles_accounted_busy :
    ∃ loop, (bare.run busyRun).loops[0]? = some loop ∧
      (loop.issueTimes : Multiset Nat) = {0, 5} + {5, 10, 10} ∧
      ((bare.run busyRun).pending 0 : Multiset Nat) = {15} := by
  have facts : ((bare.run busyRun).loops[0]?).map
      (fun loop => (loop.completionTimes, loop.request.refresh)) =
        some ([0, 5, 5, 10], 5) := by decide +kernel
  obtain ⟨loop, present, same⟩ := Option.map_eq_some_iff.mp facts
  obtain ⟨completions, refresh⟩ := Prod.mk.inj same
  have starts : startsOf 0 bare busyRun = [0, 5] := by decide +kernel
  have now : (bare.run busyRun).now = 10 := by decide +kernel
  obtain ⟨-, came, to_come, -⟩ := cycles_accounted ⟨rfl, rfl⟩ busyRun present
  rw [starts, completions, refresh, now] at came
  rw [completions, refresh, now] at to_come
  exact ⟨loop, present, came.trans (by decide), to_come.trans (by decide)⟩

end Board

end PanelBoard.Poll
