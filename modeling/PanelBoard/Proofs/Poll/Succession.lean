import PanelBoard.Proofs.Poll.Rescheduling

/-!
# Succession

A loop that is started once, over a transport that completes no GET twice, never
overlaps itself. Its GETs take turns: one GET is outstanding and no timer is
set, or every GET has completed and one timer stands for the next one.
-/

namespace PanelBoard.Poll

/-- GETs that took turns, by their times: each completed once, and the next was
issued one refresh interval later. The turn after the last of them is at `turn`. -/
inductive Relayed (refresh : Nat) : (times : List (Nat × List Nat)) → (turn : Nat) → Prop where
  | start (turn : Nat) : Relayed refresh [] turn
  | pass {times : List (Nat × List Nat)} {turn : Nat} (earlier : Relayed refresh times turn)
      {done : Nat} (ordered : turn ≤ done) :
      Relayed refresh (times ++ [(turn, [done])]) (done + refresh)

namespace Relayed

variable {refresh turn : Nat} {times : List (Nat × List Nat)}

theorem completed (relayed : Relayed refresh times turn) :
    ∀ entry ∈ times, entry.2.length = 1 := by
  induction relayed with
  | start => simp
  | pass _ _ ih =>
      intro entry member
      rcases List.mem_append.mp member with old | new
      · exact ih entry old
      · rw [List.mem_singleton.mp new]
        rfl

/-- The turn after a completed GET comes one refresh interval after its completion. -/
theorem next (relayed : Relayed refresh times turn) {request issued : Nat} {completions : List Nat}
    (present : times[request]? = some (issued, completions)) :
    ∃ done, completions = [done] ∧ issued ≤ done ∧
      (times.map Prod.fst ++ [turn])[request + 1]? = some (done + refresh) := by
  induction relayed with
  | start => simp at present
  | @pass times turn earlier done ordered ih =>
      rw [List.getElem?_append] at present
      split at present
      · next within =>
          obtain ⟨own, completions, bound, following⟩ := ih present
          refine ⟨own, completions, bound, ?_⟩
          rw [List.getElem?_append_left (by simpa using within)]
          simpa using following
      · next beyond =>
          have last : request = times.length := by
            have bound := (List.getElem?_eq_some_iff.mp present).1
            simp only [List.length_singleton] at bound
            omega
          subst last
          simp only [Nat.sub_self, List.getElem?_cons_zero, Option.some.injEq,
            Prod.mk.injEq] at present
          obtain ⟨rfl, rfl⟩ := present
          exact ⟨done, rfl, ordered, by simp⟩

/-- Turns are at least one refresh interval apart. -/
theorem spaced (relayed : Relayed refresh times turn) :
    (times.map Prod.fst ++ [turn]).Pairwise (· + refresh ≤ ·) := by
  induction relayed with
  | start => exact List.pairwise_singleton ..
  | @pass times turn earlier done ordered ih =>
      simp only [List.map_append, List.map_cons, List.map_nil]
      refine List.pairwise_append.mpr ⟨ih, List.pairwise_singleton .., ?_⟩
      intro issued member last new
      rw [List.mem_singleton.mp new]
      have before : issued ≤ turn := by
        rcases List.mem_append.mp member with old | own
        · have apart := (List.pairwise_append.mp ih).2.2 issued old turn (List.mem_singleton_self _)
          omega
        · exact Nat.le_of_eq (List.mem_singleton.mp own)
      omega

end Relayed

/-- The one token of a loop: an outstanding GET, or a timer once every GET has completed. -/
inductive Token (refresh : Nat) :
    (times : List (Nat × List Nat)) → (pending : List Nat) → Prop where
  | outstanding {times : List (Nat × List Nat)} {turn : Nat}
      (earlier : Relayed refresh times turn) : Token refresh (times ++ [(turn, [])]) []
  | resting {times : List (Nat × List Nat)} {turn : Nat} (all : Relayed refresh times turn)
      (issued : times ≠ []) : Token refresh times [turn]

namespace Token

variable {refresh : Nat} {times : List (Nat × List Nat)} {pending : List Nat}

/-- The GET whose turn it is holds the token, or passes it on at once. -/
theorem of_turn {turn prompt : Nat} (earlier : Relayed refresh times turn) (once : prompt ≤ 1) :
    Token refresh (times ++ [(turn, List.replicate prompt turn)])
      (List.replicate prompt (turn + refresh)) := by
  obtain rfl | rfl : prompt = 0 ∨ prompt = 1 := by omega
  · exact .outstanding earlier
  · exact .resting (earlier.pass (Nat.le_refl turn)) (by simp)

/-- The completion of an outstanding GET passes the token to a timer. -/
theorem complete (token : Token refresh times pending) {request issued now : Nat}
    (present : times[request]? = some (issued, [])) (past : ∀ entry ∈ times, entry.1 ≤ now) :
    Token refresh (times.modify request fun entry => (entry.1, entry.2 ++ [now]))
      (pending ++ [now + refresh]) := by
  cases token with
  | resting all _ =>
      have completed := all.completed _ (List.mem_of_getElem? present)
      cases completed
  | @outstanding times turn earlier =>
      have last : request = times.length := by
        rw [List.getElem?_append] at present
        split at present
        · have completed := earlier.completed _ (List.mem_of_getElem? present)
          cases completed
        · have bound := (List.getElem?_eq_some_iff.mp present).1
          simp only [List.length_singleton] at bound
          omega
      rw [last, modify_concat]
      exact .resting (earlier.pass (past (turn, []) (by simp))) (by simp)

/-- Exactly one of the two holds. -/
theorem exclusive (token : Token refresh times pending) :
    Xor (times.countP (·.2.isEmpty) = 1 ∧ pending = [])
      ((∀ entry ∈ times, entry.2 ≠ []) ∧ pending.length = 1) := by
  cases token with
  | @outstanding times turn earlier =>
      have none : times.countP (·.2.isEmpty) = 0 := by
        rw [List.countP_eq_zero]
        intro entry member
        rw [List.isEmpty_iff_length_eq_zero, earlier.completed entry member]
        exact Nat.one_ne_zero
      refine .inl ⟨⟨?_, rfl⟩, fun other => Nat.zero_ne_one other.2⟩
      rw [List.countP_append, none]
      rfl
  | resting all _ =>
      refine .inr ⟨⟨?_, rfl⟩, fun other => List.cons_ne_nil _ _ other.2⟩
      intro entry member empty
      have one := all.completed entry member
      rw [empty] at one
      exact Nat.zero_ne_one one

/-- The turn of a GET comes one refresh interval after the completion of the one before. -/
theorem next (token : Token refresh times pending) {request : Nat} {first second : Nat × List Nat}
    (present : times[request]? = some first) (following : times[request + 1]? = some second) :
    ∃ done, first.2 = [done] ∧ first.1 ≤ done ∧ second.1 = done + refresh := by
  have issued : (times.map Prod.fst)[request + 1]? = some second.1 := by
    rw [List.getElem?_map, following, Option.map_some]
  cases token with
  | @outstanding times turn earlier =>
      have within : request < times.length := by
        have bound := (List.getElem?_eq_some_iff.mp following).1
        simp only [List.length_append, List.length_singleton] at bound
        omega
      rw [List.getElem?_append_left within] at present
      obtain ⟨done, completions, ordered, turn⟩ := earlier.next present
      rw [List.map_append, List.map_singleton] at issued
      exact ⟨done, completions, ordered, Option.some.inj (issued.symm.trans turn)⟩
  | resting all _ =>
      obtain ⟨done, completions, ordered, turn⟩ := all.next present
      rw [List.getElem?_append_left (List.getElem?_eq_some_iff.mp issued).1] at turn
      exact ⟨done, completions, ordered, Option.some.inj (issued.symm.trans turn)⟩

/-- The turns of GETs are at least one refresh interval apart. -/
theorem spaced (token : Token refresh times pending) :
    (times.map Prod.fst).Pairwise (· + refresh ≤ ·) := by
  cases token with
  | outstanding earlier =>
      rw [List.map_append]
      exact earlier.spaced
  | resting all _ => exact (List.pairwise_append.mp all.spaced).1

/-- A GET that has not completed is the last one. -/
theorem last (token : Token refresh times pending) {request issued : Nat}
    (present : times[request]? = some (issued, [])) : times.length = request + 1 := by
  by_contra more
  have within := (List.getElem?_eq_some_iff.mp present).1
  have following : times[request + 1]? = some times[request + 1] :=
    List.getElem?_eq_getElem (by omega)
  obtain ⟨done, completions, -⟩ := token.next present following
  cases completions

end Token

/-! ## The token along a run -/

namespace Track

/-- When the GETs of a loop were issued and when they completed. -/
def times (track : Track) : List (Nat × List Nat) :=
  track.loop.gets.map Get.times

variable (track : Track) (now request : Nat)

theorem times_of_present {track : Track} {request : Nat} {get : Get}
    (present : track.loop.gets[request]? = some get) :
    track.times[request]? = some (get.issuedAt, get.completedAt) := by
  rw [times, List.getElem?_map, present]
  rfl

theorem times_close : (track.close request).times = track.times :=
  map_modify_unseen fun _ => rfl

theorem times_deliver (changes : List Response) :
    (track.deliver now request changes).times = track.times.modify request fun entry =>
      (entry.1, entry.2 ++ List.replicate (completionCount changes) now) :=
  map_modify fun _ => rfl

theorem times_cycle :
    (track.cycle now).times = track.times ++ [(now, List.replicate track.loop.prompt now)] :=
  List.map_append

/-- A delivery takes no completion back. -/
theorem times_deliver_grows {changes : List Response} {entry : Nat × List Nat}
    (member : entry ∈ track.times) :
    ∃ later ∈ (track.deliver now request changes).times, entry.2.length ≤ later.2.length := by
  obtain ⟨other, present⟩ := List.mem_iff_getElem?.mp member
  rw [times_deliver]
  by_cases same : request = other
  · subst same
    refine ⟨(entry.1, entry.2 ++ List.replicate (completionCount changes) now), ?_, by simp⟩
    refine List.mem_of_getElem? (i := request) ?_
    rw [List.getElem?_modify_eq, present]
    rfl
  · refine ⟨entry, List.mem_of_getElem? (i := other) ?_, Nat.le_refl _⟩
    rw [List.getElem?_modify_ne _ _ same, present]

/-- Cycles keep the GETs that are there. -/
theorem mem_times_cycles {track : Track} {entry : Nat × List Nat} (count : Nat)
    (member : entry ∈ track.times) : entry ∈ ((Track.cycle now)^[count] track).times := by
  induction count with
  | zero => exact member
  | succ count ih =>
      rw [Function.iterate_succ_apply', times_cycle]
      exact List.mem_append_left _ ih

end Track

/-- Started once from outside, and no GET completed twice. -/
structure Alone (starts : List Nat) (track : Track) : Prop where
  starts : starts.length ≤ 1
  completions : ∀ entry ∈ track.times, entry.2.length ≤ 1

/-- A loop that is alone was alone before. -/
theorem Alone.before {starts : List Nat} {track next : Track} (alone : Alone starts next)
    (grows : ∀ entry ∈ track.times, ∃ later ∈ next.times, entry.2.length ≤ later.2.length) :
    Alone starts track where
  starts := alone.starts
  completions entry member := by
    obtain ⟨later, found, bound⟩ := grows entry member
    exact Nat.le_trans bound (alone.completions later found)

/-- By its account a loop is alone if it was started once and if what was reported
of each GET completes it at most once. -/
theorem Accounts.alone {now : Nat} {starts : List Nat} {sends : Nat → List Nat} {track : Track}
    (accounts : Accounts 0 now starts sends track) (once : starts.length ≤ 1)
    (single : ∀ request < track.loop.gets.length,
      completionCount (track.loop.transport request) + (sends request).length ≤ 1) :
    Alone starts track := by
  refine ⟨once, fun entry member => ?_⟩
  obtain ⟨request, found⟩ := List.mem_iff_getElem?.mp member
  rw [Track.times, List.getElem?_map] at found
  obtain ⟨get, own, rfl⟩ := Option.map_eq_some_iff.mp found
  rw [Get.times, accounts.noted request get own, List.length_append, List.length_replicate]
  exact single request (List.getElem?_eq_some_iff.mp own).1

/-- The next cycle of a loop that is alone holds the token or passes it on at once. -/
theorem Token.cycle {starts : List Nat} {track : Track} {turn : Nat}
    (relayed : Relayed track.loop.request.refresh track.times turn) (spent : track.pending = [])
    (alone : Alone starts (track.cycle turn)) :
    Token track.loop.request.refresh (track.cycle turn).times (track.cycle turn).pending := by
  have times := track.times_cycle turn
  have once := alone.completions (turn, List.replicate track.loop.prompt turn) (by simp [times])
  rw [List.length_replicate] at once
  have pending : (track.cycle turn).pending =
      List.replicate track.loop.prompt (turn + track.loop.request.refresh) := by
    rw [Track.cycle, spent, List.nil_append]
  rw [times, pending]
  exact .of_turn relayed once

/-- The account of a loop, and its token if it is alone. -/
structure Succeeds (now : Nat) (starts : List Nat) (sends : Nat → List Nat) (track : Track) :
    Prop where
  accounts : Accounts 0 now starts sends track
  begun : 0 < starts.length
  token : Alone starts track → Token track.loop.request.refresh track.times track.pending

namespace Succeeds

variable {now : Nat} {starts : List Nat} {sends : Nat → List Nat} {track : Track}

theorem begins (now : Nat) (request : Request) (transport : Transport) :
    Succeeds now [now] (fun _ => []) (Track.cycle now ⟨{ request, transport }, []⟩) where
  accounts := .begins now request transport
  begun := Nat.one_pos
  token := Token.cycle (.start now) rfl

/-- A delivery passes the token on if it completes its GET, and leaves it otherwise. -/
theorem token_deliver (succeeds : Succeeds now starts sends track) {request : Nat} {get : Get}
    (present : track.loop.gets[request]? = some get) (changes : List Response)
    (alone : Alone starts (track.deliver now request changes)) :
    Token track.loop.request.refresh (track.deliver now request changes).times
      (track.deliver now request changes).pending := by
  have token := succeeds.token (alone.before fun _ => track.times_deliver_grows now request)
  have found := Track.times_of_present present
  have past : ∀ entry ∈ track.times, entry.1 ≤ now := by
    intro entry member
    obtain ⟨own, there, rfl⟩ := List.mem_map.mp member
    exact succeeds.accounts.issued _ (List.mem_map_of_mem there)
  have after : (get.issuedAt, get.completedAt ++ List.replicate (completionCount changes) now) ∈
      (track.deliver now request changes).times := by
    rw [Track.times_deliver]
    refine List.mem_of_getElem? (i := request) ?_
    rw [List.getElem?_modify_eq, found]
    rfl
  have once := alone.completions _ after
  rw [List.length_append, List.length_replicate] at once
  rw [Track.times_deliver, Track.deliver]
  -- More completions than one would complete the GET twice.
  obtain none | one : completionCount changes = 0 ∨ completionCount changes = 1 := by omega
  · have unchanged : (fun entry : Nat × List Nat =>
        (entry.1, entry.2 ++ List.replicate (completionCount changes) now)) = id := by
      funext entry
      simp [none]
    rw [unchanged, List.modify_id, none]
    simpa using token
  · have fresh : get.completedAt = [] := List.eq_nil_of_length_eq_zero (by omega)
    rw [fresh] at found
    simpa [one] using token.complete found past

/-- A timer that falls due starts the GET whose turn it is. -/
theorem token_fire (succeeds : Succeeds now starts sends track) (instant : Nat)
    (alone : Alone starts (track.fire instant)) :
    Token (track.fire instant).loop.request.refresh (track.fire instant).times
      (track.fire instant).pending := by
  have token := succeeds.token (alone.before fun entry member =>
    ⟨entry, Track.mem_times_cycles instant _ member, Nat.le_refl _⟩)
  obtain ⟨loop, pending⟩ := track
  generalize same : Track.times _ = times at token
  cases token with
  | outstanding earlier =>
      have waiting : Track.fire instant ⟨loop, []⟩ = ⟨loop, []⟩ := rfl
      rw [waiting, same]
      exact .outstanding earlier
  | @resting times turn all issued =>
      by_cases due : turn = instant
      · subst due
        have fired : Track.fire turn ⟨loop, [turn]⟩ = Track.cycle turn ⟨loop, []⟩ := by
          simp [Track.fire]
        rw [fired] at alone ⊢
        have relayed : Relayed loop.request.refresh (Track.times ⟨loop, []⟩) turn := same ▸ all
        exact Token.cycle relayed rfl alone
      · have waiting : Track.fire instant ⟨loop, [turn]⟩ = ⟨loop, [turn]⟩ := by
          simp [Track.fire, due]
        rw [waiting, same]
        exact .resting all issued

/-- Whatever happens to a loop keeps its token. -/
theorem kept : Board.Kept Succeeds where
  hears change succeeds :=
    ⟨Accounts.kept.hears change succeeds.accounts, succeeds.begun, fun alone =>
      succeeds.token ⟨alone.starts, alone.completions⟩⟩
  closes request succeeds := by
    refine ⟨Accounts.kept.closes request succeeds.accounts, succeeds.begun, fun alone => ?_⟩
    rw [Track.times_close]
    refine succeeds.token ⟨alone.starts, ?_⟩
    rw [← Track.times_close _ request]
    exact alone.completions
  delivers changes present isOpen succeeds :=
    ⟨Accounts.kept.delivers changes present isOpen succeeds.accounts, succeeds.begun,
      succeeds.token_deliver present changes⟩
  restarts succeeds := by
    refine ⟨Accounts.kept.restarts succeeds.accounts, by simp, fun alone => ?_⟩
    have many := alone.starts
    have begun := succeeds.begun
    rw [List.length_append, List.length_singleton] at many
    omega
  fires sooner first succeeds :=
    ⟨Accounts.kept.fires sooner first succeeds.accounts, succeeds.begun,
      succeeds.token_fire _⟩
  waits ordered quiet succeeds :=
    ⟨Accounts.kept.waits ordered quiet succeeds.accounts, succeeds.begun, succeeds.token⟩

end Succeeds

/-! ## Closed GETs -/

/-- A GET whose channel was closed before it completed. -/
def Track.Abandoned (request : Nat) (track : Track) : Prop :=
  ∃ get, track.loop.gets[request]? = some get ∧ get.isOpen = false ∧ get.completedAt = []

namespace Abandoned

variable {request : Nat} {track : Track}

theorem cycles (abandoned : track.Abandoned request) (instant count : Nat) :
    ((Track.cycle instant)^[count] track).Abandoned request := by
  induction count with
  | zero => exact abandoned
  | succ count ih =>
      rw [Function.iterate_succ_apply']
      obtain ⟨get, present, closed, incomplete⟩ := ih
      refine ⟨get, ?_, closed, incomplete⟩
      exact (List.getElem?_append_left (List.getElem?_eq_some_iff.mp present).1).trans present

/-- A GET closed before it completed never completes. -/
theorem kept (request : Nat) : Board.Kept fun _ _ _ track => track.Abandoned request where
  hears _ abandoned := abandoned
  closes other abandoned := by
    obtain ⟨get, present, closed, incomplete⟩ := abandoned
    by_cases same : other = request
    · subst same
      refine ⟨{ get with isOpen := false }, ?_, rfl, incomplete⟩
      exact (List.getElem?_modify_eq ..).trans (by rw [present]; rfl)
    · refine ⟨get, ?_, closed, incomplete⟩
      exact (List.getElem?_modify_ne _ _ same).trans present
  delivers changes delivered isOpen abandoned := by
    obtain ⟨get, present, closed, incomplete⟩ := abandoned
    refine ⟨get, (List.getElem?_modify_ne _ _ ?_).trans present, closed, incomplete⟩
    rintro rfl
    rw [present] at delivered
    cases delivered
    rw [closed] at isOpen
    cases isOpen
  restarts abandoned := cycles abandoned _ 1
  fires {_ instant _ _ track} _ _ abandoned := by
    have waiting : Track.Abandoned request
        { track with pending := track.pending.filter (· ≠ instant) } := abandoned
    exact cycles waiting _ _
  waits _ _ abandoned := abandoned

/-- A GET that was closed before it completed is still incomplete after any run. -/
theorem run {board : Board} {index : Nat} {get : Get} (tidy : board.Tidy)
    (found : board.get? index request = some get) (closed : get.isOpen = false)
    (incomplete : get.completedAt = []) (steps : List Board.Step) {loop : Loop}
    (present : (board.run steps).loops[index]? = some loop) :
    ∃ final, loop.gets[request]? = some final ∧ final.completedAt = [] := by
  obtain ⟨own, there, gets⟩ := Option.bind_eq_some_iff.mp found
  have abandoned : Track.Abandoned request ⟨own, board.pending index⟩ :=
    ⟨get, gets, closed, incomplete⟩
  obtain ⟨track, reached, final, stays, -, never⟩ :=
    @Board.Kept.run _ _ _ [] (fun _ => []) _ (kept request) tidy
      (Board.track?_of_present there) abandoned steps
  rw [Board.track?_of_present present] at reached
  cases reached
  exact ⟨final, stays, never⟩

end Abandoned

namespace Board

/-- A loop that is started once and whose GETs complete at most once has one
token: an outstanding GET and no timer, or no outstanding GET and one timer. Each
GET after the first is issued one refresh interval after the completion of the
GET before it, and a GET that does not complete, be it hung or closed, is the last. -/
theorem cycles_take_turns {origin : Board} (blank : Blank origin) (steps : List Step)
    {index : Nat} {loop : Loop} (present : (origin.run steps).loops[index]? = some loop)
    (once : (startsOf index origin steps).length = 1)
    (single : ∀ request < loop.gets.length,
      completionCount (loop.transport request) + (sendsOf index origin steps request).length ≤ 1) :
    let pending := (origin.run steps).pending index
    Xor (loop.gets.countP (·.completedAt.isEmpty) = 1 ∧ pending = [])
      ((∀ get ∈ loop.gets, get.completedAt ≠ []) ∧ pending.length = 1) ∧
    (∀ request get next, loop.gets[request]? = some get → loop.gets[request + 1]? = some next →
      ∃ done, get.completedAt = [done] ∧ get.issuedAt ≤ done ∧
        next.issuedAt = done + loop.request.refresh) ∧
    loop.issueTimes.Pairwise (· + loop.request.refresh ≤ ·) ∧
    (∀ request get, loop.gets[request]? = some get → get.completedAt = [] →
      loop.gets.length = request + 1) ∧
    (∀ before after request get, steps = before ++ after →
      (origin.run before).get? index request = some get → get.isOpen = false →
      get.completedAt = [] → loop.gets.length = request + 1) := by
  intro pending
  have succeeds := Succeeds.kept.of_blank Succeeds.begins blank present
  have token := succeeds.token (succeeds.accounts.alone (Nat.le_of_eq once) single)
  have last : ∀ request get, loop.gets[request]? = some get → get.completedAt = [] →
      loop.gets.length = request + 1 := by
    intro request get found incomplete
    have there : (Track.times ⟨loop, pending⟩)[request]? = some (get.issuedAt, get.completedAt) :=
      Track.times_of_present found
    rw [incomplete] at there
    simpa [Track.times] using token.last there
  refine ⟨?_, ?_, ?_, last, ?_⟩
  · simpa [Track.times, Get.times, List.countP_map, Function.comp_def] using token.exclusive
  · intro request get next found following
    exact token.next (Track.times_of_present found) (Track.times_of_present following)
  · simpa [Track.times, Loop.issueTimes, Get.times, Function.comp_def] using token.spaced
  · intro before after request get split found closed incomplete
    subst split
    rw [run_append] at present
    obtain ⟨final, stays, never⟩ :=
      Abandoned.run (blank.tidy.run before) found closed incomplete after present
    exact last request final stays never

/-- A run of one loop whose third GET is closed before it completes. -/
def closedRun : List Step :=
  [.start "" "left" 5 fun request => if request = 0 then [.opened, .done 200 ""] else [],
    .advance 7, .send 0 1 [.loading 500, .done 500 ""], .advance 6, .close 0 2]

/-- The closed GET stays the last one, however long one waits. -/
theorem cycles_take_turns_closed :
    ∃ loop, (bare.run (closedRun ++ [.advance 100])).loops[0]? = some loop ∧
      loop.issueTimes.Pairwise (· + 5 ≤ ·) ∧ loop.gets.length = 3 := by
  have facts : ((bare.run (closedRun ++ [.advance 100])).loops[0]?).any (fun loop =>
      loop.request.refresh = 5 ∧ ∀ request < loop.gets.length,
        completionCount (loop.transport request) +
          (sendsOf 0 bare (closedRun ++ [.advance 100]) request).length ≤ 1) = true := by
    decide +kernel
  obtain ⟨loop, present, facts⟩ := (Option.any_eq_true ..).mp facts
  obtain ⟨refresh, single⟩ := of_decide_eq_true facts
  have closed : ((bare.run closedRun).get? 0 2).any (fun get =>
      get.isOpen = false ∧ get.completedAt = []) = true := by
    decide +kernel
  obtain ⟨get, found, closed⟩ := (Option.any_eq_true ..).mp closed
  obtain ⟨closed, incomplete⟩ := of_decide_eq_true closed
  obtain ⟨-, -, spaced, -, last⟩ :=
    cycles_take_turns ⟨rfl, rfl⟩ _ present (by decide +kernel) single
  rw [refresh] at spaced
  exact ⟨loop, present, spaced, last closedRun _ 2 get rfl found closed incomplete⟩

end Board

end PanelBoard.Poll
