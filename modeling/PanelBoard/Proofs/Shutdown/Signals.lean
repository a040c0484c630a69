import PanelBoard.Proofs.Shutdown.Owing

/-!
# Signals that are not lost

However the calls follow each other, what a receiver gets is settled by what it is owed,
and no signal is lost on it.
-/

namespace PanelBoard.Shutdown

/-! ## Receivers -/

section Receivers

variable {shutdown : Shutdown} {receiver other : Nat}

theorem next?_of_lt (there : receiver < shutdown.receivers.length) :
    shutdown.next? receiver = shutdown.receivers[receiver] := by
  rw [next?, List.getElem?_eq_getElem there, Option.join_some]

theorem next?_of_le (absent : shutdown.receivers.length ≤ receiver) :
    shutdown.next? receiver = none := by
  rw [next?, List.getElem?_eq_none absent, Option.join_none]

theorem lt_of_next? {next : Nat} (there : shutdown.next? receiver = some next) :
    receiver < shutdown.receivers.length := by
  by_contra absent
  rw [next?_of_le (Nat.le_of_not_lt absent)] at there
  cases there

theorem next?_subscribe (shutdown : Shutdown) (receiver : Nat) :
    shutdown.subscribe.2.next? receiver =
      if receiver = shutdown.receivers.length then some shutdown.upcoming
      else shutdown.next? receiver := by
  have joined : shutdown.subscribe.2.next? receiver =
      ((shutdown.receivers ++ [some shutdown.upcoming])[receiver]?).join := rfl
  rw [joined, List.getElem?_append]
  split
  next early => rw [if_neg (Nat.ne_of_lt early), next?]
  next late =>
    split
    next same => simp [same]
    next different =>
      rw [next?_of_le (Nat.le_of_not_lt late)]
      have beyond : receiver - shutdown.receivers.length ≠ 0 := by omega
      simp [beyond]

theorem next?_place_self (there : receiver < shutdown.receivers.length) (next : Option Nat) :
    (shutdown.place receiver next).next? receiver = next := by
  simp [place, next?, there]

theorem next?_place_of_ne (different : other ≠ receiver) (next : Option Nat) :
    (shutdown.place receiver next).next? other = shutdown.next? other := by
  simp [place, next?, Ne.symm different]

/-- The receivers that are there have a signal that they get next. -/
theorem receiverCount_eq_length (shutdown : Shutdown) :
    shutdown.receiverCount = ((List.range shutdown.receivers.length).filter
      fun receiver => (shutdown.next? receiver).isSome).length := by
  have places : shutdown.receivers =
      (List.range shutdown.receivers.length).map shutdown.next? := by
    apply List.ext_getElem
    · simp
    · intro receiver there _
      simp [next?_of_lt there]
  rw [receiverCount]
  conv_lhs => rw [places]
  rw [List.countP_map, List.countP_eq_length_filter]
  rfl

theorem next?_of_receiverCount (nobody : shutdown.receiverCount = 0) (receiver : Nat) :
    shutdown.next? receiver = none := by
  rw [receiverCount_eq_length, List.length_eq_zero_iff, List.filter_eq_nil_iff] at nobody
  by_cases there : receiver < shutdown.receivers.length
  · simpa using nobody receiver (List.mem_range.mpr there)
  · exact next?_of_le (Nat.le_of_not_lt there)

/-! ## What one delivery does -/

/-- A receiver gets what it is owed, and then waits for the signal behind those that it
accounted for. Only who is owed nothing is told that the shutdown is gone. -/
theorem deliver_eq (shutdown : Shutdown) {next : Nat} (reached : next ≤ shutdown.upcoming) :
    shutdown.deliver next =
      (if shutdown.isOpen = false ∧ next = shutdown.upcoming then .closed
        else .ofOwed (shutdown.upcoming - next),
      next + (Receipt.ofOwed (shutdown.upcoming - next)).accounted) := by
  cases latest : shutdown.latest with
  | none =>
      have start : shutdown.upcoming = 0 := by rw [upcoming, latest]; rfl
      obtain rfl : next = 0 := Nat.le_zero.mp (start ▸ reached)
      rw [start, Nat.sub_self]
      cases opened : shutdown.isOpen <;>
        simp [deliver, latest, opened, Receipt.ofOwed, Receipt.accounted]
  | some number =>
      have following : shutdown.upcoming = number + 1 := by rw [upcoming, latest]; rfl
      rw [following] at reached ⊢
      simp only [deliver, latest]
      rcases Nat.lt_trichotomy next number with behind | rfl | ahead
      · -- some signals were overwritten, and the receiver skips to the latest
        obtain ⟨missed, rfl⟩ := Nat.exists_eq_add_of_lt behind
        have left : next + missed + 1 + 1 - next = missed + 1 + 1 := by omega
        have skipped : next + missed + 1 - next = missed + 1 := by omega
        rw [if_neg (Nat.ne_of_lt behind), if_pos behind, if_neg (by omega), left, skipped]
        rfl
      · rw [if_pos rfl, if_neg (by omega), Nat.add_sub_cancel_left]
        rfl
      · obtain rfl : next = number + 1 := Nat.le_antisymm reached ahead
        rw [if_neg (Nat.succ_ne_self number), if_neg (Nat.lt_asymm ahead), Nat.sub_self]
        cases opened : shutdown.isOpen <;> simp [Receipt.ofOwed, Receipt.accounted]

end Receivers

/-! ## What calls keep -/

/-- A shutdown has a receiver where the calls have left it: if it is there, it waits for the
signal in front of those that it is owed. -/
structure Tracks (receiver : Nat) (events : List Event) (shutdown : Shutdown) : Prop where
  there : (shutdown.next? receiver).isSome = true ↔ receiver ∈ present events
  accounts : accountedBy receiver events ≤ sentTo receiver events
  waits : ∀ next, shutdown.next? receiver = some next →
    next + owed receiver events = shutdown.upcoming
  settled : settle (turns receiver events) = (owed receiver events, receipts receiver events)

namespace Tracks

variable {events : List Event} {event : Event} {shutdown next : Shutdown} {receiver : Nat}

/-- What is owed stays as it is in a call that is no turn of the receiver. -/
theorem idle (tracks : Tracks receiver events shutdown) (silent : event.turn? receiver = none) :
    accountedBy receiver (events ++ [event]) ≤ sentTo receiver (events ++ [event]) ∧
    owed receiver (events ++ [event]) = owed receiver events ∧
    settle (turns receiver (events ++ [event])) =
      (owed receiver (events ++ [event]), receipts receiver (events ++ [event])) := by
  obtain ⟨sent, got, turned⟩ := unmoved events silent
  have same : owed receiver (events ++ [event]) = owed receiver events := by
    rw [owed, accountedBy, sent, got, ← accountedBy, ← owed]
  refine ⟨?_, same, ?_⟩
  · rw [accountedBy, sent, got]
    exact tracks.accounts
  · rw [same, got, turned]
    exact tracks.settled

/-- A call that is no turn of a receiver leaves it where it is. -/
theorem frame (tracks : Tracks receiver events shutdown) (silent : event.turn? receiver = none)
    (stays : receiver ∈ present (events ++ [event]) ↔ receiver ∈ present events)
    (place : next.next? receiver = shutdown.next? receiver)
    (upcoming : next.upcoming = shutdown.upcoming) :
    Tracks receiver (events ++ [event]) next where
  there := by rw [place, stays, tracks.there]
  accounts := (tracks.idle silent).1
  waits waiting found := by
    rw [(tracks.idle silent).2.1, upcoming]
    exact tracks.waits waiting (place ▸ found)
  settled := (tracks.idle silent).2.2

/-- A receiver that is there gets what it is owed. -/
theorem receive?_eq (tracks : Tracks receiver events shutdown) (opened : shutdown.isOpen = true)
    {waiting : Nat} (found : shutdown.next? receiver = some waiting) :
    shutdown.receive? receiver = some (.ofOwed (owed receiver events),
      shutdown.place receiver
        (some (waiting + (Receipt.ofOwed (owed receiver events)).accounted))) := by
  have waits := tracks.waits waiting found
  have left : shutdown.upcoming - waiting = owed receiver events := by omega
  have here : ¬(shutdown.isOpen = false ∧ waiting = shutdown.upcoming) := by simp [opened]
  rw [receive?, found, Option.map_some, deliver_eq _ (by omega), if_neg here, left]

/-- A receiver that gets what it is owed waits for what comes behind it. -/
theorem receive (tracks : Tracks receiver events shutdown) {waiting : Nat}
    (found : shutdown.next? receiver = some waiting)
    (subscribed : receiver < events.count .subscribed) :
    Tracks receiver (events ++ [.received receiver (.ofOwed (owed receiver events))])
      (shutdown.place receiver
        (some (waiting + (Receipt.ofOwed (owed receiver events)).accounted))) := by
  have enough := accounted_ofOwed_le (owed receiver events)
  have accounts := tracks.accounts
  have waits := tracks.waits waiting found
  have place := next?_place_self (lt_of_next? found)
    (some (waiting + (Receipt.ofOwed (owed receiver events)).accounted))
  refine ⟨?_, ?_, fun following behind => ?_, ?_⟩
  · have before := tracks.there.mp (found ▸ rfl)
    rw [mem_present] at before
    rw [place, mem_present]
    exact iff_of_true rfl (by simpa using before)
  · rw [accountedBy_received, sentTo_received]
    rw [owed] at enough ⊢
    omega
  · cases place.symm.trans behind
    rw [owed_received]
    change waiting + _ + _ = shutdown.upcoming
    omega
  · rw [turns_concat, if_pos subscribed, owed_received, receipts_received]
    have asked : (Event.received receiver (.ofOwed (owed receiver events))).turn? receiver =
        some .ask := if_pos rfl
    rw [asked]
    exact (settle_concat _ .ask).trans (by rw [tracks.settled]; rfl)

end Tracks

/-- A shutdown is as the calls have left it, all of its receivers included. -/
structure Reflects (events : List Event) (shutdown : Shutdown) : Prop where
  opened : shutdown.isOpen = true
  subscribed : shutdown.receivers.length = events.count .subscribed
  known : ∀ receiver, .dropped receiver ∈ events → receiver < events.count .subscribed
  tracks : ∀ receiver, Tracks receiver events shutdown

namespace Reflects

variable {events : List Event} {shutdown next : Shutdown} {receiver : Nat}

theorem new : Reflects [] {} where
  opened := rfl
  subscribed := rfl
  known _ member := nomatch member
  tracks receiver :=
    { there := by simp [next?, present]
      accounts := Nat.le_refl 0
      waits := fun _ found => by simp [next?] at found
      settled := rfl }

theorem subscribe (reflects : Reflects events shutdown) :
    Reflects (events ++ [.subscribed]) shutdown.subscribe.2 where
  opened := reflects.opened
  subscribed := by simp [Shutdown.subscribe, reflects.subscribed]
  known receiver member := by
    have early := reflects.known receiver (by simpa using member)
    rw [List.count_append, List.count_singleton_self]
    omega
  tracks receiver := by
    have place := next?_subscribe shutdown receiver
    rw [reflects.subscribed] at place
    split at place
    next same =>
      -- the receiver that subscribes: nothing of what was sent before is owed to it
      have absent : events.count .subscribed ≤ receiver := Nat.le_of_eq same.symm
      have silent : Event.subscribed.turn? receiver = none := rfl
      obtain ⟨accounts, unchanged, settled⟩ := (reflects.tracks receiver).idle silent
      refine ⟨?_, accounts, fun waiting found => ?_, settled⟩
      · have fresh : .dropped receiver ∉ events := fun member =>
          absurd (reflects.known receiver member) (Nat.not_lt_of_le absent)
        rw [place, mem_present, List.count_append, List.count_singleton_self]
        exact iff_of_true rfl ⟨by omega, by simpa using fresh⟩
      · rw [unchanged, owed_of_absent absent]
        rw [place] at found
        cases found
        rfl
    next different =>
      refine (reflects.tracks receiver).frame rfl ?_ place rfl
      rw [mem_present, mem_present, List.count_append, List.count_singleton_self]
      simp
      omega

theorem trigger (reflects : Reflects events shutdown) :
    Reflects (events ++ [.triggered]) shutdown.trigger where
  opened := by
    rw [Shutdown.trigger]
    split <;> exact reflects.opened
  subscribed := by
    have same : shutdown.trigger.receivers = shutdown.receivers := by
      rw [Shutdown.trigger]
      split <;> rfl
    simp [same, reflects.subscribed]
  known receiver member := by simpa using reflects.known receiver (by simpa using member)
  tracks receiver := by
    have tracks := reflects.tracks receiver
    have enough := tracks.accounts
    have more : owed receiver (events ++ [.triggered]) = owed receiver events +
        if receiver < events.count .subscribed then 1 else 0 := by
      have got : accountedBy receiver (events ++ [.triggered]) = accountedBy receiver events :=
        accountedBy_append receiver events [.triggered]
      rw [owed, owed, got, sentTo_concat]
      simp only [and_true]
      omega
    refine ⟨?_, ?_, fun waiting found => ?_, ?_⟩
    · have same : shutdown.trigger.next? receiver = shutdown.next? receiver := by
        rw [Shutdown.trigger]
        split <;> rfl
      rw [same, tracks.there, mem_present, mem_present]
      simp
    · rw [accountedBy_append, sentTo_concat]
      exact Nat.le_add_right_of_le enough
    · rw [Shutdown.trigger] at found ⊢
      split at found
      next nobody => cases (next?_of_receiverCount nobody receiver).symm.trans found
      next somebody =>
        have subscribed : receiver < events.count .subscribed :=
          reflects.subscribed ▸ lt_of_next? found
        rw [if_neg somebody, more, if_pos subscribed, ← Nat.add_assoc, tracks.waits waiting found]
        rfl
    · have got : receipts receiver (events ++ [.triggered]) = receipts receiver events := by
        rw [receipts_append]
        exact List.append_nil _
      rw [got, more, turns_concat]
      split
      · exact (settle_concat _ .signal).trans (by rw [tracks.settled]; rfl)
      · rw [List.append_nil, tracks.settled, Nat.add_zero]

theorem drop (reflects : Reflects events shutdown)
    (there : (shutdown.drop receiver).1 = true) :
    Reflects (events ++ [.dropped receiver]) (shutdown.drop receiver).2 where
  opened := reflects.opened
  subscribed := by simp [Shutdown.drop, place, reflects.subscribed]
  known other member := by
    have subscribed := (mem_present.mp ((reflects.tracks receiver).there.mp there)).1
    rcases List.mem_append.mp member with early | last
    · simpa using reflects.known other early
    · cases List.mem_singleton.mp last
      simpa using subscribed
  tracks other := by
    by_cases same : other = receiver
    · obtain ⟨waiting, before⟩ := Option.isSome_iff_exists.mp there
      have gone : (shutdown.drop receiver).2.next? other = none := by
        rw [same]
        exact next?_place_self (lt_of_next? before) none
      have silent : (Event.dropped receiver).turn? other = none := rfl
      obtain ⟨accounts, -, settled⟩ := (reflects.tracks other).idle silent
      refine ⟨?_, accounts, fun waiting found => ?_, settled⟩
      · rw [gone, same]
        exact iff_of_false nofun fun member => (mem_present.mp member).2 (by simp)
      · cases gone.symm.trans found
    · refine (reflects.tracks other).frame rfl ?_ (next?_place_of_ne same none) rfl
      rw [mem_present, mem_present]
      simp [same]

theorem receive {receipt : Receipt} (reflects : Reflects events shutdown)
    (got : shutdown.receive? receiver = some (receipt, next)) :
    Reflects (events ++ [.received receiver receipt]) next := by
  obtain ⟨waiting, found, -⟩ := Option.map_eq_some_iff.mp got
  have tracks := reflects.tracks receiver
  have early := lt_of_next? found
  have subscribed : receiver < events.count .subscribed := reflects.subscribed ▸ early
  have stays (other : Nat) : other ∈ present (events ++ [.received receiver receipt]) ↔
      other ∈ present events := by
    rw [mem_present, mem_present]
    simp
  rw [tracks.receive?_eq reflects.opened found] at got
  obtain ⟨given, placed⟩ := Prod.mk.inj (Option.some.inj got)
  subst placed
  refine ⟨reflects.opened, ?_, fun other member => ?_, fun other => ?_⟩
  · simp [place, reflects.subscribed]
  · simpa using reflects.known other (by simpa using member)
  by_cases same : other = receiver
  · subst same
    exact given ▸ tracks.receive found subscribed
  · exact (reflects.tracks other).frame (if_neg (Ne.symm same)) (stays other)
      (next?_place_of_ne same _) rfl

theorem step {event : Event} (reflects : Reflects events shutdown)
    (call : Step shutdown event next) : Reflects (events ++ [event]) next := by
  cases call with
  | subscribe => exact reflects.subscribe
  | trigger => exact reflects.trigger
  | drop there => exact reflects.drop there
  | receive got => exact reflects.receive got

theorem steps {more : List Event} (reflects : Reflects events shutdown)
    (steps : Steps shutdown more next) : Reflects (events ++ more) next := by
  induction steps generalizing events with
  | refl => exact (List.append_nil events).symm ▸ reflects
  | step call _ ih =>
      have behind := ih (reflects.step call)
      rwa [List.append_assoc] at behind

/-- There are as many receivers as are present. -/
theorem receiverCount_eq (reflects : Reflects events shutdown) :
    shutdown.receiverCount = (present events).length := by
  rw [receiverCount_eq_length, reflects.subscribed, present]
  congr 1
  refine List.filter_congr fun receiver member => ?_
  have subscribed := List.mem_range.mp member
  rw [Bool.eq_iff_iff, (reflects.tracks receiver).there, mem_present]
  simp [subscribed]

end Reflects

/-! ## Histories of calls -/

section Histories

variable {events front back : List Event} {shutdown next : Shutdown} {receiver : Nat}

theorem reflects_of_steps (steps : Steps {} events shutdown) : Reflects events shutdown :=
  Reflects.new.steps steps

/-- Who is present has a place in the shutdown. -/
theorem next?_of_present (reflects : Reflects events shutdown)
    (here : receiver ∈ present events) : ∃ waiting, shutdown.next? receiver = some waiting :=
  Option.isSome_iff_exists.mp ((reflects.tracks receiver).there.mpr here)

theorem receive?_isSome_iff (reflects : Reflects events shutdown) (receiver : Nat) :
    (shutdown.receive? receiver).isSome = true ↔ receiver ∈ present events := by
  rw [receive?, Option.isSome_map, (reflects.tracks receiver).there]

/-- What a receiver gets is settled by what it is owed. -/
theorem eq_ofOwed_of_receive? {receipt : Receipt} (reflects : Reflects events shutdown)
    (got : shutdown.receive? receiver = some (receipt, next)) :
    receipt = .ofOwed (owed receiver events) := by
  obtain ⟨waiting, found, -⟩ := Option.map_eq_some_iff.mp got
  rw [(reflects.tracks receiver).receive?_eq reflects.opened found] at got
  exact (Prod.mk.inj (Option.some.inj got)).1.symm

theorem receives_of_receive? {receipt : Receipt} (reflects : Reflects events shutdown)
    (got : shutdown.receive? receiver = some (receipt, next)) :
    Receives (owed receiver events) receipt
      (owed receiver (events ++ [.received receiver receipt])) := by
  rw [owed_received, eq_ofOwed_of_receive? reflects got]
  exact receives_ofOwed _

/-- Nobody was told that the shutdown is gone. -/
theorem closed_not_mem_receipts (steps : Steps {} events shutdown) (receiver : Nat) :
    .closed ∉ receipts receiver events := by
  intro told
  obtain ⟨event, member, given⟩ := List.mem_filterMap.mp told
  cases event with
  | received other receipt =>
      obtain ⟨rfl, rfl⟩ : other = receiver ∧ receipt = .closed := by
        simpa [Event.receipt?] using given
      obtain ⟨front, back, rfl⟩ := List.append_of_mem member
      obtain ⟨middle, before, _ | ⟨call, -⟩⟩ := steps_append_iff.mp steps
      cases call with
      | receive got =>
          exact ofOwed_ne_closed _ (eq_ofOwed_of_receive? (reflects_of_steps before) got).symm
  | _ => cases given

/-- A receiver that was there when a signal was sent and has not received since is owed
something. -/
theorem owed_pos (steps : Steps {} front shutdown) (here : receiver ∈ present front)
    (unasked : receipts receiver back = []) :
    0 < owed receiver (front ++ .triggered :: back) := by
  have accounts := ((reflects_of_steps steps).tracks receiver).accounts
  have got : accountedBy receiver (.triggered :: back) = 0 := by
    change accountedBy receiver back = 0
    rw [accountedBy, unasked]
    rfl
  rw [owed, sentTo_append (mem_present.mp here).1, accountedBy_append, got,
    List.count_cons_self]
  omega

/-- A receiver accounts for the signals that were sent behind its subscription, and for no
others. -/
theorem accountedBy_add_owed (steps : Steps {} (front ++ .subscribed :: back) shutdown) :
    accountedBy (front.count .subscribed) (front ++ .subscribed :: back) +
      owed (front.count .subscribed) (front ++ .subscribed :: back) = back.count .triggered := by
  have accounts := ((reflects_of_steps steps).tracks (front.count .subscribed)).accounts
  rw [owed, Nat.add_sub_of_le accounts, sentTo, behind_subscribed]

/-- A signal that is sent to nobody leaves no trace. -/
theorem steps_of_unheard (steps : Steps {} (front ++ back) shutdown)
    (nobody : present front = []) : Steps {} (front ++ .triggered :: back) shutdown := by
  obtain ⟨middle, before, after⟩ := steps_append_iff.mp steps
  have unheard : middle.trigger = middle := by
    rw [trigger, (reflects_of_steps before).receiverCount_eq, nobody]
    rfl
  have call : Step middle .triggered middle.trigger := .trigger
  rw [unheard] at call
  exact steps_append_iff.mpr ⟨middle, before, .step call after⟩

/-- Once the shutdown is gone, its receivers still get what they are owed, and only then are
told so. -/
theorem receive?_close (steps : Steps {} events shutdown) (here : receiver ∈ present events) :
    (shutdown.close.receive? receiver).map Prod.fst =
      some (if owed receiver events = 0 then .closed else .ofOwed (owed receiver events)) := by
  have reflects := reflects_of_steps steps
  obtain ⟨waiting, found⟩ := next?_of_present reflects here
  have waits := (reflects.tracks receiver).waits waiting found
  have left : shutdown.upcoming - waiting = owed receiver events := by omega
  have place : shutdown.close.next? receiver = some waiting := found
  have same : shutdown.close.upcoming = shutdown.upcoming := rfl
  have done : waiting = shutdown.upcoming ↔ owed receiver events = 0 := by omega
  rw [receive?, place, Option.map_some, Option.map_some, deliver_eq _ (by omega), same, left]
  simp [close, done]

/-- What is right about a shutdown after some calls, whatever calls they were. -/
structure LosesNoSignal (events : List Event) (shutdown : Shutdown) : Prop where
  counts : shutdown.receiverCount = (present events).length
  drops : ∀ receiver, (shutdown.drop receiver).1 = true ↔ receiver ∈ present events
  asks : ∀ receiver, (shutdown.receive? receiver).isSome = true ↔ receiver ∈ present events
  receives : ∀ receiver receipt next, shutdown.receive? receiver = some (receipt, next) →
    Receives (owed receiver events) receipt
      (owed receiver (events ++ [.received receiver receipt]))
  /-- The first that a receiver gets after a signal is something. -/
  wakes : ∀ front back receiver, events = front ++ .triggered :: back →
    receiver ∈ present front → receipts receiver back = [] →
    ∀ receipt next, shutdown.receive? receiver = some (receipt, next) → receipt ≠ .empty
  /-- What was sent before a subscription is never seen. -/
  starts : ∀ front back, events = front ++ .subscribed :: back →
    accountedBy (front.count .subscribed) events + owed (front.count .subscribed) events =
      back.count .triggered
  /-- Receivers that had the same turns got the same, whoever else was there. -/
  apart : ∀ other otherShutdown receiver same, Steps {} other otherShutdown →
    turns same other = turns receiver events →
    receipts same other = receipts receiver events ∧ owed same other = owed receiver events
  /-- A signal that is sent to nobody is as good as not sent. -/
  unheard : ∀ front back, events = front ++ back → present front = [] →
    Steps {} (front ++ .triggered :: back) shutdown
  neverCloses : ∀ receiver, .closed ∉ receipts receiver events
  /-- Only once the shutdown is gone is this told, and only to who is owed nothing. -/
  closes : ∀ receiver ∈ present events,
    (shutdown.close.receive? receiver).map Prod.fst =
      some (if owed receiver events = 0 then .closed else .ofOwed (owed receiver events))

/-- However calls follow each other, no signal is lost on a receiver. -/
theorem loses_no_signal (steps : Steps {} events shutdown) : LosesNoSignal events shutdown where
  counts := (reflects_of_steps steps).receiverCount_eq
  drops receiver := ((reflects_of_steps steps).tracks receiver).there
  asks := receive?_isSome_iff (reflects_of_steps steps)
  receives _ _ _ := receives_of_receive? (reflects_of_steps steps)
  wakes front back receiver parts here unasked receipt next got := by
    subst parts
    obtain ⟨middle, before, -⟩ := steps_append_iff.mp steps
    rw [eq_ofOwed_of_receive? (reflects_of_steps steps) got]
    exact ofOwed_ne_empty (owed_pos before here unasked)
  starts front back parts := by
    subst parts
    exact accountedBy_add_owed steps
  apart other otherShutdown receiver same otherSteps turned := by
    have settled := ((reflects_of_steps otherSteps).tracks same).settled
    rw [turned, ((reflects_of_steps steps).tracks receiver).settled] at settled
    obtain ⟨owes, got⟩ := Prod.mk.inj settled
    exact ⟨got.symm, owes.symm⟩
  unheard front back parts nobody := steps_of_unheard (parts ▸ steps) nobody
  neverCloses := closed_not_mem_receipts steps
  closes _ := receive?_close steps

/-- Two receivers come and one goes, with signals before, between and after: the one that
stays is owed two. -/
def lapped : List Event :=
  [.triggered, .subscribed, .triggered, .triggered, .subscribed, .triggered,
    .received 0 (.lagged 2), .dropped 1, .triggered]

/-- The shutdown as `lapped` leaves it. -/
def lappedShutdown : Shutdown :=
  { latest := some 3, receivers := [some 2, none] }

theorem loses_no_signal_lapped : Steps {} lapped lappedShutdown ∧
    LosesNoSignal lapped lappedShutdown ∧ owed 0 lapped = 2 ∧
    lappedShutdown.receiverCount = 1 ∧
    (lappedShutdown.receive? 0).map Prod.fst = some (.lagged 1) := by
  have steps : Steps {} lapped lappedShutdown :=
    .step .trigger <| .step .subscribe <| .step .trigger <| .step .trigger <|
    .step .subscribe <| .step .trigger <| .step (.receive rfl) <| .step (.drop rfl) <|
    .step .trigger <| .refl lappedShutdown
  exact ⟨steps, loses_no_signal steps, by decide, by decide, by decide⟩

end Histories

end PanelBoard.Shutdown
