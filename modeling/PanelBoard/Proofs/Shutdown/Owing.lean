import Mathlib.Algebra.GroupWithZero.Nat
import Mathlib.Data.List.Basic
import PanelBoard.Shutdown

/-!
# What a receiver is owed

A receiver is owed the signals that were sent since it subscribed, less those that it has
accounted for: those that it got and those that it was told it missed. All of this is read
off a history of calls, of which only some are the turns of a given receiver.
-/

namespace PanelBoard.Shutdown

/-! ## Calls -/

/-- A call on a shutdown or on one of its receivers, with what the receiver got. -/
inductive Event where
  | subscribed
  | triggered
  | dropped (receiver : Nat)
  | received (receiver : Nat) (receipt : Receipt)
  deriving DecidableEq

/-- One call. Only a receiver that is there can be dropped or receive. -/
inductive Step (shutdown : Shutdown) : Event → Shutdown → Prop where
  | subscribe : Step shutdown .subscribed shutdown.subscribe.2
  | trigger : Step shutdown .triggered shutdown.trigger
  | drop {receiver : Nat} (there : (shutdown.drop receiver).1 = true) :
      Step shutdown (.dropped receiver) (shutdown.drop receiver).2
  | receive {receiver : Nat} {receipt : Receipt} {next : Shutdown}
      (got : shutdown.receive? receiver = some (receipt, next)) :
      Step shutdown (.received receiver receipt) next

/-- Calls one after another. -/
inductive Steps : Shutdown → List Event → Shutdown → Prop where
  | refl (shutdown : Shutdown) : Steps shutdown [] shutdown
  | step {first next last : Shutdown} {event : Event} {events : List Event}
      (call : Step first event next) (rest : Steps next events last) :
      Steps first (event :: events) last

/-- Calls are made in two parts that meet at a shutdown. -/
theorem steps_append_iff {first last : Shutdown} {front back : List Event} :
    Steps first (front ++ back) last ↔
      ∃ middle, Steps first front middle ∧ Steps middle back last := by
  induction front generalizing first with
  | nil =>
      constructor
      · exact fun steps => ⟨first, .refl first, steps⟩
      · rintro ⟨_, ⟨⟩, steps⟩
        exact steps
  | cons event front ih =>
      constructor
      · rintro (_ | ⟨call, rest⟩)
        obtain ⟨middle, before, after⟩ := ih.mp rest
        exact ⟨middle, .step call before, after⟩
      · rintro ⟨middle, _ | ⟨call, before⟩, after⟩
        exact .step call (ih.mpr ⟨middle, before, after⟩)

/-! ## What is owed -/

/-- The receivers that subscribed and were not dropped, each by its number in the order of
subscriptions. -/
def present (events : List Event) : List Nat :=
  (List.range (events.count .subscribed)).filter fun receiver => .dropped receiver ∉ events

/-- What happened behind the subscription of a receiver. -/
def behind : Nat → List Event → List Event
  | _, [] => []
  | 0, .subscribed :: events => events
  | receiver + 1, .subscribed :: events => behind receiver events
  | receiver, _ :: events => behind receiver events

/-- How many signals were sent since a receiver subscribed. -/
def sentTo (receiver : Nat) (events : List Event) : Nat :=
  (behind receiver events).count .triggered

/-- What a call gave to a receiver. -/
def Event.receipt? (receiver : Nat) : Event → Option Receipt
  | .received other receipt => if other = receiver then some receipt else none
  | _ => none

/-- What a receiver got, in order. -/
def receipts (receiver : Nat) (events : List Event) : List Receipt :=
  events.filterMap (Event.receipt? receiver)

/-- How many signals a receipt accounts for. -/
def Receipt.accounted : Receipt → Nat
  | .signal => 1
  | .lagged missed => missed
  | .empty => 0
  | .closed => 0

/-- How many signals a receiver has accounted for. -/
def accountedBy (receiver : Nat) (events : List Event) : Nat :=
  ((receipts receiver events).map Receipt.accounted).sum

/-- How many signals were sent since a receiver subscribed that it has not accounted for. -/
def owed (receiver : Nat) (events : List Event) : Nat :=
  sentTo receiver events - accountedBy receiver events

/-- What a receiver gets that is owed a number of signals, and what it is owed then. -/
inductive Receives : Nat → Receipt → Nat → Prop where
  | empty : Receives 0 .empty 0
  | signal : Receives 1 .signal 0
  | lagged (missed : Nat) : Receives (missed + 2) (.lagged (missed + 1)) 1

section Events

variable {receiver : Nat} {events front : List Event}

theorem mem_present : receiver ∈ present events ↔
    receiver < events.count .subscribed ∧ .dropped receiver ∉ events := by
  simp [present]

theorem behind_append (subscribed : receiver < front.count .subscribed) (back : List Event) :
    behind receiver (front ++ back) = behind receiver front ++ back := by
  fun_induction behind receiver front with
  | case1 => cases subscribed
  | case2 => rfl
  | case3 receiver front ih =>
      rw [List.cons_append, behind]
      exact ih (by simpa using subscribed)
  | case4 receiver event front other later ih =>
      rw [List.cons_append, behind]
      · refine ih ?_
        cases event with
        | subscribed => cases receiver <;> simp at other later
        | _ => simpa using subscribed
      · exact other
      · exact later

theorem behind_of_absent (absent : events.count .subscribed ≤ receiver) :
    behind receiver events = [] := by
  fun_induction behind receiver events with
  | case1 => rfl
  | case2 => simp at absent
  | case3 receiver front ih => exact ih (by simpa using absent)
  | case4 receiver event front other later ih =>
      refine ih ?_
      cases event with
      | subscribed => cases receiver <;> simp at other later
      | _ => simpa using absent

/-- The subscriptions number the receivers. -/
theorem behind_subscribed (front back : List Event) :
    behind (front.count .subscribed) (front ++ .subscribed :: back) = back := by
  induction front with
  | nil => rfl
  | cons event front ih => cases event <;> simpa [behind] using ih

theorem behind_concat (receiver : Nat) (events : List Event) (event : Event) :
    behind receiver (events ++ [event]) =
      behind receiver events ++ if receiver < events.count .subscribed then [event] else [] := by
  split
  next subscribed => exact behind_append subscribed [event]
  next absent =>
    have early := Nat.le_of_not_lt absent
    rw [behind_of_absent early, List.append_nil]
    by_cases later : (events ++ [event]).count .subscribed ≤ receiver
    · exact behind_of_absent later
    · -- the receiver is the one that subscribes with this call
      cases event with
      | subscribed =>
          have same : receiver = events.count .subscribed := by
            rw [List.count_append, List.count_singleton_self] at later
            omega
          rw [same]
          exact behind_subscribed events []
      | _ => exact absurd early (by simpa using later)

theorem sentTo_append (subscribed : receiver < front.count .subscribed) (back : List Event) :
    sentTo receiver (front ++ back) = sentTo receiver front + back.count .triggered := by
  rw [sentTo, behind_append subscribed, List.count_append, sentTo]

theorem sentTo_of_absent (absent : events.count .subscribed ≤ receiver) :
    sentTo receiver events = 0 := by
  rw [sentTo, behind_of_absent absent]
  rfl

/-- A receiver that did not subscribe is owed nothing. -/
theorem owed_of_absent (absent : events.count .subscribed ≤ receiver) :
    owed receiver events = 0 := by
  rw [owed, sentTo_of_absent absent, Nat.zero_sub]

theorem sentTo_concat (receiver : Nat) (events : List Event) (event : Event) :
    sentTo receiver (events ++ [event]) = sentTo receiver events +
      if receiver < events.count .subscribed ∧ event = .triggered then 1 else 0 := by
  rw [sentTo, behind_concat, List.count_append, sentTo]
  by_cases subscribed : receiver < events.count .subscribed <;>
    simp [subscribed, List.count_singleton]

theorem receipts_append (receiver : Nat) (front back : List Event) :
    receipts receiver (front ++ back) = receipts receiver front ++ receipts receiver back :=
  List.filterMap_append

theorem accountedBy_append (receiver : Nat) (front back : List Event) :
    accountedBy receiver (front ++ back) =
      accountedBy receiver front + accountedBy receiver back := by
  rw [accountedBy, receipts_append, List.map_append, List.sum_append, accountedBy, accountedBy]

theorem sentTo_received (receiver : Nat) (events : List Event) (receipt : Receipt) :
    sentTo receiver (events ++ [.received receiver receipt]) = sentTo receiver events := by
  rw [sentTo_concat, if_neg (fun sent => nomatch sent.2), Nat.add_zero]

theorem receipts_received (receiver : Nat) (events : List Event) (receipt : Receipt) :
    receipts receiver (events ++ [.received receiver receipt]) =
      receipts receiver events ++ [receipt] := by
  rw [receipts_append]
  simp [receipts, Event.receipt?]

theorem accountedBy_received (receiver : Nat) (events : List Event) (receipt : Receipt) :
    accountedBy receiver (events ++ [.received receiver receipt]) =
      accountedBy receiver events + receipt.accounted := by
  rw [accountedBy, receipts_received, List.map_append, List.sum_append, accountedBy]
  rfl

/-- A receipt accounts for signals that were owed. -/
theorem owed_received (receiver : Nat) (events : List Event) (receipt : Receipt) :
    owed receiver (events ++ [.received receiver receipt]) =
      owed receiver events - receipt.accounted := by
  rw [owed, sentTo_received, accountedBy_received, owed, Nat.sub_add_eq]

end Events

/-! ## Receipts that are owed -/

/-- What a receiver gets that is owed a number of signals. -/
def Receipt.ofOwed : Nat → Receipt
  | 0 => .empty
  | 1 => .signal
  | missed + 1 => .lagged missed

theorem accounted_ofOwed_le (owed : Nat) : (Receipt.ofOwed owed).accounted ≤ owed := by
  unfold Receipt.ofOwed
  split
  · exact Nat.zero_le _
  · exact Nat.le_refl _
  · exact Nat.le_succ _

theorem receives_ofOwed (owed : Nat) :
    Receives owed (.ofOwed owed) (owed - (Receipt.ofOwed owed).accounted) := by
  unfold Receipt.ofOwed
  split
  next => exact .empty
  next => exact .signal
  next missed several =>
    obtain ⟨more, rfl⟩ := Nat.exists_eq_succ_of_ne_zero several
    have left : more.succ + 1 - (Receipt.lagged more.succ).accounted = 1 :=
      Nat.add_sub_cancel_left more.succ 1
    rw [left]
    exact .lagged more

theorem ofOwed_ne_empty {owed : Nat} (pending : 0 < owed) : Receipt.ofOwed owed ≠ .empty := by
  unfold Receipt.ofOwed
  split
  next => exact absurd pending (Nat.lt_irrefl 0)
  all_goals nofun

theorem ofOwed_ne_closed (owed : Nat) : Receipt.ofOwed owed ≠ .closed := by
  unfold Receipt.ofOwed
  split <;> nofun

/-! ## Turns -/

/-- What concerns one receiver: a signal is sent, or the receiver asks. -/
inductive Turn where
  | signal
  | ask

/-- What a call is to a receiver. -/
def Event.turn? (receiver : Nat) : Event → Option Turn
  | .triggered => some .signal
  | .received other _ => if other = receiver then some .ask else none
  | _ => none

/-- What concerned a receiver since it subscribed, in order. -/
def turns (receiver : Nat) (events : List Event) : List Turn :=
  (behind receiver events).filterMap (Event.turn? receiver)

/-- What a receiver is owed and what it got, after one more turn. -/
def takeTurn : Nat × List Receipt → Turn → Nat × List Receipt
  | (owed, got), .signal => (owed + 1, got)
  | (owed, got), .ask =>
    (owed - (Receipt.ofOwed owed).accounted, got ++ [Receipt.ofOwed owed])

/-- What a receiver is owed and what it got, after its turns. -/
def settle (turns : List Turn) : Nat × List Receipt :=
  turns.foldl takeTurn (0, [])

section Turns

variable {receiver : Nat} {event : Event}

theorem turns_concat (receiver : Nat) (events : List Event) (event : Event) :
    turns receiver (events ++ [event]) = turns receiver events ++
      if receiver < events.count .subscribed then (event.turn? receiver).toList else [] := by
  rw [turns, behind_concat, List.filterMap_append, turns]
  split
  · cases turn : event.turn? receiver <;> simp [turn]
  · rfl

theorem settle_concat (turns : List Turn) (turn : Turn) :
    settle (turns ++ [turn]) = takeTurn (settle turns) turn :=
  List.foldl_concat ..

/-- A call that is no turn of a receiver changes nothing about it. -/
theorem unmoved (events : List Event) (silent : event.turn? receiver = none) :
    sentTo receiver (events ++ [event]) = sentTo receiver events ∧
    receipts receiver (events ++ [event]) = receipts receiver events ∧
    turns receiver (events ++ [event]) = turns receiver events := by
  have unsent : event ≠ .triggered := by
    rintro rfl
    cases silent
  have nothing : receipts receiver [event] = [] := by
    cases event with
    | received other receipt =>
        have different : other ≠ receiver := fun same => by simp [Event.turn?, same] at silent
        simp [receipts, Event.receipt?, different]
    | _ => rfl
  refine ⟨?_, ?_, ?_⟩
  · rw [sentTo_concat, if_neg fun sent => unsent sent.2, Nat.add_zero]
  · rw [receipts_append, nothing, List.append_nil]
  · rw [turns_concat, silent]
    simp

end Turns

end PanelBoard.Shutdown
