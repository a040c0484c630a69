/-!
# Shutdown signals

A signal reaches every receiver that listens when it is sent. Only the latest
signal is kept, so a receiver that falls behind is told how many it missed and
then gets the latest.
-/

namespace PanelBoard

/-- The signals, which are numbered from zero: the number of the latest, which is
the only one that is kept, and, by receiver, the number of the signal that it gets
next. A dropped receiver keeps its place and nothing else. -/
structure Shutdown where
  latest : Option Nat := none
  receivers : List (Option Nat) := []
  /-- May signals still be sent? -/
  isOpen : Bool := true
  deriving Repr, DecidableEq

namespace Shutdown

/-- What a receiver gets without waiting. -/
inductive Receipt where
  | empty
  | signal
  | lagged (missed : Nat)
  | closed
  deriving Repr, DecidableEq

/-- The number of the signal that is sent next. -/
def upcoming (shutdown : Shutdown) : Nat :=
  shutdown.latest.elim 0 (· + 1)

/-- The number of receivers that are there. -/
def receiverCount (shutdown : Shutdown) : Nat :=
  shutdown.receivers.countP Option.isSome

/-- Add a receiver, which only sees later signals, and give its place. -/
def subscribe (shutdown : Shutdown) : Nat × Shutdown :=
  (shutdown.receivers.length,
    { shutdown with receivers := shutdown.receivers ++ [some shutdown.upcoming] })

/-- Send a signal in place of the latest. Without receivers nothing is sent. -/
def trigger (shutdown : Shutdown) : Shutdown :=
  if shutdown.receiverCount = 0 then shutdown
  else { shutdown with latest := some shutdown.upcoming }

/-- The signal that a receiver gets next; none if there is no such receiver. -/
def next? (shutdown : Shutdown) (receiver : Nat) : Option Nat :=
  (shutdown.receivers[receiver]?).join

/-- Note the signal that a receiver gets next; none if it goes away. -/
def place (shutdown : Shutdown) (receiver : Nat) (next : Option Nat) : Shutdown :=
  { shutdown with receivers := shutdown.receivers.set receiver next }

/-- Drop a receiver, if it is there. -/
def drop (shutdown : Shutdown) (receiver : Nat) : Bool × Shutdown :=
  ((shutdown.next? receiver).isSome, shutdown.place receiver none)

/-- Give up sending. -/
def close (shutdown : Shutdown) : Shutdown :=
  { shutdown with isOpen := false }

/-- What there is for a receiver that gets a signal next, and the signal that it
gets after that. After a lag that is the latest. -/
def deliver (shutdown : Shutdown) (next : Nat) : Receipt × Nat :=
  let idle := if shutdown.isOpen then .empty else .closed
  match shutdown.latest with
  | none => (idle, next)
  | some latest =>
    if next = latest then (.signal, next + 1)
    else if next < latest then (.lagged (latest - next), latest)
    else (idle, next)

/-- Receive without waiting; none if there is no such receiver. -/
def receive? (shutdown : Shutdown) (receiver : Nat) : Option (Receipt × Shutdown) :=
  (shutdown.next? receiver).map fun next =>
    let (receipt, following) := shutdown.deliver next
    (receipt, shutdown.place receiver (some following))

end Shutdown

end PanelBoard
