/-!
# SerialLink.Connection.Event

What happens to a connection, as it is published to a subscriber.

1. The log keeps every event, so that a run can be judged by it.
2. A subscriber has room for so many events that it has not yet taken; when more are
   published it misses the oldest of them, and is told how many.
-/

namespace SerialLink

/-- Why a connection went down. -/
inductive DisconnectReason where
  /-- Somebody asked for it. -/
  | requested
  /-- The device failed. -/
  | transportLost (message : String)
  /-- The port is no longer listed. -/
  | portRemoved
  deriving DecidableEq, Repr

/-- What happens to a connection. -/
inductive Event where
  | connected (port : String)
  | disconnected (port : String) (reason : DisconnectReason)
  /-- The candidates are about to be tried for the given time, counted from one. -/
  | reconnecting (attempt : UInt32)
  deriving DecidableEq, Repr

/-- The kinds of events. -/
inductive EventKind where
  | connected
  | disconnected
  | reconnecting
  deriving DecidableEq, Repr

/-- The kind of an event. -/
def Event.kind : Event → EventKind
  | .connected _ => .connected
  | .disconnected _ _ => .disconnected
  | .reconnecting _ => .reconnecting

/-- What a subscriber takes. -/
inductive Notice where
  | event (e : Event)
  /-- So many events were missed. -/
  | lagged (missed : Nat)
  deriving DecidableEq, Repr

/-- The events published so far, the newest first, and how many of them the subscriber has
not yet taken. -/
structure EventLog where
  newestFirst : List Event
  unread : Nat
  deriving DecidableEq, Repr

namespace EventLog

/-- For how many events a subscriber has room. -/
def room : Nat := 64

/-- The log in which nothing is published. -/
def empty : EventLog := ⟨[], 0⟩

instance : Inhabited EventLog := ⟨empty⟩

/-- All events, oldest first. -/
def toList (l : EventLog) : List Event := l.newestFirst.reverse

/-- Publishes an event. -/
def publish (l : EventLog) (e : Event) : EventLog := ⟨e :: l.newestFirst, l.unread + 1⟩

/-- The latest `n` events, oldest first. -/
def latest (l : EventLog) (n : Nat) : List Event := (l.newestFirst.take n).reverse

/-- The subscriber takes what it has not yet taken. -/
def collect (l : EventLog) : List Notice × EventLog :=
  let missed := l.unread - room
  let held := (l.latest (min l.unread room)).map .event
  (if missed = 0 then held else .lagged missed :: held, { l with unread := 0 })

@[simp] theorem toList_empty : empty.toList = [] := rfl

@[simp] theorem toList_publish (l : EventLog) (e : Event) :
    (l.publish e).toList = l.toList ++ [e] := by
  simp [publish, toList]

@[simp] theorem toList_collect (l : EventLog) : l.collect.2.toList = l.toList := rfl

end EventLog

end SerialLink
