/-
Who is told about the events of a session:

* `Event`: the one event there is;
* `Inbox`: a queue of events that a listener empties when it likes;
* `Observers`: handlers, which run at once, and inboxes;
* `Observers.emit`: tells all of them about an event.

A listener that goes away is noticed by the next event and not before: the
inbox stays linked until an event finds nobody there.
-/

namespace TapeDebugger

/-- An event of a session. -/
inductive Event where
  /-- The state of the session has changed. -/
  | update
  deriving DecidableEq, Repr

/-- The name of an event. -/
def Event.name : Event → String
  | .update => "update"

/-! ### Inboxes -/

/-- A queue of events between the session and one listener. -/
structure Inbox where
  /-- Whether the listener is still there. -/
  attended : Bool
  /-- Whether events are still sent to the inbox. -/
  linked : Bool
  /-- The events not yet taken, the latest first. -/
  pending : List Event
  deriving DecidableEq, Repr

namespace Inbox

/-- The inbox of a new listener. -/
def fresh : Inbox := ⟨true, true, []⟩

/-- Sends an event. An inbox that nobody attends is unlinked by the first
event that it cannot take. -/
def deliver (event : Event) (i : Inbox) : Inbox :=
  if i.attended then
    if i.linked then { i with pending := event :: i.pending } else i
  else { i with linked := false }

end Inbox

/-! ### Observers -/

/-- The observers of a session; each handler is known by a label. -/
structure Observers (η : Type) where
  /-- The handlers in the order in which they were registered. -/
  handlers : List η
  /-- The handlers that ran so far, the latest first. -/
  calls : List η
  /-- The inboxes, numbered from zero in the order of their listeners. -/
  inboxes : List Inbox

namespace Observers

variable {η : Type}

/-- No observers. -/
def none : Observers η := ⟨[], [], []⟩

/-- Registers a handler. -/
def register (o : Observers η) (handler : η) : Observers η :=
  { o with handlers := o.handlers ++ [handler] }

/-- Adds a listener and gives the number of its inbox. -/
def subscribe (o : Observers η) : Nat × Observers η :=
  (o.inboxes.length, { o with inboxes := o.inboxes ++ [.fresh] })

/-- The inbox with the given number, if its listener is still there. -/
def inbox? (o : Observers η) (number : Nat) : Option Inbox :=
  o.inboxes[number]?.filter (·.attended)

/-- Takes a listener away and says whether it was there. -/
def dismiss (o : Observers η) (number : Nat) : Bool × Observers η :=
  match o.inbox? number with
  | some i =>
      let i := { i with attended := false, pending := [] }
      (true, { o with inboxes := o.inboxes.set number i })
  | .none => (false, o)

/-- Takes all events out of an inbox, the oldest first; `none` if its
listener is not there. -/
def drain (o : Observers η) (number : Nat) :
    Option (List Event) × Observers η :=
  match o.inbox? number with
  | some i =>
      let emptied := { i with pending := [] }
      (some i.pending.reverse,
        { o with inboxes := o.inboxes.set number emptied })
  | .none => (.none, o)

/-- Runs every handler in the order of registration, then sends the event to
every inbox. -/
def emit (o : Observers η) (event : Event) : Observers η :=
  { o with
    calls := o.handlers.reverse ++ o.calls
    inboxes := o.inboxes.map (Inbox.deliver event) }

/-- The handlers that ran so far, the earliest first. -/
def history (o : Observers η) : List η :=
  o.calls.reverse

/-- The number of inboxes that events are sent to. -/
def linkCount (o : Observers η) : Nat :=
  o.inboxes.countP (·.linked)

end Observers

end TapeDebugger
