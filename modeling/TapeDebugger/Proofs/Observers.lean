/-
What observers are told, update by update.

* `Observers.updated`: the observers after a number of updates;
* `Observers.count_calls_updated`: every handler runs once for each update;
* `Observers.Holds`: a listener is there, and so many events wait for it;
* `Observers.Holds.updated`, `Observers.Holds.drain_self` and the lemmas
  beside them: what each operation does to the events that wait.

An inbox is linked as long as its listener is there. Nothing that happens to
other listeners touches it.
-/
import Mathlib.Tactic
import TapeDebugger.Observers

namespace TapeDebugger

namespace Observers

variable {η : Type} {o : Observers η} {number other pending : Nat}

/-! ### Several updates -/

/-- The observers after `n` updates. -/
def updated : (n : Nat) → Observers η → Observers η
  | 0, o => o
  | n + 1, o => updated n (o.emit .update)

@[simp]
lemma updated_zero (o : Observers η) : updated 0 o = o := rfl

lemma updated_add (n k : Nat) (o : Observers η) :
    updated (n + k) o = updated k (updated n o) := by
  induction n generalizing o with
  | zero => rw [Nat.zero_add, updated_zero]
  | succ n ih =>
      rw [Nat.succ_add_eq_add_succ, Nat.add_succ, updated, ih, updated]

/-! ### Handlers -/

@[simp]
lemma handlers_updated (n : Nat) (o : Observers η) :
    (updated n o).handlers = o.handlers := by
  induction n generalizing o with
  | zero => rfl
  | succ n ih => exact ih (o.emit .update)

/-- Every handler runs once for each update. -/
lemma count_calls_updated [DecidableEq η] (n : Nat) (o : Observers η)
    (handler : η) :
    (updated n o).calls.count handler =
      o.calls.count handler + n * o.handlers.count handler := by
  induction n generalizing o with
  | zero => simp
  | succ n ih =>
      have hemit : (o.emit .update).calls.count handler
          = o.handlers.count handler + o.calls.count handler := by
        rw [emit, List.count_append, List.count_reverse]
      have hhandlers : (o.emit .update).handlers = o.handlers := rfl
      rw [updated, ih, hemit, hhandlers]
      ring

/-! ### Listeners -/

/-- The listener with the given number is there, events are sent to it, and
so many wait to be taken. -/
def Holds (o : Observers η) (number pending : Nat) : Prop :=
  ∃ i, o.inbox? number = some i ∧ i.linked = true ∧
    i.pending.length = pending

lemma inbox?_eq_some_iff {i : Inbox} :
    o.inbox? number = some i ↔
      o.inboxes[number]? = some i ∧ i.attended = true := by
  rw [inbox?, Option.filter_eq_some_iff]

/-- Where the inbox is the same, as many events wait. -/
lemma Holds.of_getElem? {o' : Observers η} (h : o.Holds number pending)
    (heq : o'.inboxes[number]? = o.inboxes[number]?) :
    o'.Holds number pending := by
  obtain ⟨i, hi, hlinked, hlength⟩ := h
  refine ⟨i, ?_, hlinked, hlength⟩
  rw [inbox?, heq]
  exact hi

/-- Nothing waits for a new listener. -/
lemma holds_subscribe (o : Observers η) :
    o.subscribe.2.Holds o.subscribe.1 0 := by
  refine ⟨.fresh, inbox?_eq_some_iff.mpr ⟨?_, rfl⟩, rfl, rfl⟩
  simp [subscribe]

lemma Holds.register (h : o.Holds number pending) (handler : η) :
    (o.register handler).Holds number pending :=
  h.of_getElem? rfl

lemma Holds.subscribe (h : o.Holds number pending) :
    o.subscribe.2.Holds number pending := by
  refine h.of_getElem? ?_
  obtain ⟨i, hi, -⟩ := h
  obtain ⟨hlt, -⟩ :=
    List.getElem?_eq_some_iff.mp (inbox?_eq_some_iff.mp hi).1
  simp [Observers.subscribe, List.getElem?_append_left hlt]

lemma Holds.emit (h : o.Holds number pending) (event : Event) :
    (o.emit event).Holds number (pending + 1) := by
  obtain ⟨i, hi, hlinked, hlength⟩ := h
  obtain ⟨hget, hattended⟩ := inbox?_eq_some_iff.mp hi
  have hdeliver : i.deliver event
      = { i with pending := event :: i.pending } := by
    rw [Inbox.deliver, if_pos hattended, if_pos hlinked]
  refine ⟨i.deliver event, inbox?_eq_some_iff.mpr ⟨?_, ?_⟩, ?_, ?_⟩
  · simp [Observers.emit, hget]
  · rw [hdeliver]
    exact hattended
  · rw [hdeliver]
    exact hlinked
  · rw [hdeliver, List.length_cons, hlength]

/-- Every update adds one to the events that wait. -/
lemma Holds.updated (h : o.Holds number pending) (n : Nat) :
    (Observers.updated n o).Holds number (pending + n) := by
  induction n generalizing o pending with
  | zero => exact h
  | succ n ih =>
      have hcount : pending + (n + 1) = pending + 1 + n := by omega
      rw [hcount]
      exact ih (h.emit .update)

/-- All the events that wait are taken out, and none is left. -/
lemma Holds.drain_self (h : o.Holds number pending) :
    ∃ events, (o.drain number).1 = some events ∧
      events.length = pending ∧ (o.drain number).2.Holds number 0 := by
  obtain ⟨i, hi, hlinked, hlength⟩ := h
  obtain ⟨hget, hattended⟩ := inbox?_eq_some_iff.mp hi
  obtain ⟨hlt, -⟩ := List.getElem?_eq_some_iff.mp hget
  rw [drain, hi]
  refine ⟨i.pending.reverse, rfl, by rw [List.length_reverse, hlength],
    { i with pending := [] }, inbox?_eq_some_iff.mpr ⟨?_, hattended⟩,
    hlinked, rfl⟩
  simp [hlt]

lemma Holds.drain_of_ne (h : o.Holds number pending)
    (hne : other ≠ number) : (o.drain other).2.Holds number pending := by
  refine h.of_getElem? ?_
  rw [drain]
  cases o.inbox? other with
  | none => rfl
  | some i => exact List.getElem?_set_ne hne

lemma Holds.dismiss_of_ne (h : o.Holds number pending)
    (hne : other ≠ number) : (o.dismiss other).2.Holds number pending := by
  refine h.of_getElem? ?_
  rw [dismiss]
  cases o.inbox? other with
  | none => rfl
  | some i => exact List.getElem?_set_ne hne

end Observers

end TapeDebugger
