/-
No event is lost, repeated or put out of order on its way to an observer.

* `Observers.Request` and `Observers.serveAll`: a sequence of things asked of
  the observers;
* `Observers.registered`, `Observers.emitted` and `Observers.subscriptions`:
  what the sequence itself says about handlers, events and listeners;
* `Inbox.undergo`: what a request does to one inbox, and
  `Observers.getElem?_serve`: it does nothing else;
* `Inbox.attended_undergoAll`, `Inbox.linked_undergoAll` and
  `Observers.Waits.serveAll`: whether the listener of an inbox is there,
  whether it is linked, and which events wait in it;
* `Observers.linkCount_serve`: between two events the links change by new
  listeners only;
* `Observers.every_event_is_delivered`: all this for every sequence, from its
  beginning.

An event goes to all inboxes at once and drops some of them on the way. The
proofs follow one inbox at a time, told by its number, so that what happens
to the others does not come up.
-/
import Mathlib.Tactic
import Mathlib.Data.Nat.Count
import Mathlib.Data.Set.Card
import TapeDebugger.Proofs.Observers

namespace TapeDebugger

/-! ### Requests -/

namespace Observers

/-- What can be asked of the observers of a session. -/
inductive Request (η : Type) where
  /-- To register a handler. -/
  | register (handler : η)
  /-- To add a listener. -/
  | subscribe
  /-- To take a listener away. -/
  | dismiss (number : Nat)
  /-- To empty the inbox of a listener. -/
  | drain (number : Nat)
  /-- To tell all of them about an event. -/
  | emit (event : Event)

variable {η : Type}

/-- The handler that a request registers, if it does. -/
def Request.handler? : Request η → Option η
  | .register handler => some handler
  | _ => .none

/-- The event that a request tells about, if it does. -/
def Request.event? : Request η → Option Event
  | .emit event => some event
  | _ => .none

/-- Whether a request adds a listener. -/
def Request.isSubscribe : Request η → Bool
  | .subscribe => true
  | _ => false

/-- The handlers that requests register, in order. -/
def registered (requests : List (Request η)) : List η :=
  requests.filterMap Request.handler?

/-- The events that requests tell about, in order. -/
def emitted (requests : List (Request η)) : List Event :=
  requests.filterMap Request.event?

/-- The number of listeners that requests add. -/
def subscriptions (requests : List (Request η)) : Nat :=
  requests.countP Request.isSubscribe

lemma subscriptions_cons (r : Request η) (rest : List (Request η)) :
    subscriptions (r :: rest) =
      subscriptions rest + if r.isSubscribe then 1 else 0 :=
  List.countP_cons

/-- The listener with the given number was added by one of the requests, and
none of those after it has taken the listener away. -/
def Live (requests : List (Request η)) (number : Nat) : Prop :=
  ∃ before later, requests = before ++ .subscribe :: later ∧
    subscriptions before = number ∧ .dismiss number ∉ later

lemma emitted_eq_nil_iff {requests : List (Request η)} :
    emitted requests = [] ↔ ∀ event, .emit event ∉ requests := by
  rw [emitted, List.filterMap_eq_nil_iff]
  constructor
  · intro h event hmem
    exact absurd (h _ hmem) (by simp [Request.event?])
  · intro h r hr
    cases r with
    | emit event => exact absurd hr (h event)
    | _ => rfl

/-- The observers after a request. -/
def serve (o : Observers η) : Request η → Observers η
  | .register handler => o.register handler
  | .subscribe => o.subscribe.2
  | .dismiss number => (o.dismiss number).2
  | .drain number => (o.drain number).2
  | .emit event => o.emit event

/-- The observers after a sequence of requests. -/
def serveAll (o : Observers η) : List (Request η) → Observers η
  | [] => o
  | r :: rest => (o.serve r).serveAll rest

/-- The events that a request takes out of an inbox. -/
def drainedBy (o : Observers η) (number : Nat) : Request η → List Event
  | .drain other =>
      if other = number then (o.drain other).1.getD [] else []
  | _ => []

/-- The events that a sequence of requests takes out of an inbox, in
order. -/
def drained (o : Observers η) (number : Nat) :
    List (Request η) → List Event
  | [] => []
  | r :: rest => o.drainedBy number r ++ (o.serve r).drained number rest

end Observers

/-! ### One inbox -/

namespace Inbox

open Observers (Request emitted)

variable {η : Type} {i : Inbox} {number : Nat} {r : Request η}
  {requests : List (Request η)}

/-- What a request does to the inbox with the given number. -/
def undergo (number : Nat) (i : Inbox) : Request η → Inbox
  | .emit event => i.deliver event
  | .dismiss other =>
      if other = number ∧ i.attended = true then
        { i with attended := false, pending := [] }
      else i
  | .drain other =>
      if other = number ∧ i.attended = true then { i with pending := [] }
      else i
  | _ => i

/-- What a sequence of requests does to the inbox with the given number. -/
def undergoAll (number : Nat) (i : Inbox) (requests : List (Request η)) :
    Inbox :=
  requests.foldl (undergo number) i

lemma undergoAll_cons (number : Nat) (i : Inbox) (r : Request η)
    (rest : List (Request η)) :
    i.undergoAll number (r :: rest)
      = (i.undergo number r).undergoAll number rest := rfl

lemma attended_undergo :
    (i.undergo number r).attended = true ↔
      i.attended = true ∧ r ≠ .dismiss number := by
  cases r with
  | register | subscribe => simp [undergo]
  | drain other =>
      rw [undergo]
      split_ifs <;> simp
  | dismiss other =>
      rw [undergo]
      split_ifs with h
      · simp [h.1]
      · simp only [ne_eq, Request.dismiss.injEq]
        tauto
  | emit event =>
      rw [undergo, deliver]
      split_ifs <;> simp

/-- A listener is there until it is taken away. -/
lemma attended_undergoAll :
    (i.undergoAll number requests).attended = true ↔
      i.attended = true ∧ .dismiss number ∉ requests := by
  induction requests generalizing i with
  | nil => simp [undergoAll]
  | cons r rest ih =>
      rw [undergoAll_cons, ih, attended_undergo, List.mem_cons, not_or,
        and_assoc, ne_comm]

lemma linked_undergo :
    (i.undergo number r).linked = true ↔
      i.linked = true ∧ (r.event? = none ∨ i.attended = true) := by
  cases r with
  | register | subscribe => simp [undergo, Request.event?]
  | drain other | dismiss other =>
      rw [undergo]
      split_ifs <;> simp [Request.event?]
  | emit event =>
      rw [undergo, deliver]
      split_ifs with hattended hlinked <;> simp_all [Request.event?]

/-- Without its listener, an inbox is linked until the next event. -/
lemma linked_undergoAll_of_left (hi : i.attended = false) :
    (i.undergoAll number requests).linked = true ↔
      i.linked = true ∧ emitted requests = [] := by
  induction requests generalizing i with
  | nil => simp [undergoAll, emitted]
  | cons r rest ih =>
      have hleft : (i.undergo number r).attended = false := by
        rw [← Bool.not_eq_true, attended_undergo, hi]
        simp
      rw [undergoAll_cons, ih hleft, linked_undergo, hi, emitted, emitted,
        List.filterMap_cons]
      cases r.event? <;> simp

/-- **An inbox is unlinked by the first event after its listener was taken
away**, and by nothing else. -/
lemma linked_undergoAll (hi : i.attended = true) :
    (i.undergoAll number requests).linked = true ↔
      i.linked = true ∧
        ∀ event, ¬ [.dismiss number, .emit event].Sublist requests := by
  induction requests generalizing i with
  | nil => simp [undergoAll]
  | cons r rest ih =>
      have hlinked : (i.undergo number r).linked = true ↔ i.linked = true := by
        rw [linked_undergo, hi]
        simp
      by_cases hr : r = .dismiss number
      · subst hr
        have hleft : (i.undergo number (.dismiss number : Request η)).attended
            = false := by
          rw [← Bool.not_eq_true, attended_undergo]
          simp
        rw [undergoAll_cons, linked_undergoAll_of_left hleft, hlinked,
          Observers.emitted_eq_nil_iff]
        simp only [List.cons_sublist_cons, List.singleton_sublist]
      · have hattended : (i.undergo number r).attended = true :=
          attended_undergo.mpr ⟨hi, hr⟩
        rw [undergoAll_cons, ih hattended, hlinked]
        simp only [List.sublist_cons_iff, List.cons.injEq, Ne.symm hr,
          false_and, exists_false, or_false]

end Inbox

/-! ### All the inboxes -/

namespace Observers

variable {η : Type} {o : Observers η} {number : Nat} {i : Inbox}
  {r : Request η} {events : List Event}
  {requests before later : List (Request η)}

lemma length_inboxes_serve (o : Observers η) (r : Request η) :
    (o.serve r).inboxes.length =
      o.inboxes.length + if r.isSubscribe then 1 else 0 := by
  cases r with
  | register handler => rfl
  | subscribe => simp [serve, subscribe, Request.isSubscribe]
  | dismiss other =>
      rw [serve, dismiss]
      cases o.inbox? other <;> simp [Request.isSubscribe]
  | drain other =>
      rw [serve, drain]
      cases o.inbox? other <;> simp [Request.isSubscribe]
  | emit event => simp [serve, emit, Request.isSubscribe]

/-- A change to the inbox of one listener, if there is that listener. -/
lemma getElem?_change (h : o.inboxes[number]? = some i) (other : Nat)
    (f : Inbox → Inbox) :
    (match o.inbox? other with
      | some j => o.inboxes.set other (f j)
      | .none => o.inboxes)[number]? =
      some (if other = number ∧ i.attended = true then f i else i) := by
  obtain ⟨hlt, -⟩ := List.getElem?_eq_some_iff.mp h
  by_cases hother : other = number
  · subst hother
    cases hi : i.attended with
    | true =>
        rw [inbox?_eq_some_iff.mpr ⟨h, hi⟩]
        simp [hlt]
    | false =>
        have hnone : o.inbox? other = .none := by
          rw [inbox?, h]
          simp [hi]
        rw [hnone]
        simpa using h
  · rw [if_neg (fun hboth => hother hboth.1)]
    cases o.inbox? other with
    | none => exact h
    | some j => exact (List.getElem?_set_ne hother).trans h

/-- **A request does to an inbox what it does to that inbox alone.** -/
lemma getElem?_serve (h : o.inboxes[number]? = some i) (r : Request η) :
    (o.serve r).inboxes[number]? = some (i.undergo number r) := by
  obtain ⟨hlt, -⟩ := List.getElem?_eq_some_iff.mp h
  cases r with
  | register handler => exact h
  | subscribe =>
      rw [serve, subscribe, List.getElem?_append_left hlt]
      exact h
  | dismiss other =>
      have hchange := getElem?_change h other
        fun i => { i with attended := false, pending := [] }
      rw [serve, dismiss]
      cases hinbox : o.inbox? other <;> rw [hinbox] at hchange <;>
        exact hchange
  | drain other =>
      have hchange := getElem?_change h other
        fun i => { i with pending := [] }
      rw [serve, drain]
      cases hinbox : o.inbox? other <;> rw [hinbox] at hchange <;>
        exact hchange
  | emit event => simp [serve, emit, h, Inbox.undergo]

lemma getElem?_serveAll (h : o.inboxes[number]? = some i)
    (requests : List (Request η)) :
    (o.serveAll requests).inboxes[number]?
      = some (i.undergoAll number requests) := by
  induction requests generalizing o i with
  | nil => exact h
  | cons r rest ih => exact ih (getElem?_serve h r)

lemma serveAll_append (o : Observers η) (before later : List (Request η)) :
    o.serveAll (before ++ later) = (o.serveAll before).serveAll later := by
  induction before generalizing o with
  | nil => rfl
  | cons r rest ih => exact ih (o.serve r)

lemma length_inboxes_serveAll (o : Observers η)
    (requests : List (Request η)) :
    (o.serveAll requests).inboxes.length =
      o.inboxes.length + subscriptions requests := by
  induction requests generalizing o with
  | nil => rfl
  | cons r rest ih =>
      rw [serveAll, ih, length_inboxes_serve, subscriptions_cons]
      omega

/-- Listeners are numbered in the order in which they are added. -/
lemma length_inboxes_none_serveAll (requests : List (Request η)) :
    (Observers.none.serveAll requests).inboxes.length
      = subscriptions requests := by
  rw [length_inboxes_serveAll]
  exact Nat.zero_add _

/-- From its beginning on, an inbox sees the requests after the one that added
its listener. -/
lemma getElem?_of_subscribed (before later : List (Request η)) :
    (Observers.none.serveAll
        (before ++ .subscribe :: later)).inboxes[subscriptions before]? =
      some (Inbox.fresh.undergoAll (subscriptions before) later) := by
  rw [serveAll_append, serveAll]
  refine getElem?_serveAll ?_ later
  rw [← length_inboxes_none_serveAll before]
  simp [serve, subscribe]

/-- Every number below the number of listeners belongs to one of them. -/
lemma exists_subscription (h : number < subscriptions requests) :
    ∃ before later, requests = before ++ .subscribe :: later ∧
      subscriptions before = number := by
  induction requests generalizing number with
  | nil => exact absurd h (Nat.not_lt_zero number)
  | cons r rest ih =>
      rw [subscriptions_cons] at h
      cases hr : r.isSubscribe with
      | false =>
          obtain ⟨before, later, rfl, hbefore⟩ := ih (by simpa [hr] using h)
          refine ⟨r :: before, later, rfl, ?_⟩
          rw [subscriptions_cons, hr]
          exact hbefore
      | true =>
          cases number with
          | zero =>
              cases r with
              | subscribe => exact ⟨[], rest, rfl, rfl⟩
              | _ => exact absurd hr (by simp [Request.isSubscribe])
          | succ number =>
              obtain ⟨before, later, rfl, hbefore⟩ :=
                ih (by simpa [hr] using h)
              refine ⟨r :: before, later, rfl, ?_⟩
              rw [subscriptions_cons, hr, hbefore]
              rfl

/-! ### The events of a listener -/

/-- The listener with the given number is there and linked, and these events
wait for it, the oldest first. -/
def Waits (o : Observers η) (number : Nat) (events : List Event) : Prop :=
  o.inboxes[number]? = some ⟨true, true, events.reverse⟩

/-- A request that does not take the listener away moves its events: what is
taken out and what still waits is what waited before and the event told
about. -/
lemma Waits.serve (h : o.Waits number events) (hne : r ≠ .dismiss number) :
    ∃ left, (o.serve r).Waits number left ∧
      o.drainedBy number r ++ left = events ++ r.event?.toList := by
  have hafter := getElem?_serve h r
  cases r with
  | register | subscribe =>
      exact ⟨events, hafter, by simp [Request.event?, drainedBy]⟩
  | dismiss other =>
      have hother : other ≠ number := fun heq => hne (by rw [heq])
      rw [Inbox.undergo, if_neg (fun hboth => hother hboth.1)] at hafter
      exact ⟨events, hafter, by simp [Request.event?, drainedBy]⟩
  | drain other =>
      by_cases hother : other = number
      · subst hother
        rw [Inbox.undergo, if_pos ⟨rfl, rfl⟩] at hafter
        refine ⟨[], hafter, ?_⟩
        rw [drainedBy, if_pos rfl, drain, inbox?_eq_some_iff.mpr ⟨h, rfl⟩]
        simp [Request.event?]
      · rw [Inbox.undergo, if_neg (fun hboth => hother hboth.1)] at hafter
        exact ⟨events, hafter, by simp [Request.event?, drainedBy, hother]⟩
  | emit event =>
      refine ⟨events ++ [event], ?_, by simp [Request.event?, drainedBy]⟩
      rw [Waits, List.reverse_append]
      exact hafter

/-- **No event is lost or repeated**: as long as the listener is there, what
it has taken out and what waits for it is what waited before and all the
events since, in order. -/
lemma Waits.serveAll (h : o.Waits number events)
    (hnot : .dismiss number ∉ requests) :
    ∃ left, (o.serveAll requests).Waits number left ∧
      o.drained number requests ++ left = events ++ emitted requests := by
  induction requests generalizing o events with
  | nil => exact ⟨events, h, by simp [drained, emitted]⟩
  | cons r rest ih =>
      obtain ⟨hne, hrest⟩ := List.ne_and_not_mem_of_not_mem_cons hnot
      obtain ⟨middle, hmiddle, hfirst⟩ := h.serve (Ne.symm hne)
      obtain ⟨left, hleft, hlater⟩ := ih hmiddle hrest
      refine ⟨left, hleft, ?_⟩
      have hemitted : emitted (r :: rest)
          = r.event?.toList ++ emitted rest := by
        rw [emitted, List.filterMap_cons]
        cases r.event? <;> rfl
      rw [drained, List.append_assoc, hlater, ← List.append_assoc, hfirst,
        List.append_assoc, hemitted]

lemma drained_append (o : Observers η) (number : Nat)
    (before later : List (Request η)) :
    o.drained number (before ++ later) =
      o.drained number before ++ (o.serveAll before).drained number later := by
  induction before generalizing o with
  | nil => rfl
  | cons r rest ih =>
      rw [List.cons_append, drained, ih, drained, serveAll, List.append_assoc]

/-- Nothing is taken out of an inbox before there is its listener. -/
lemma drained_of_no_inbox
    (h : o.inboxes.length + subscriptions requests ≤ number) :
    o.drained number requests = [] := by
  induction requests generalizing o with
  | nil => rfl
  | cons r rest ih =>
      rw [subscriptions_cons] at h
      rw [drained, ih (by rw [length_inboxes_serve]; omega),
        List.append_nil]
      cases r with
      | drain other =>
          rw [drainedBy]
          split_ifs with hother
          · subst hother
            have hnone : o.inbox? other = .none := by
              rw [inbox?, List.getElem?_eq_none (by omega)]
              rfl
            rw [drain, hnone]
            rfl
          · rfl
      | _ => rfl

/-- **Delivery to one listener**: from when it was added, as long as it is
there, it has taken out or has waiting all the events there were, in
order. -/
lemma waits_of_subscribed (before : List (Request η))
    (hnot : .dismiss (subscriptions before) ∉ later) :
    let requests := before ++ .subscribe :: later
    ∃ left, (Observers.none.serveAll requests).Waits
        (subscriptions before) left ∧
      Observers.none.drained (subscriptions before) requests ++ left
        = emitted later := by
  intro requests
  have hfresh : ((Observers.none.serveAll before).serve .subscribe).Waits
      (subscriptions before) [] := by
    have hget := getElem?_of_subscribed before []
    rwa [serveAll_append] at hget
  obtain ⟨left, hleft, hevents⟩ := hfresh.serveAll hnot
  refine ⟨left, ?_, ?_⟩
  · rw [serveAll_append]
    exact hleft
  · have hbefore : Observers.none.drained (subscriptions before) before = [] :=
      drained_of_no_inbox (Nat.zero_add _).le
    rw [drained_append, hbefore]
    exact hevents

/-! ### Who is there -/

/-- The listeners that are there are those that were added and not taken
away. -/
lemma live_iff :
    Live requests number ↔
      ∃ i, (Observers.none.serveAll requests).inboxes[number]? = some i ∧
        i.attended = true := by
  constructor
  · rintro ⟨before, later, rfl, rfl, hnot⟩
    exact ⟨_, getElem?_of_subscribed before later,
      Inbox.attended_undergoAll.mpr ⟨rfl, hnot⟩⟩
  · rintro ⟨i, hi, hattended⟩
    obtain ⟨hlt, -⟩ := List.getElem?_eq_some_iff.mp hi
    rw [length_inboxes_none_serveAll] at hlt
    obtain ⟨before, later, rfl, rfl⟩ := exists_subscription hlt
    rw [getElem?_of_subscribed, Option.some.injEq] at hi
    rw [← hi] at hattended
    exact ⟨before, later, rfl, rfl,
      (Inbox.attended_undergoAll.mp hattended).2⟩

/-- A listener is there as long as no request takes it away. -/
lemma isSome_inbox?_of_subscribed (before later : List (Request η)) :
    ((Observers.none.serveAll (before ++ .subscribe :: later)).inbox?
        (subscriptions before)).isSome = true ↔
      .dismiss (subscriptions before) ∉ later := by
  rw [inbox?, getElem?_of_subscribed, Option.isSome_filter, Option.any_some]
  exact Inbox.attended_undergoAll.trans (and_iff_right rfl)

/-- What it has taken out and what waits for it are the events since it was
added. -/
lemma drained_append_pending {inbox : Inbox}
    (h : (Observers.none.serveAll (before ++ .subscribe :: later)).inbox?
      (subscriptions before) = some inbox) :
    Observers.none.drained (subscriptions before)
        (before ++ .subscribe :: later) ++ inbox.pending.reverse
      = emitted later := by
  have hnot := (isSome_inbox?_of_subscribed before later).mp
    (Option.isSome_iff_exists.mpr ⟨inbox, h⟩)
  obtain ⟨left, hleft, hevents⟩ := waits_of_subscribed before hnot
  obtain rfl := Option.some.inj
    ((inbox?_eq_some_iff.mp h).1.symm.trans hleft)
  rw [← hevents, List.reverse_reverse]

/-- A listener that is there is linked. -/
lemma linked_of_attended
    (hi : (Observers.none.serveAll requests).inboxes[number]? = some i)
    (hattended : i.attended = true) : i.linked = true := by
  obtain ⟨before, later, rfl, rfl, hnot⟩ := live_iff.mpr ⟨i, hi, hattended⟩
  obtain ⟨left, hleft, -⟩ := waits_of_subscribed before hnot
  obtain rfl := Option.some.inj (hi.symm.trans hleft)
  rfl

/-- The places of a list at which a property holds are as many as the members
that have it. -/
lemma ncard_places {α : Type*} (p : α → Bool) (l : List α) :
    {n : Nat | ∃ a, l[n]? = some a ∧ p a = true}.ncard = l.countP p := by
  induction l using List.reverseRecOn with
  | nil => simp
  | append_singleton l a ih =>
      set places := {n : Nat | ∃ a, l[n]? = some a ∧ p a = true} with hplaces
      have hbound : places ⊆ Set.Iio l.length :=
        fun n ⟨_, hn, _⟩ => (List.getElem?_eq_some_iff.mp hn).1
      have hfinite : places.Finite := (Set.finite_Iio l.length).subset hbound
      have hlast : l.length ∉ places := fun hmem =>
        Nat.lt_irrefl l.length (hbound hmem)
      have hnew : {n : Nat | ∃ b, (l ++ [a])[n]? = some b ∧ p b = true}
          = if p a then insert l.length places else places := by
        ext n
        rcases lt_trichotomy n l.length with hlt | rfl | hgt
        · rw [Set.mem_ofPred_eq, List.getElem?_append_left hlt]
          split_ifs
          · simp [hplaces, hlt.ne]
          · rfl
        · split_ifs with ha <;> simp [hlast, ha]
        · have hnone : (l ++ [a])[n]? = .none :=
            List.getElem?_eq_none (by simpa using hgt)
          have hnot : n ∉ places := fun hmem => hgt.not_gt (hbound hmem)
          split_ifs <;> simp [hnone, hnot, hgt.ne']
      rw [hnew, List.countP_append, List.countP_singleton, ← ih]
      split_ifs
      · exact Set.ncard_insert_of_notMem hlast hfinite
      · rfl

/-! ### Links -/

/-- Without an event, the links change by new listeners only. -/
lemma linkCount_serve (h : r.event? = .none) :
    (o.serve r).linkCount =
      o.linkCount + if r.isSubscribe then 1 else 0 := by
  have hset : ∀ {other : Nat} {i j : Inbox}, o.inbox? other = some i →
      j.linked = i.linked →
      (o.inboxes.set other j).countP (·.linked) = o.linkCount := by
    intro other i j hi hsame
    have hi := (inbox?_eq_some_iff.mp hi).1
    obtain ⟨hlt, hget⟩ := List.getElem?_eq_some_iff.mp hi
    rw [List.countP_set hlt, hget, hsame, linkCount]
    split_ifs with hlinked
    · exact Nat.sub_add_cancel
        (List.countP_pos_iff.mpr ⟨i, List.mem_of_getElem? hi, hlinked⟩)
    · rfl
  cases r with
  | register handler => rfl
  | subscribe =>
      simp [serve, subscribe, linkCount, Request.isSubscribe, Inbox.fresh]
  | dismiss other =>
      rw [serve, dismiss]
      cases hi : o.inbox? other with
      | none => rfl
      | some i => exact hset hi rfl
  | drain other =>
      rw [serve, drain]
      cases hi : o.inbox? other with
      | none => rfl
      | some i => exact hset hi rfl
  | emit event => exact absurd h (by simp [Request.event?])

lemma linkCount_serveAll (h : emitted requests = []) :
    (o.serveAll requests).linkCount = o.linkCount + subscriptions requests := by
  induction requests generalizing o with
  | nil => rfl
  | cons r rest ih =>
      rw [emitted, List.filterMap_cons] at h
      cases hr : r.event? with
      | some event => simp [hr] at h
      | none =>
          rw [hr] at h
          rw [serveAll, ih h, linkCount_serve hr, subscriptions_cons]
          omega

/-- Behind an event, just the listeners that are there are linked. -/
lemma linkCount_emit (requests : List (Request η)) (event : Event) :
    ((Observers.none.serveAll requests).emit event).linkCount
      = {number | Live requests number}.ncard := by
  have hdeliver : ∀ i ∈ (Observers.none.serveAll requests).inboxes,
      (i.deliver event).linked = true ↔ i.attended = true := by
    intro i hi
    obtain ⟨number, hnumber⟩ := List.mem_iff_getElem?.mp hi
    rw [Inbox.deliver]
    cases hattended : i.attended with
    | false => simp
    | true => simp [linked_of_attended hnumber hattended]
  simp only [live_iff]
  rw [linkCount, emit, List.countP_map,
    ncard_places (fun i : Inbox => i.attended)]
  exact List.countP_congr hdeliver

/-! ### Handlers -/

lemma handlers_serveAll (o : Observers η) (requests : List (Request η)) :
    (o.serveAll requests).handlers
      = o.handlers ++ registered requests := by
  induction requests generalizing o with
  | nil => simp [serveAll, registered]
  | cons r rest ih =>
      have hserve : (o.serve r).handlers = o.handlers ++ r.handler?.toList := by
        cases r with
        | register | subscribe | emit =>
            simp [serve, register, subscribe, emit, Request.handler?]
        | dismiss other =>
            rw [serve, dismiss]
            cases o.inbox? other <;> simp [Request.handler?]
        | drain other =>
            rw [serve, drain]
            cases o.inbox? other <;> simp [Request.handler?]
      rw [serveAll, ih, hserve, registered, registered, List.filterMap_cons,
        List.append_assoc]
      cases r.handler? <;> rfl

/-- Handlers run at events only. -/
lemma calls_serve (h : r.event? = .none) : (o.serve r).calls = o.calls := by
  cases r with
  | register | subscribe => rfl
  | dismiss other =>
      rw [serve, dismiss]
      cases o.inbox? other <;> rfl
  | drain other =>
      rw [serve, drain]
      cases o.inbox? other <;> rfl
  | emit event => exact absurd h (by simp [Request.event?])

/-- **Every event is delivered**, whatever is asked of the observers and in
what order.

* An event runs the handlers registered before it, each as often as it was
  registered and in that order, and nothing else runs a handler.
* The listeners are numbered as they are added, and each is there until it is
  taken away. What a listener that is there has taken out, and what waits for
  it, are together the events since it was added, in order. It is linked until
  the first event after it was taken away.
* Behind an event, the links are those of the listeners that are there and of
  the ones added since; before the first event they are those of all the
  listeners. -/
theorem every_event_is_delivered (requests : List (Request η)) :
    let o := Observers.none.serveAll requests
    ((∀ event, (o.emit event).history = o.history ++ registered requests) ∧
      ∀ r : Request η, r.event? = .none →
        (o.serve r).history = o.history) ∧
    (∀ before later, requests = before ++ .subscribe :: later →
      let number := subscriptions before
      (Observers.none.serveAll before).subscribe.1 = number ∧
        ((o.inbox? number).isSome = true ↔ .dismiss number ∉ later) ∧
        (∀ inbox, o.inbox? number = some inbox →
          Observers.none.drained number requests ++ inbox.pending.reverse
            = emitted later) ∧
        ∃ inbox, o.inboxes[number]? = some inbox ∧
          (inbox.linked = true ↔
            ∀ event, ¬ [.dismiss number, .emit event].Sublist later)) ∧
    (∀ before event later, requests = before ++ .emit event :: later →
      emitted later = [] →
        o.linkCount
          = {number | Live before number}.ncard + subscriptions later) ∧
    (emitted requests = [] → o.linkCount = subscriptions requests) := by
  intro o
  refine ⟨⟨fun event => ?_, fun r hr => ?_⟩, ?_, ?_, fun h => ?_⟩
  · rw [history, history, emit, List.reverse_append, List.reverse_reverse,
      handlers_serveAll]
    rfl
  · rw [history, history, calls_serve hr]
  · rintro before later rfl number
    refine ⟨length_inboxes_none_serveAll before,
      isSome_inbox?_of_subscribed before later,
      fun inbox => drained_append_pending,
      _, getElem?_of_subscribed before later, ?_⟩
    exact (Inbox.linked_undergoAll rfl).trans (and_iff_right rfl)
  · rintro before event later rfl hlater
    have hrun : o = ((Observers.none.serveAll before).emit event).serveAll
        later := serveAll_append _ _ _
    rw [hrun, linkCount_serveAll hlater, linkCount_emit]
  · exact (linkCount_serveAll h).trans (Nat.zero_add _)

end Observers

end TapeDebugger
