/-
The updates that observers are told about, command by command.

* `Command.updates`: how many updates belong to a command and its reply;
* `Session.Effect.observers_eq`: a command tells the observers so many times
  and does nothing else to them;
* `Session.updatesOver` and `Session.drainedOver`: the updates of a sequence
  of requests, and the events taken out of one inbox by it;
* `Session.count_calls_serveAll` and `Session.holds_serveAll`: the accounts
  of a handler and of a listener over a sequence of requests;
* `Session.update_ledger`: both accounts from their beginning.
-/
import Mathlib.Tactic
import TapeDebugger.Proofs.Observers
import TapeDebugger.Proofs.Session.Coherence

namespace TapeDebugger

/-- The number of updates that belong to a command with the given reply, if
`active` is the mode of the timed run before it. There is none for a refusal,
for the beginning of a timed run and for a poll that finds nothing due; a
batch after which the run goes on has one in continuous mode only. -/
def Command.updates (active : Option RunMode) : Command → Reply → Nat
  | _, .failed (.rejected _) => 0
  | .runToEnd, _ => 0
  | .runToBreakpoint, _ => 0
  | .poll, .polled none => 0
  | .poll, .polled (some .yielded) => active.elim 0 RunMode.updatesOnYield
  | _, _ => 1

namespace Session

variable {s s' : Session} {now : Time} {c : Command} {reply : Reply}
  {handler number pending : Nat} {r : Request}

/-! ### One command -/

/-- **A command tells the observers as often as its reply says**, and does
nothing else to them. -/
lemma Effect.observers_eq (h : Effect now s c reply s') :
    s'.observers
      = s.observers.updated (c.updates s.schedule.active reply) := by
  cases h with
  | refused => cases c <;> rfl
  | loaded => rfl
  | @stepped _ _ k f? m _ hc _ _ hreply =>
      subst hreply
      obtain rfl | ⟨count, rfl⟩ := hc <;> cases f? <;> rfl
  | @armed _ mode _ hc =>
      subst hc
      cases mode <;> rfl
  | paused => rfl
  | stopped => rfl
  | waited => rfl
  | yielded hactive =>
      rw [hactive]
      rfl
  | @ended mode outcome m _ _ hend =>
      cases outcome with
      | yielded => exact absurd rfl hend
      | _ => rfl

lemma observers_perform (s : Session) (now : Time) (c : Command) :
    (s.perform now c).2.observers = s.observers.updated
      (c.updates s.schedule.active (s.perform now c).1) :=
  (effect_of_perform rfl).observers_eq

/-! ### Sequences of requests -/

/-- The number of updates of a request. -/
def updatesMade (s : Session) : Request → Nat
  | .command now c => c.updates s.schedule.active (s.perform now c).1
  | _ => 0

/-- The number of updates of a sequence of requests. -/
def updatesOver (s : Session) : List Request → Nat
  | [] => 0
  | r :: rest => s.updatesMade r + (s.serve r).updatesOver rest

/-- The number of events that a request takes out of an inbox. -/
def drainedBy (s : Session) (number : Nat) : Request → Nat
  | .drain other =>
      if other = number then ((s.observers.drain number).1.getD []).length
      else 0
  | _ => 0

/-- The number of events that a sequence of requests takes out of an
inbox. -/
def drainedOver (s : Session) (number : Nat) : List Request → Nat
  | [] => 0
  | r :: rest => s.drainedBy number r + (s.serve r).drainedOver number rest

/-! ### The account of a handler -/

/-- A request calls a handler once for each update, as often as it is
registered. -/
lemma count_calls_serve (s : Session) (handler : Nat) (r : Request) :
    (s.serve r).observers.calls.count handler =
      s.observers.calls.count handler
        + s.updatesMade r * s.observers.handlers.count handler := by
  cases r with
  | command now c =>
      rw [serve, observers_perform, updatesMade,
        Observers.count_calls_updated]
  | register other => simp [serve, updatesMade, Observers.register]
  | subscribe => simp [serve, updatesMade, Observers.subscribe]
  | drain other =>
      rw [serve, Observers.drain]
      cases s.observers.inbox? other <;> simp [updatesMade]
  | dismiss other =>
      rw [serve, Observers.dismiss]
      cases s.observers.inbox? other <;> simp [updatesMade]

/-- A request other than its registration leaves a handler registered as
often as it was. -/
lemma count_handlers_serve (hne : r ≠ .register handler) :
    (s.serve r).observers.handlers.count handler
      = s.observers.handlers.count handler := by
  cases r with
  | command now c =>
      rw [serve, observers_perform, Observers.handlers_updated]
  | register other =>
      have hother : other ≠ handler := fun h => hne (by rw [h])
      simp [serve, Observers.register, hother]
  | subscribe => rfl
  | drain other =>
      rw [serve, Observers.drain]
      cases s.observers.inbox? other <;> rfl
  | dismiss other =>
      rw [serve, Observers.dismiss]
      cases s.observers.inbox? other <;> rfl

lemma count_handlers_serveAll {requests : List Request}
    (hnot : Request.register handler ∉ requests) :
    (s.serveAll requests).observers.handlers.count handler
      = s.observers.handlers.count handler := by
  induction requests generalizing s with
  | nil => rfl
  | cons r rest ih =>
      obtain ⟨hne, hrest⟩ := List.ne_and_not_mem_of_not_mem_cons hnot
      rw [serveAll, ih hrest, count_handlers_serve (Ne.symm hne)]

lemma count_calls_serveAll {requests : List Request}
    (hnot : Request.register handler ∉ requests) :
    (s.serveAll requests).observers.calls.count handler =
      s.observers.calls.count handler
        + s.updatesOver requests * s.observers.handlers.count handler := by
  induction requests generalizing s with
  | nil => simp [serveAll, updatesOver]
  | cons r rest ih =>
      obtain ⟨hne, hrest⟩ := List.ne_and_not_mem_of_not_mem_cons hnot
      rw [serveAll, updatesOver, ih hrest, count_calls_serve,
        count_handlers_serve (Ne.symm hne)]
      ring

/-! ### The account of a listener -/

/-- A request that does not take the listener away moves its events: what is
taken out and what still waits is what waited before and the updates. -/
lemma holds_serve (h : s.observers.Holds number pending)
    (hne : r ≠ .dismiss number) :
    ∃ left, (s.serve r).observers.Holds number left ∧
      s.drainedBy number r + left = pending + s.updatesMade r := by
  cases r with
  | command now c =>
      refine ⟨pending + s.updatesMade (.command now c), ?_, Nat.zero_add _⟩
      rw [serve, observers_perform]
      exact h.updated _
  | register other =>
      exact ⟨pending, h.register other, Nat.zero_add pending⟩
  | subscribe => exact ⟨pending, h.subscribe, Nat.zero_add pending⟩
  | drain other =>
      by_cases hother : other = number
      · subst hother
        obtain ⟨events, hevents, hlength, hleft⟩ := h.drain_self
        refine ⟨0, hleft, ?_⟩
        rw [drainedBy, if_pos rfl, hevents, ← hlength]
        rfl
      · refine ⟨pending, h.drain_of_ne hother, ?_⟩
        rw [drainedBy, if_neg hother, Nat.zero_add]
        rfl
  | dismiss other =>
      have hother : other ≠ number := fun heq => hne (by rw [heq])
      exact ⟨pending, h.dismiss_of_ne hother, Nat.zero_add pending⟩

lemma holds_serveAll (h : s.observers.Holds number pending)
    {requests : List Request} (hnot : Request.dismiss number ∉ requests) :
    ∃ left, (s.serveAll requests).observers.Holds number left ∧
      s.drainedOver number requests + left
        = pending + s.updatesOver requests := by
  induction requests generalizing s pending with
  | nil => exact ⟨pending, h, Nat.zero_add pending⟩
  | cons r rest ih =>
      obtain ⟨hne, hrest⟩ := List.ne_and_not_mem_of_not_mem_cons hnot
      obtain ⟨middle, hmiddle, hfirst⟩ := holds_serve h (Ne.symm hne)
      obtain ⟨left, hleft, hlater⟩ := ih hmiddle hrest
      refine ⟨left, hleft, ?_⟩
      rw [drainedOver, updatesOver]
      omega

/-! ### The ledger -/

/-- A handler that was never registered has never run. -/
lemma count_of_not_registered (config : Config) {requests : List Request}
    (hnot : Request.register handler ∉ requests) :
    ((new config).serveAll requests).observers.handlers.count handler = 0 ∧
      ((new config).serveAll requests).observers.calls.count handler = 0 := by
  rw [count_handlers_serveAll hnot, count_calls_serveAll hnot]
  simp [new, Observers.none]

/-- **The updates can be accounted for.** In every session that a host can
come to, a command tells the observers exactly as often as its reply says. A
handler that is registered at any moment, so also at the beginning, has
therefore run once for each update of the requests since; and for a listener
that was added at any moment and not taken away, the events taken out and
those still waiting are together as many as the updates since. -/
theorem update_ledger (config : Config) (requests : List Request) :
    let s := (new config).serveAll requests
    (∀ now c, (s.perform now c).2.observers = s.observers.updated
        (c.updates s.schedule.active (s.perform now c).1)) ∧
      (∀ handler later, Request.register handler ∉ requests ++ later →
        let t := s.serve (.register handler)
        (t.serveAll later).observers.history.count handler
          = t.updatesOver later) ∧
      ∀ later, Request.dismiss s.observers.subscribe.1 ∉ later →
        let t := s.serve .subscribe
        let number := s.observers.subscribe.1
        ∃ inbox, (t.serveAll later).observers.inbox? number = some inbox ∧
          t.drainedOver number later + inbox.pending.length
            = t.updatesOver later := by
  intro s
  refine ⟨s.observers_perform, fun handler later hnot => ?_,
    fun later hnot => ?_⟩
  · intro t
    rw [List.mem_append, not_or] at hnot
    obtain ⟨hbefore, hlater⟩ := hnot
    obtain ⟨hhandlers, hcalls⟩ := count_of_not_registered config hbefore
    have hnone : t.observers.calls.count handler = 0 := hcalls
    have hone : t.observers.handlers.count handler = 1 := by
      have happend : t.observers.handlers
          = s.observers.handlers ++ [handler] := rfl
      rw [happend, List.count_append, hhandlers, List.count_singleton_self]
    rw [Observers.history, List.count_reverse, count_calls_serveAll hlater,
      hnone, hone, Nat.zero_add, Nat.mul_one]
  · obtain ⟨left, ⟨inbox, hinbox, -, hlength⟩, hbalance⟩ :=
      holds_serveAll (s := s.serve .subscribe)
        (Observers.holds_subscribe s.observers) hnot
    refine ⟨inbox, hinbox, ?_⟩
    rw [hlength, hbalance, Nat.zero_add]

/-- A run of five steps in batches of two has an update for each batch and
one for the stop after it. The first of the four was taken out of the inbox
before the others came. -/
theorem update_ledger_batches :
    let config := (Config.standard.withInterval 3).withBatchSize 2
    let s := (new config).serve (.command 0 (.start "+++++" ""))
    let later : List Request :=
      [.command 1 .runToEnd, .command 4 .poll, .drain 0, .command 5 .poll,
        .command 7 .poll, .command 10 .poll, .command 11 .poll,
        .command 12 .stop]
    (Request.register 8 ∉ later ∧ Request.dismiss 0 ∉ later) ∧
      ((s.serve (.register 8)).serveAll later).observers.history.count 8
        = 4 ∧
      (s.serve .subscribe).drainedOver 0 later = 1 ∧
      ∃ inbox, ((s.serve .subscribe).serveAll later).observers.inbox? 0
          = some inbox ∧ inbox.pending.length = 3 := by
  intro config s later
  have hregister : Request.register 8 ∉ later := by decide
  have hdismiss : Request.dismiss 0 ∉ later := by decide
  have hdrained : (s.serve .subscribe).drainedOver 0 later = 1 := by decide
  have hupdates : (s.serve .subscribe).updatesOver later = 4 := by decide
  obtain ⟨-, hhandler, hlistener⟩ :=
    update_ledger config [.command 0 (.start "+++++" "")]
  obtain ⟨inbox, hinbox, hsum⟩ := hlistener later hdismiss
  refine ⟨⟨hregister, hdismiss⟩, ?_, hdrained, inbox, hinbox, ?_⟩
  · exact (hhandler 8 later (by decide)).trans (by decide)
  · have hbalance : 1 + inbox.pending.length = 4 :=
      (hdrained ▸ hsum).trans hupdates
    omega

end Session

end TapeDebugger
