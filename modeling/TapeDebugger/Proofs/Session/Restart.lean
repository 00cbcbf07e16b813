/-
A run that is started in a used session goes as in a new one.

* `Session.Alike`: two sessions that differ at most in their observers and,
  while no timed run is active, in the deadline left by an earlier one;
* `Session.Alike.perform`: they give the same reply to a command, and are
  alike after it;
* `Session.Alike.updatesMade_eq`: they tell their observers as often;
* `Session.Alike.serveAll`: they stay alike over a sequence of requests;
* `Session.restart_isolation`: a session whose run has ended is like a new
  one as soon as a program is loaded in both.

A start does not touch the schedule. The deadline that it finds there is out
of date, and is overwritten before it is looked at again: only an active run
has a deadline, and a run becomes active by setting it.
-/
import Mathlib.Tactic
import TapeDebugger.Proofs.Session.Ledger

namespace TapeDebugger

namespace Session

variable {s t : Session} {now : Time} {c : Command}

/-! ### Sessions that cannot be told apart -/

/-- The two sessions have the same machine, tuning and remembered fault, and
the same timed run, if one is active. -/
structure Alike (s t : Session) : Prop where
  machine_eq : s.machine = t.machine
  config_eq : s.config = t.config
  lastFault_eq : s.lastFault = t.lastFault
  active_eq : s.schedule.active = t.schedule.active
  interval_eq : s.schedule.interval = t.schedule.interval
  deadline_eq : s.schedule.isActive = true →
    s.schedule.deadline = t.schedule.deadline

lemma Alike.isActive_eq (h : s.Alike t) :
    s.schedule.isActive = t.schedule.isActive := by
  rw [Schedule.isActive, Schedule.isActive, h.active_eq]

lemma Alike.runState_eq (h : s.Alike t) : s.runState = t.runState := by
  rw [runState, runState, h.active_eq, h.machine_eq]

lemma Alike.refusal?_eq (h : s.Alike t) (operation : String) :
    s.refusal? operation = t.refusal? operation := by
  rw [refusal?, refusal?, h.isActive_eq, h.machine_eq]

/-- A deadline matters only while a run is active. -/
lemma Alike.isDue_eq (h : s.Alike t) (now : Time) :
    s.schedule.isDue now = t.schedule.isDue now := by
  rw [Schedule.isDue, Schedule.isDue, ← h.isActive_eq]
  cases hactive : s.schedule.isActive with
  | false => rfl
  | true => rw [h.deadline_eq hactive]

lemma Alike.untilNext_eq (h : s.Alike t) (now : Time) :
    s.untilNext now = t.untilNext now := by
  rw [untilNext, untilNext, Schedule.untilNext, Schedule.untilNext,
    ← h.active_eq]
  cases hactive : s.schedule.active with
  | none => rfl
  | some mode =>
      have hdeadline := h.deadline_eq (by rw [Schedule.isActive, hactive]; rfl)
      rw [hdeadline]

lemma Alike.overruns_eq (h : s.Alike t) (now : Time) (c : Command) :
    s.overruns now c = t.overruns now c := by
  have hfits : s.schedule.fits now = t.schedule.fits now := by
    rw [Schedule.fits, Schedule.fits, h.interval_eq]
  cases c <;> simp only [overruns, hfits, h.runState_eq, h.isDue_eq]

/-! ### What keeps sessions alike -/

/-- Sessions stay alike if their machines and remembered faults become the
same ones. -/
lemma Alike.with_machine (h : s.Alike t) (m : Machine) {f₁? f₂? : Option Fault}
    (hfault : f₁? = f₂?) :
    { s with machine := m, lastFault := f₁? }.notify.Alike
      { t with machine := m, lastFault := f₂? }.notify :=
  ⟨rfl, h.config_eq, hfault, h.active_eq, h.interval_eq, h.deadline_eq⟩

lemma Alike.start (h : s.Alike t) (code input : String) :
    (s.start code input).1 = (t.start code input).1 ∧
      (s.start code input).2.Alike (t.start code input).2 := by
  rw [Session.start, Session.start, ← h.isActive_eq, ← h.machine_eq]
  split_ifs
  · exact ⟨rfl, h⟩
  · exact ⟨rfl, h.with_machine _ rfl⟩
  · exact ⟨rfl, h⟩

lemma Alike.step (h : s.Alike t) :
    s.step.1 = t.step.1 ∧ s.step.2.Alike t.step.2 := by
  rw [Session.step, Session.step, ← h.refusal?_eq, ← h.machine_eq]
  cases s.refusal? "step" with
  | some r => exact ⟨rfl, h⟩
  | none =>
      rcases s.machine.step with ⟨f?, m⟩
      cases f? with
      | none => exact ⟨rfl, h.with_machine m h.lastFault_eq⟩
      | some f => exact ⟨rfl, h.with_machine m rfl⟩

lemma Alike.stepMany (h : s.Alike t) (count : Nat) :
    (s.stepMany count).1 = (t.stepMany count).1 ∧
      (s.stepMany count).2.Alike (t.stepMany count).2 := by
  rw [Session.stepMany, Session.stepMany, ← h.refusal?_eq, ← h.machine_eq]
  cases s.refusal? "step" with
  | some r => exact ⟨rfl, h⟩
  | none =>
      rcases s.machine.burst true count with ⟨steps, f?, m⟩
      cases f? with
      | none => exact ⟨rfl, h.with_machine m h.lastFault_eq⟩
      | some f => exact ⟨rfl, h.with_machine m rfl⟩

/-- An armed run sets the deadline anew, so an old one is forgotten. -/
lemma Alike.arm (h : s.Alike t) (mode : RunMode) (operation : String)
    (now : Time) :
    (s.arm mode operation now).1 = (t.arm mode operation now).1 ∧
      (s.arm mode operation now).2.Alike (t.arm mode operation now).2 := by
  rw [Session.arm, Session.arm, ← h.refusal?_eq]
  cases s.refusal? operation with
  | some r => exact ⟨rfl, h⟩
  | none =>
      refine ⟨rfl, h.machine_eq, h.config_eq, h.lastFault_eq, rfl,
        h.interval_eq, fun _ => ?_⟩
      simp only [Schedule.arm, h.interval_eq]

/-- Without a timed run the deadlines are not compared. -/
lemma Alike.pause (h : s.Alike t) :
    s.pause.1 = t.pause.1 ∧ s.pause.2.Alike t.pause.2 := by
  rw [Session.pause, Session.pause, ← h.isActive_eq]
  split_ifs
  · refine ⟨rfl, h.machine_eq, h.config_eq, h.lastFault_eq, rfl,
      h.interval_eq, fun hactive => ?_⟩
    exact absurd hactive (by simp [notify, Schedule.cancel, Schedule.isActive])
  · exact ⟨rfl, h⟩

lemma Alike.stop (h : s.Alike t) : s.stop.Alike t.stop where
  machine_eq := congrArg Machine.halt h.machine_eq
  config_eq := h.config_eq
  lastFault_eq := h.lastFault_eq
  active_eq := rfl
  interval_eq := h.interval_eq
  deadline_eq := by
    intro hactive
    exact absurd hactive
      (by simp [Session.stop, notify, Schedule.cancel, Schedule.isActive])

lemma Alike.poll (h : s.Alike t) (now : Time) :
    (s.poll now).1 = (t.poll now).1 ∧
      (s.poll now).2.Alike (t.poll now).2 := by
  cases hdue : s.schedule.isDue now with
  | false =>
      have hdue' : t.schedule.isDue now = false := (h.isDue_eq now) ▸ hdue
      rw [poll_of_not_due hdue, poll_of_not_due hdue']
      exact ⟨rfl, h⟩
  | true =>
      have hdue' : t.schedule.isDue now = true := (h.isDue_eq now) ▸ hdue
      obtain ⟨mode, hmode, htime⟩ := isDue_eq_true_iff.mp hdue
      obtain ⟨mode', hmode', htime'⟩ := isDue_eq_true_iff.mp hdue'
      obtain rfl : mode = mode' :=
        Option.some.inj (hmode.symm.trans (h.active_eq.trans hmode'))
      rcases hbatch : s.machine.batch mode s.config.batchSize
        with ⟨outcome, m⟩
      have hbatch' : t.machine.batch mode t.config.batchSize
          = (outcome, m) := by
        rw [← h.machine_eq, ← h.config_eq]
        exact hbatch
      rw [poll_eq_of_due hmode htime hbatch,
        poll_eq_of_due hmode' htime' hbatch']
      refine ⟨rfl, ?_⟩
      dsimp only
      -- in both cases the next deadline lies an interval after the same time
      have hnext : now + s.schedule.interval = now + t.schedule.interval := by
        rw [h.interval_eq]
      split_ifs
      · exact ⟨rfl, h.config_eq, h.lastFault_eq, h.active_eq, h.interval_eq,
          fun _ => hnext⟩
      · refine ⟨rfl, h.config_eq, ?_, rfl, h.interval_eq, fun _ => hnext⟩
        exact congrArg outcome.fault?.or h.lastFault_eq

/-- **Sessions that are alike reply alike**, and are alike after it. -/
lemma Alike.perform (h : s.Alike t) (now : Time) (c : Command) :
    (s.perform now c).1 = (t.perform now c).1 ∧
      (s.perform now c).2.Alike (t.perform now c).2 := by
  cases c with
  | start code input =>
      exact (h.start code input).imp_left (congrArg Reply.ofExcept)
  | step => exact h.step.imp_left (congrArg Reply.ofExcept)
  | stepMany count =>
      exact (h.stepMany count).imp_left (congrArg Reply.ofCount)
  | runToEnd =>
      exact (h.arm .continuous "run" now).imp_left (congrArg Reply.ofExcept)
  | runToBreakpoint =>
      exact (h.arm .breakpoint "run to breakpoint" now).imp_left
        (congrArg Reply.ofExcept)
  | pause => exact h.pause.imp_left (congrArg Reply.ofExcept)
  | stop => exact ⟨rfl, h.stop⟩
  | poll => exact (h.poll now).imp_left (congrArg Reply.polled)

/-- A command whose deadline cannot be told has no reply in either. -/
lemma Alike.perform?_eq (h : s.Alike t) (now : Time) (c : Command) :
    (s.perform? now c).map Prod.fst = (t.perform? now c).map Prod.fst := by
  rw [perform?, perform?, h.overruns_eq]
  split_ifs
  · rfl
  · simp only [Option.map_some, (h.perform now c).1]

lemma Alike.updatesMade_eq (h : s.Alike t) (r : Request) :
    s.updatesMade r = t.updatesMade r := by
  cases r with
  | command now c =>
      rw [updatesMade, updatesMade, h.active_eq, (h.perform now c).1]
  | _ => rfl

lemma Alike.serve (h : s.Alike t) (r : Request) :
    (s.serve r).Alike (t.serve r) := by
  cases r with
  | command now c => exact (h.perform now c).2
  | _ =>
      exact ⟨h.machine_eq, h.config_eq, h.lastFault_eq, h.active_eq,
        h.interval_eq, h.deadline_eq⟩

lemma Alike.serveAll (h : s.Alike t) (requests : List Request) :
    (s.serveAll requests).Alike (t.serveAll requests) := by
  induction requests generalizing s t with
  | nil => exact h
  | cons r rest ih => exact ih (h.serve r)

/-! ### A used session and a new one -/

/-- The tuning of a session is never changed, and its schedule keeps the
interval of its tuning. -/
lemma tuning_serveAll (config : Config) (requests : List Request) :
    ((new config).serveAll requests).config = config ∧
      ((new config).serveAll requests).schedule.interval
        = config.interval := by
  suffices h : ∀ s : Session, (s.serveAll requests).config = s.config ∧
      (s.serveAll requests).schedule.interval = s.schedule.interval from
    h (new config)
  induction requests with
  | nil => exact fun s => ⟨rfl, rfl⟩
  | cons r rest ih =>
      intro s
      rw [Session.serveAll, (ih _).1, (ih _).2]
      cases r with
      | command now c =>
          rcases hperform : s.perform now c with ⟨reply, s'⟩
          rw [Session.serve, hperform]
          cases effect_of_perform hperform <;> exact ⟨rfl, rfl⟩
      | _ => exact ⟨rfl, rfl⟩

lemma start_of_halted (h : s.runState = .halted) (code input : String) :
    s.start code input = (.ok (),
      { s with machine := .load code input, lastFault := none }.notify) := by
  obtain ⟨hidle, hhalted⟩ := runState_eq_halted_iff.mp h
  have hinactive : s.schedule.isActive = false := by
    rw [Schedule.isActive, hidle]
    rfl
  rw [Session.start, hinactive, hhalted]
  rfl

/-- Once its run has ended, a coherent session loads whatever it is given. -/
lemma Coherent.start_ok (h : s.Coherent) (hhalted : s.machine.halted = true)
    (code input : String) : (s.start code input).1 = .ok () := by
  rw [start_of_halted (h.runState_eq_halted hhalted)]

/-- A program that is loaded in a used session and in a new one makes them
alike: the used one keeps its observers and an old deadline, and nothing
else. -/
lemma alike_start {config : Config} {history : List Request}
    (h : ((new config).serveAll history).runState = .halted)
    (code input : String) :
    (((new config).serveAll history).start code input).2.Alike
      ((new config).start code input).2 := by
  obtain ⟨hconfig, hinterval⟩ := tuning_serveAll config history
  have hidle := (runState_eq_halted_iff.mp h).1
  rw [start_of_halted h, start_of_halted rfl]
  refine ⟨rfl, hconfig, rfl, hidle, hinterval, fun hactive => ?_⟩
  have hinactive : (none : Option RunMode).isSome = true := by
    rw [← hidle]
    exact hactive
  exact absurd hinactive (by simp)

/-- **A restart forgets what was before.** Whatever a host has asked of a
session, once its run has ended a program can be started in it just as in a
new session with the same tuning. From there on the two are the same to every
host: after any further requests they show the same state, machine, fault and
time to the next batch, give the same reply to every command, and tell their
observers about it equally often. -/
theorem restart_isolation {config : Config} {history : List Request}
    (hhalted : ((new config).serveAll history).runState = .halted)
    (code input : String) :
    let used := (new config).serveAll history
    let fresh := new config
    ((used.start code input).1 = .ok () ∧
        (fresh.start code input).1 = .ok () ∧
        (used.start code input).2.observers = used.observers.updated 1 ∧
        (fresh.start code input).2.observers = fresh.observers.updated 1) ∧
      ∀ later : List Request,
        let s := (used.start code input).2.serveAll later
        let t := (fresh.start code input).2.serveAll later
        (s.runState = t.runState ∧ s.machine = t.machine ∧
            s.lastFault = t.lastFault ∧ s.config = t.config ∧
            ∀ now, s.untilNext now = t.untilNext now) ∧
          ∀ now c,
            let n := s.updatesMade (.command now c)
            ((s.perform now c).1 = (t.perform now c).1 ∧
              (s.perform? now c).map Prod.fst
                = (t.perform? now c).map Prod.fst) ∧
            t.updatesMade (.command now c) = n ∧
            (s.perform now c).2.observers = s.observers.updated n ∧
            (t.perform now c).2.observers = t.observers.updated n := by
  intro used fresh
  have hused : used.start code input = _ := start_of_halted hhalted code input
  refine ⟨⟨by rw [hused], rfl, by rw [hused]; rfl, rfl⟩, fun later => ?_⟩
  intro s t
  have h : s.Alike t := (alike_start hhalted code input).serveAll later
  refine ⟨⟨h.runState_eq, h.machine_eq, h.lastFault_eq, h.config_eq,
    h.untilNext_eq⟩, fun now c => ?_⟩
  intro n
  have hupdates : t.updatesMade (.command now c) = n :=
    (h.updatesMade_eq (.command now c)).symm
  refine ⟨⟨(h.perform now c).1, h.perform?_eq now c⟩, hupdates,
    s.observers_perform now c, ?_⟩
  rw [← hupdates]
  exact t.observers_perform now c

/-- A run that was stopped within its loop, with a batch still to come, leaves
nothing behind: after a restart and a new run to the end, the next batch is
as far away as in a new session, and it prints as much. -/
theorem restart_isolation_stopped :
    let config := (Config.standard.withInterval 3).withBatchSize 2
    let history : List Request :=
      [.subscribe, .command 1 (.start "+[>+]" ""), .command 1 .runToEnd,
        .command 4 .poll, .command 8 .poll, .command 9 .stop]
    let later : List Request := [.command 9 .runToEnd, .command 10 .poll]
    let used := (new config).serveAll history
    let s := (used.start "++." "").2.serveAll later
    let t := ((new config).start "++." "").2.serveAll later
    (used.runState = .halted ∧ used.schedule.deadline = 11) ∧
      s.untilNext 10 = some 2 ∧ t.untilNext 10 = some 2 ∧
      s.machine = t.machine := by
  intro config history later used s t
  have hhalted : used.runState = .halted := by decide
  obtain ⟨-, hlater⟩ := restart_isolation hhalted "++." ""
  obtain ⟨⟨-, hmachine, -, -, huntil⟩, -⟩ := hlater later
  have hnext : t.untilNext 10 = some 2 := by decide
  exact ⟨⟨hhalted, by decide⟩, (huntil 10).trans hnext, hnext, hmachine⟩

end Session

end TapeDebugger
