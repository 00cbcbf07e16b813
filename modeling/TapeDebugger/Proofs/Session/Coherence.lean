/-
The parts of a session never contradict one another.

* `Request`, `Session.serve` and `Session.serveAll`: what a host can ask of a
  session, and the session after a sequence of it;
* `Session.Coherent`: no timed run is active on a halted machine, and a
  remembered fault tells the bracket at which the machine was halted;
* `Session.Coherent.effect`: one command keeps this, whatever its effect;
* `Session.coherent_serveAll`: so does every sequence of requests;
* `Session.Coherent.stretch`: a command makes no step on a halted machine;
* `Session.reachable_coherent`: what follows for every session that a host
  can come to.

Whether a machine is halted, whether a run is active and which fault is
remembered is kept in three places that no single operation changes together.
-/
import Mathlib.Tactic
import TapeDebugger.Proofs.Machine.Stops
import TapeDebugger.Proofs.Session.Effects

namespace TapeDebugger

/-! ### Requests -/

/-- What a host can ask of a session. -/
inductive Request where
  /-- To carry out a command at a time. -/
  | command (now : Time) (c : Command)
  /-- To register a handler. -/
  | register (handler : Nat)
  /-- To add a listener. -/
  | subscribe
  /-- To empty the inbox of a listener. -/
  | drain (number : Nat)
  /-- To take a listener away. -/
  | dismiss (number : Nat)
  deriving DecidableEq

namespace Session

open Machine (after)

variable {s s' : Session} {now : Time} {c : Command} {reply : Reply}

/-- The session after a request. -/
def serve (s : Session) : Request → Session
  | .command now c => (s.perform now c).2
  | .register handler =>
      { s with observers := s.observers.register handler }
  | .subscribe => { s with observers := s.observers.subscribe.2 }
  | .drain number => { s with observers := (s.observers.drain number).2 }
  | .dismiss number => { s with observers := (s.observers.dismiss number).2 }

/-- The session after a sequence of requests. -/
def serveAll (s : Session) : List Request → Session
  | [] => s
  | r :: rest => (s.serve r).serveAll rest

lemma serveAll_append (s : Session) (earlier later : List Request) :
    s.serveAll (earlier ++ later) = (s.serveAll earlier).serveAll later := by
  induction earlier generalizing s with
  | nil => rfl
  | cons r rest ih => exact ih (s.serve r)

/-! ### Coherence -/

/-- A timed run is active only on a machine that is not halted, and a fault is
remembered only while the machine is halted at its bracket. -/
structure Coherent (s : Session) : Prop where
  awake_of_active : s.schedule.isActive = true → s.machine.halted = false
  fault_stands : ∀ f, s.lastFault = some f →
    s.machine.halted = true ∧ s.machine.StandsAt f

/-- Without a timed run, only the remembered fault matters. -/
lemma coherent_of_idle (hidle : s.schedule.active = none)
    (hfault : ∀ f, s.lastFault = some f →
      s.machine.halted = true ∧ s.machine.StandsAt f) : s.Coherent where
  awake_of_active := by
    intro hactive
    rw [Schedule.isActive, hidle] at hactive
    exact absurd hactive (by simp)
  fault_stands := hfault

lemma coherent_new (config : Config) : (new config).Coherent :=
  coherent_of_idle rfl fun f h => absurd h (by simp [new])

/-- A session that can go on remembers no fault. -/
lemma Coherent.lastFault_eq_none (h : s.Coherent)
    (hawake : s.machine.halted = false) : s.lastFault = none := by
  rw [Option.eq_none_iff_forall_ne_some]
  intro f hf
  rw [(h.fault_stands f hf).1] at hawake
  exact absurd hawake (by simp)

/-- The state of a coherent session shows that its machine is halted. -/
lemma Coherent.runState_eq_halted (h : s.Coherent)
    (hhalted : s.machine.halted = true) : s.runState = .halted := by
  refine runState_eq_halted_iff.mpr ⟨?_, hhalted⟩
  rw [← Option.not_isSome_iff_eq_none]
  intro hactive
  exact absurd (h.awake_of_active hactive) (by simp [hhalted])

/-- Steps of a machine that was not halted leave a session without a timed
run coherent: if the last one failed, its fault is the one remembered. -/
lemma Coherent.of_steps (h : s.Coherent) (hawake : s.machine.halted = false)
    {k : Nat} {f? : Option Fault} {m : Machine}
    (hsteps : s.machine.Stretch k f? m)
    (hidle : s'.schedule.active = none) (hmachine : s'.machine = m)
    (hfault : s'.lastFault = f?.or s.lastFault) : s'.Coherent := by
  refine coherent_of_idle hidle fun f hf => ?_
  rw [hfault, h.lastFault_eq_none hawake, Option.or_none] at hf
  subst hf
  rw [hmachine]
  exact hsteps.halted_and_standsAt

/-- A batch of a timed run begins on a machine that is not halted, and so does
each of its steps. -/
lemma Coherent.batch (h : s.Coherent) {mode : RunMode} {outcome : Outcome}
    {m : Machine} (hactive : s.schedule.active = some mode)
    (hbatch : s.machine.batch mode s.config.batchSize = (outcome, m)) :
    s.machine.halted = false ∧
      s.machine.Stretch (s.machine.countedBatch mode s.config.batchSize).steps
        outcome.fault? m ∧
      (outcome = .yielded → m.halted = false) := by
  have hawake : s.machine.halted = false :=
    h.awake_of_active (by rw [Schedule.isActive, hactive]; rfl)
  have hsteps := Machine.stretch_batch mode s.config.batchSize hawake
  rw [hbatch] at hsteps
  exact ⟨hawake, hsteps⟩

/-- **One command keeps a session coherent**, whatever its effect. -/
lemma Coherent.effect (h : s.Coherent) (heffect : Effect now s c reply s') :
    s'.Coherent := by
  cases heffect with
  | refused => exact h
  | loaded => exact ⟨fun _ => rfl, fun f hf => absurd hf (by simp [notify])⟩
  | stepped hpaused _ _ hsteps =>
      obtain ⟨hidle, hawake⟩ := runState_eq_paused_iff.mp hpaused
      exact h.of_steps hawake hsteps hidle rfl rfl
  | armed hpaused =>
      exact ⟨fun _ => (runState_eq_paused_iff.mp hpaused).2, h.fault_stands⟩
  | paused => exact coherent_of_idle rfl h.fault_stands
  | stopped =>
      -- the machine is halted where it stands, also at a bracket
      exact coherent_of_idle rfl fun f hf => ⟨rfl, (h.fault_stands f hf).2⟩
  | waited => exact h
  | yielded hactive _ hbatch =>
      obtain ⟨hawake, -, hgoes⟩ := h.batch hactive hbatch
      refine ⟨fun _ => hgoes rfl, fun f hf => ?_⟩
      have hnone : s.lastFault = none := h.lastFault_eq_none hawake
      exact absurd (hnone.symm.trans hf) (by simp)
  | ended hactive _ _ hbatch =>
      obtain ⟨hawake, hsteps, -⟩ := h.batch hactive hbatch
      exact h.of_steps hawake hsteps rfl rfl rfl

/-- What happens to the observers does not touch the run. -/
lemma Coherent.serve (h : s.Coherent) (r : Request) : (s.serve r).Coherent := by
  cases r with
  | command now c => exact h.effect (effect_of_perform rfl)
  | _ => exact ⟨h.awake_of_active, h.fault_stands⟩

lemma Coherent.serveAll (h : s.Coherent) (requests : List Request) :
    (s.serveAll requests).Coherent := by
  induction requests generalizing s with
  | nil => exact h
  | cons r rest ih => exact ih (h.serve r)

lemma coherent_serveAll (config : Config) (requests : List Request) :
    ((new config).serveAll requests).Coherent :=
  (coherent_new config).serveAll requests

/-! ### Steps -/

lemma stepsMade_of_due {mode : RunMode}
    (hactive : s.schedule.active = some mode)
    (hdue : s.schedule.deadline ≤ now) :
    s.stepsMade now .poll
      = (s.machine.countedBatch mode s.config.batchSize).steps := by
  have htrue : s.schedule.isDue now = true :=
    isDue_eq_true_iff.mpr ⟨mode, hactive, hdue⟩
  simp [stepsMade, Schedule.takeDue, htrue, hactive]

lemma stepsMade_of_not_due (h : s.schedule.isDue now = false) :
    s.stepsMade now .poll = 0 := by
  simp [stepsMade, Schedule.takeDue, h]

/-- The steps of a command that keeps the run are a stretch: none of them is
made on a halted machine. -/
lemma Coherent.stretch (h : s.Coherent) (now : Time)
    (hkeeps : s.Keeps c) :
    ∃ f?, s.machine.Stretch (s.stepsMade now c) f?
      (s.perform now c).2.machine := by
  rcases hperform : s.perform now c with ⟨reply, s'⟩
  have heffect := effect_of_perform hperform
  cases heffect with
  | refused hr =>
      rw [stepsMade_of_refused hr]
      exact ⟨none, .refl s.machine⟩
  | @loaded code input hhalted =>
      -- an accepted start does not keep the run
      have hreply : Reply.ofExcept (s.start code input).1 = .done :=
        congrArg Prod.fst hperform
      refine absurd ?_ hkeeps
      rcases hstart : (s.start code input).1 with e | ⟨⟩
      · rw [hstart] at hreply
        exact absurd hreply (by simp [Reply.ofExcept])
      · rfl
  | stepped _ _ hk hsteps =>
      rw [hk]
      exact ⟨_, hsteps⟩
  | @armed _ mode _ hc =>
      have hnone : s.stepsMade now c = 0 := by
        rw [hc]
        cases mode <;> rfl
      rw [hnone]
      exact ⟨none, .refl s.machine⟩
  | paused => exact ⟨none, .refl s.machine⟩
  | stopped => exact absurd hkeeps (by simp [Keeps])
  | waited hnotdue =>
      rw [stepsMade_of_not_due hnotdue]
      exact ⟨none, .refl s.machine⟩
  | yielded hactive hdue hbatch =>
      rw [stepsMade_of_due hactive hdue]
      exact ⟨_, (h.batch hactive hbatch).2.1⟩
  | ended hactive hdue _ hbatch =>
      rw [stepsMade_of_due hactive hdue]
      exact ⟨_, (h.batch hactive hbatch).2.1⟩

/-- A command that does not keep the run makes no steps in it. -/
lemma stepsMade_of_not_keeps (h : ¬ s.Keeps c) : s.stepsMade now c = 0 := by
  cases c with
  | start code input => rfl
  | stop => rfl
  | _ => exact absurd trivial h

/-- **Every session that a host can come to is coherent.** The state that it
shows agrees with its machine and its schedule; a remembered fault tells the
bracket at which the machine is halted; and of all the steps that a further
command makes, none is made on a halted machine. -/
theorem reachable_coherent (config : Config) (requests : List Request) :
    let s := (new config).serveAll requests
    ((s.schedule.isActive = true → s.machine.halted = false) ∧
        (s.runState = .halted ↔ s.machine.halted = true) ∧
        (∀ mode, s.runState = .running mode ↔
          s.schedule.active = some mode) ∧
        ((∃ mode, s.runState = .running mode) ↔
          s.schedule.isActive = true) ∧
        ∀ now, (s.untilNext now).isSome = s.schedule.isActive) ∧
      (∀ f, s.lastFault = some f →
        s.runState = .halted ∧ s.schedule.isActive = false ∧
          f.pc = s.machine.pc ∧
          (f.kind = .unmatchedOpen → s.currentChar? = some '[') ∧
          (f.kind = .unmatchedClose → s.currentChar? = some ']')) ∧
      ∀ now c,
        (∀ j < s.stepsMade now c, (after j s.machine).halted = false) ∧
          (s.Keeps c → (s.perform now c).2.machine
            = after (s.stepsMade now c) s.machine) := by
  intro s
  have h : s.Coherent := coherent_serveAll config requests
  have hidle : s.machine.halted = true → s.schedule.active = none := by
    intro hhalted
    rw [← Option.not_isSome_iff_eq_none]
    intro hactive
    exact absurd (h.awake_of_active hactive) (by simp [hhalted])
  refine ⟨⟨h.awake_of_active, ?_, fun mode => runState_eq_running_iff,
    isActive_iff_running.symm, fun now => ?_⟩, fun f hf => ?_,
    fun now c => ⟨?_, fun hkeeps => ?_⟩⟩
  · rw [runState_eq_halted_iff]
    exact ⟨fun hboth => hboth.2, fun hhalted => ⟨hidle hhalted, hhalted⟩⟩
  · rw [untilNext, Schedule.untilNext, Option.isSome_map, Schedule.isActive]
  · obtain ⟨hhalted, hpc, hchar⟩ := h.fault_stands f hf
    have hnone := hidle hhalted
    refine ⟨runState_eq_halted_iff.mpr ⟨hnone, hhalted⟩, ?_, hpc, ?_, ?_⟩
    · rw [Schedule.isActive, hnone]
      rfl
    · intro hkind
      rw [currentChar?, hchar, hkind]
      rfl
    · intro hkind
      rw [currentChar?, hchar, hkind]
      rfl
  · by_cases hkeeps : s.Keeps c
    · obtain ⟨f?, hsteps⟩ := h.stretch now hkeeps
      exact hsteps.awake
    · rw [stepsMade_of_not_keeps hkeeps]
      exact fun j hj => absurd hj (Nat.not_lt_zero j)
  · obtain ⟨f?, hsteps⟩ := h.stretch now hkeeps
    exact hsteps.machine_eq

/-- A batch that fails at the bracket of `+]` leaves the session halted there,
and the session remembers the fault. -/
theorem reachable_coherent_fault :
    let s := (new .standard).serveAll
      [.subscribe, .command 0 (.start "+]" ""), .command 0 .runToEnd,
        .command Config.defaultInterval .poll]
    s.lastFault = some ⟨1, .unmatchedClose⟩ ∧
      s.runState = .halted ∧ s.currentChar? = some ']' := by
  intro s
  have hfault : s.lastFault = some ⟨1, .unmatchedClose⟩ := by decide
  obtain ⟨-, hstands, -⟩ := reachable_coherent .standard
    [.subscribe, .command 0 (.start "+]" ""), .command 0 .runToEnd,
      .command Config.defaultInterval .poll]
  obtain ⟨hhalted, -, -, -, hclose⟩ := hstands _ hfault
  exact ⟨hfault, hhalted, hclose rfl⟩

end Session

end TapeDebugger
