/-
What a command can do to a session, said once for all commands.

* `RunState.refusal?`: which commands are refused in which state, and in what
  words;
* `Session.Effect`: everything that a command can do, one constructor for
  each way in which a session can go on;
* `Session.effect_of_perform`: a command does nothing else;
* `Session.Accepts`: which commands a session accepts;
* `Session.rejection_is_atomic`: a command is refused exactly as the state
  says, and then nothing at all has changed.

Later modules look at commands through `Session.Effect` only.
-/
import Mathlib.Tactic
import TapeDebugger.Proofs.Observers
import TapeDebugger.Proofs.Session.Interleaving

namespace TapeDebugger

/-! ### Which commands are refused -/

namespace RunState

/-- Why an operation that needs a paused run is refused in a state, if it
is. -/
def refusalToGoOn? (operation : String) : RunState → Option Rejection
  | .halted => some (.halted operation)
  | .paused => none
  | .running _ => some (.busy operation)

/-- Why a command is refused in a state, if it is. A start needs a run that
has ended, steps and timed runs need a paused one, and a pause needs a timed
run. -/
def refusal? (state : RunState) : Command → Option Rejection
  | .start _ _ =>
      match state with
      | .halted => none
      | .paused => some .alreadyLoaded
      | .running _ => some (.busy "start")
  | .step | .stepMany _ => state.refusalToGoOn? "step"
  | .runToEnd => state.refusalToGoOn? "run"
  | .runToBreakpoint => state.refusalToGoOn? "run to breakpoint"
  | .pause =>
      match state with
      | .running _ => none
      | _ => some .notRunning
  | .stop | .poll => none

end RunState

/-- The command that begins a timed run. -/
def RunMode.command : RunMode → Command
  | .continuous => .runToEnd
  | .breakpoint => .runToBreakpoint

/-- The number of updates of a batch after which the timed run goes on:
breakpoint runs are silent until they end. -/
def RunMode.updatesOnYield : RunMode → Nat
  | .continuous => 1
  | .breakpoint => 0

/-- The reply to steps of the machine, by the number of them and the fault of
the last one. -/
def Command.stepReply (c : Command) (steps : Nat) : Option Fault → Reply
  | some f => .failed (.fault f)
  | none =>
      match c with
      | .stepMany _ => .stepped steps
      | _ => .done

lemma Command.stepReply_ne_rejected (c : Command) (steps : Nat)
    (f? : Option Fault) (r : Rejection) :
    c.stepReply steps f? ≠ .failed (.rejected r) := by
  cases f? <;> cases c <;> simp [stepReply]

namespace Session

variable {s s' : Session} {now : Time} {c : Command} {reply : Reply}

/-! ### States -/

lemma runState_eq_halted_iff :
    s.runState = .halted ↔
      s.schedule.active = none ∧ s.machine.halted = true := by
  rw [runState]
  cases s.schedule.active <;> cases s.machine.halted <;> simp

lemma runState_eq_paused_iff :
    s.runState = .paused ↔
      s.schedule.active = none ∧ s.machine.halted = false := by
  rw [runState]
  cases s.schedule.active <;> cases s.machine.halted <;> simp

lemma runState_eq_running_iff {mode : RunMode} :
    s.runState = .running mode ↔ s.schedule.active = some mode := by
  rw [runState]
  cases s.schedule.active <;> cases s.machine.halted <;> simp

/-- A run is active exactly in the states that show one. -/
lemma isActive_iff_running :
    s.schedule.isActive = true ↔ ∃ mode, s.runState = .running mode := by
  simp only [runState_eq_running_iff, Schedule.isActive,
    Option.isSome_iff_exists]

/-- The two flags that an operation looks at say no more than the state. -/
lemma refusal?_eq (operation : String) :
    s.refusal? operation = s.runState.refusalToGoOn? operation := by
  rw [refusal?, runState, Schedule.isActive]
  cases s.schedule.active <;> cases s.machine.halted <;> rfl

lemma refusal?_eq_none_of_paused (h : s.runState = .paused)
    (operation : String) : s.refusal? operation = none := by
  rw [refusal?_eq, h]
  rfl

/-- A batch is due if a run is active and its deadline has come. -/
lemma isDue_eq_true_iff :
    s.schedule.isDue now = true ↔
      ∃ mode, s.schedule.active = some mode ∧ s.schedule.deadline ≤ now := by
  rw [Schedule.isDue, Schedule.isActive]
  cases s.schedule.active <;> simp

/-! ### Effects -/

/-- The session after a batch that has led to the machine `m`, if the timed
run goes on. The next batch is due a whole interval later. -/
def goOn (s : Session) (mode : RunMode) (m : Machine) (now : Time) :
    Session :=
  { s with
    machine := m
    schedule := { s.schedule with deadline := now + s.schedule.interval }
    observers := s.observers.updated mode.updatesOnYield }

/-- The session after a batch that has led to the machine `m`, if the timed
run is over. -/
def endRun (s : Session) (outcome : Outcome) (m : Machine) (now : Time) :
    Session :=
  { s with
    machine := m
    schedule := { s.schedule with
      deadline := now + s.schedule.interval
      active := none }
    lastFault := outcome.fault?.or s.lastFault }.notify

/-- Everything that a command at the time `now` can do to the session `s`,
with its reply and the session that it leaves. -/
inductive Effect (now : Time) (s : Session) :
    Command → Reply → Session → Prop
  /-- The command is refused. -/
  | refused {c : Command} {r : Rejection}
      (h : s.runState.refusal? c = some r) :
      Effect now s c (.failed (.rejected r)) s
  /-- A program is loaded. -/
  | loaded {code input : String} (h : s.runState = .halted) :
      Effect now s (.start code input) .done
        { s with machine := .load code input, lastFault := none }.notify
  /-- The machine makes steps. -/
  | stepped {c : Command} {reply : Reply} {k : Nat} {f? : Option Fault}
      {m : Machine} (h : s.runState = .paused)
      (hc : c = .step ∨ ∃ count, c = .stepMany count)
      (hk : s.stepsMade now c = k) (hsteps : s.machine.Stretch k f? m)
      (hreply : reply = c.stepReply k f?) :
      Effect now s c reply
        { s with machine := m, lastFault := f?.or s.lastFault }.notify
  /-- A timed run begins. -/
  | armed {c : Command} {mode : RunMode} (h : s.runState = .paused)
      (hc : c = mode.command) :
      Effect now s c .done { s with schedule := s.schedule.arm mode now }
  /-- The timed run is interrupted. -/
  | paused {mode : RunMode} (h : s.runState = .running mode) :
      Effect now s .pause .done
        { s with schedule := s.schedule.cancel }.notify
  /-- The run is ended for good. -/
  | stopped :
      Effect now s .stop .done
        { s with
          schedule := s.schedule.cancel, machine := s.machine.halt }.notify
  /-- No batch is due. -/
  | waited (h : s.schedule.isDue now = false) :
      Effect now s .poll (.polled none) s
  /-- A batch is run after which the timed run goes on. -/
  | yielded {mode : RunMode} {m : Machine}
      (hactive : s.schedule.active = some mode)
      (hdue : s.schedule.deadline ≤ now)
      (hbatch : s.machine.batch mode s.config.batchSize = (.yielded, m)) :
      Effect now s .poll (.polled (some .yielded)) (s.goOn mode m now)
  /-- A batch is run that ends the timed run. -/
  | ended {mode : RunMode} {outcome : Outcome} {m : Machine}
      (hactive : s.schedule.active = some mode)
      (hdue : s.schedule.deadline ≤ now) (hend : outcome ≠ .yielded)
      (hbatch : s.machine.batch mode s.config.batchSize = (outcome, m)) :
      Effect now s .poll (.polled (some outcome)) (s.endRun outcome m now)

/-! ### Commands have no other effects -/

lemma effect_start (now : Time) (s : Session) (code input : String) :
    Effect now s (.start code input) (.ofExcept (s.start code input).1)
      (s.start code input).2 := by
  rw [start]
  split_ifs with hactive hhalted
  · obtain ⟨mode, hmode⟩ := Option.isSome_iff_exists.mp hactive
    refine .refused ?_
    rw [runState_eq_running_iff.mpr hmode]
    rfl
  · have hidle := Option.not_isSome_iff_eq_none.mp hactive
    exact .loaded (runState_eq_halted_iff.mpr ⟨hidle, hhalted⟩)
  · have hidle := Option.not_isSome_iff_eq_none.mp hactive
    have hawake : s.machine.halted = false := by simpa using hhalted
    refine .refused ?_
    rw [runState_eq_paused_iff.mpr ⟨hidle, hawake⟩]
    rfl

/-- An operation that needs a paused run is refused, or the run is paused. -/
lemma refused_or_paused (s : Session) (operation : String) :
    (∃ r, s.refusal? operation = some r ∧
      s.runState.refusalToGoOn? operation = some r) ∨
      s.refusal? operation = none ∧ s.runState = .paused := by
  rw [refusal?_eq]
  cases s.runState with
  | halted => exact Or.inl ⟨_, rfl, rfl⟩
  | paused => exact Or.inr ⟨rfl, rfl⟩
  | running mode => exact Or.inl ⟨_, rfl, rfl⟩

lemma effect_step (now : Time) (s : Session) :
    Effect now s .step (.ofExcept s.step.1) s.step.2 := by
  obtain ⟨r, hr, hstate⟩ | ⟨hr, hpaused⟩ := s.refused_or_paused "step"
  · rw [step, hr]
    exact .refused hstate
  · have hawake := (runState_eq_paused_iff.mp hpaused).2
    have hsteps : s.stepsMade now .step = 1 := by rw [stepsMade, if_pos hr]
    rw [step_of_accepted hr]
    refine .stepped hpaused (Or.inl rfl) hsteps (.single hawake) ?_
    rw [step, hr]
    obtain ⟨c, -, hstep⟩ | ⟨f, -, hstep⟩ := s.machine.step_cases <;>
      rw [hstep] <;> rfl

lemma effect_stepMany (now : Time) (s : Session) (count : Nat) :
    Effect now s (.stepMany count) (.ofCount (s.stepMany count).1)
      (s.stepMany count).2 := by
  obtain ⟨r, hr, hstate⟩ | ⟨hr, hpaused⟩ := s.refused_or_paused "step"
  · rw [stepMany, hr]
    exact .refused hstate
  · have hsteps : s.stepsMade now (.stepMany count)
        = (s.machine.burst true count).steps := by rw [stepsMade, if_pos hr]
    rw [stepMany_of_accepted hr]
    refine .stepped hpaused (Or.inr ⟨count, rfl⟩) hsteps
      (Machine.stretch_burst count s.machine) ?_
    rw [stepMany, hr]
    obtain ⟨steps, fault?, machine⟩ := s.machine.burst true count
    cases fault? <;> rfl

/-- A timed run is refused in the words of the command that asks for it. -/
lemma effect_arm (now : Time) (s : Session) (mode : RunMode)
    {operation : String}
    (hword : s.runState.refusal? mode.command
      = s.runState.refusalToGoOn? operation) :
    Effect now s mode.command (.ofExcept (s.arm mode operation now).1)
      (s.arm mode operation now).2 := by
  rw [arm]
  obtain ⟨r, hr, hstate⟩ | ⟨hr, hpaused⟩ := s.refused_or_paused operation
  · rw [hr]
    exact .refused (hword.trans hstate)
  · rw [hr]
    exact .armed hpaused rfl

lemma effect_pause (now : Time) (s : Session) :
    Effect now s .pause (.ofExcept s.pause.1) s.pause.2 := by
  rw [pause]
  split_ifs with hactive
  · obtain ⟨mode, hmode⟩ := Option.isSome_iff_exists.mp hactive
    exact .paused (runState_eq_running_iff.mpr hmode)
  · have hidle := Option.not_isSome_iff_eq_none.mp hactive
    refine .refused ?_
    rw [runState, hidle]
    cases s.machine.halted <;> rfl

/-- A poll that is due runs one batch in the mode of the active run. -/
lemma poll_eq_of_due {mode : RunMode} {outcome : Outcome} {m : Machine}
    (hactive : s.schedule.active = some mode)
    (hdue : s.schedule.deadline ≤ now)
    (hbatch : s.machine.batch mode s.config.batchSize = (outcome, m)) :
    s.poll now = (some outcome,
      if outcome = .yielded then s.goOn mode m now
      else s.endRun outcome m now) := by
  have htake : s.schedule.takeDue now = (some mode,
      { s.schedule with deadline := now + s.schedule.interval }) := by
    rw [Schedule.takeDue, if_pos (isDue_eq_true_iff.mpr ⟨mode, hactive, hdue⟩)]
    exact Prod.ext hactive rfl
  have hpoll : s.poll now = Prod.map some id
      ({ s with schedule := { s.schedule with
        deadline := now + s.schedule.interval } }.runBatch mode) := by
    rw [poll, htake]
    rfl
  rw [hpoll, runBatch_eq, hbatch]
  cases outcome <;> cases mode <;> rfl

lemma effect_poll (now : Time) (s : Session) :
    Effect now s .poll (.polled (s.poll now).1) (s.poll now).2 := by
  cases hdue : s.schedule.isDue now with
  | false =>
      rw [poll_of_not_due hdue]
      exact .waited hdue
  | true =>
      obtain ⟨mode, hmode, htime⟩ := isDue_eq_true_iff.mp hdue
      rcases hbatch : s.machine.batch mode s.config.batchSize
        with ⟨outcome, m⟩
      rw [poll_eq_of_due hmode htime hbatch]
      by_cases hend : outcome = .yielded
      · subst hend
        exact .yielded hmode htime hbatch
      · rw [if_neg hend]
        exact .ended hmode htime hend hbatch

/-- **A command has one of the effects**, whatever the session and the
time. -/
lemma effect_of_perform (h : s.perform now c = (reply, s')) :
    Effect now s c reply s' := by
  obtain ⟨rfl, rfl⟩ := Prod.mk.inj h.symm
  cases c with
  | start code input => exact effect_start now s code input
  | step => exact effect_step now s
  | stepMany count => exact effect_stepMany now s count
  | runToEnd => exact effect_arm now s .continuous rfl
  | runToBreakpoint => exact effect_arm now s .breakpoint rfl
  | pause => exact effect_pause now s
  | stop => exact .stopped
  | poll => exact effect_poll now s

/-! ### Refusals -/

/-- The reply is a refusal exactly where the state refuses the command. -/
lemma Effect.rejected_iff (h : Effect now s c reply s') {r : Rejection} :
    reply = .failed (.rejected r) ↔ s.runState.refusal? c = some r := by
  cases h with
  | refused hr => simp [hr]
  | loaded hstate => simp [hstate, RunState.refusal?]
  | stepped hstate hc _ _ hreply =>
      have haccepted : s.runState.refusal? c = none := by
        rw [hstate]
        obtain rfl | ⟨count, rfl⟩ := hc <;> rfl
      simp [haccepted, hreply, Command.stepReply_ne_rejected]
  | @armed _ mode hstate hc =>
      have haccepted : s.runState.refusal? c = none := by
        rw [hstate, hc]
        cases mode <;> rfl
      simp [haccepted]
  | paused hstate => simp [hstate, RunState.refusal?]
  | stopped => simp [RunState.refusal?]
  | waited => simp [RunState.refusal?]
  | yielded => simp [RunState.refusal?]
  | ended => simp [RunState.refusal?]

/-- A refusal leaves the session as it is. -/
lemma Effect.eq_of_rejected {r : Rejection}
    (h : Effect now s c (.failed (.rejected r)) s') : s' = s := by
  cases h with
  | refused => rfl
  | stepped _ _ _ _ hreply =>
      exact absurd hreply.symm (c.stepReply_ne_rejected _ _ r)

/-- Only steps of the machine fail without being refused. -/
lemma Effect.stepping_of_fault {f : Fault}
    (h : Effect now s c (.failed (.fault f)) s') :
    c = .step ∨ ∃ count, c = .stepMany count := by
  cases h with
  | stepped _ hc => exact hc

/-- A command that is refused makes no steps. -/
lemma stepsMade_of_refused {r : Rejection}
    (h : s.runState.refusal? c = some r) : s.stepsMade now c = 0 := by
  have hrefused : s.runState.refusalToGoOn? "step" = some r →
      ¬ s.refusal? "step" = none := by
    intro hr
    rw [refusal?_eq, hr]
    simp
  cases c with
  | step => exact if_neg (hrefused h)
  | stepMany count => exact if_neg (hrefused h)
  | poll => exact absurd h (by simp [RunState.refusal?])
  | _ => rfl

/-- A command that is refused sets no deadline. -/
lemma overruns_of_refused {r : Rejection}
    (h : s.runState.refusal? c = some r) : s.overruns now c = false := by
  have hpaused : ∀ operation : String,
      s.runState.refusalToGoOn? operation = some r →
        decide (s.runState = .paused) = false := by
    intro operation hr
    cases hstate : s.runState <;> simp_all [RunState.refusalToGoOn?]
  cases c with
  | runToEnd => rw [overruns, hpaused "run" h, Bool.false_and]
  | runToBreakpoint =>
      rw [overruns, hpaused "run to breakpoint" h, Bool.false_and]
  | poll => exact absurd h (by simp [RunState.refusal?])
  | _ => rfl

/-- A command is carried out if a deadline set at its time could be told. -/
lemma perform?_of_fits (h : s.schedule.fits now = true) (c : Command) :
    s.perform? now c = some (s.perform now c) := by
  have hfits : s.overruns now c = false := by
    cases c <;> simp [overruns, h]
  rw [perform?, hfits]
  rfl

/-- Which commands a session accepts: a start if its run has ended, steps and
timed runs if it is paused, a pause if a timed run is active, and the others
in any case. -/
def Accepts (s : Session) : Command → Prop
  | .start _ _ => s.runState = .halted
  | .step | .stepMany _ | .runToEnd | .runToBreakpoint =>
      s.runState = .paused
  | .pause => s.schedule.isActive = true
  | .stop | .poll => True

lemma accepts_iff : s.Accepts c ↔ s.runState.refusal? c = none := by
  cases c with
  | pause =>
      rw [Accepts, isActive_iff_running]
      cases s.runState <;> simp [RunState.refusal?]
  | stop => exact iff_of_true trivial rfl
  | poll => exact iff_of_true trivial rfl
  | _ =>
      rw [Accepts]
      cases s.runState <;>
        simp [RunState.refusal?, RunState.refusalToGoOn?]

/-- **Refusals follow the state and change nothing.** In every session and
for every command, the reply is a refusal exactly if the state of the session
says so, and with the reason that it gives; all other commands are accepted,
and carried out unless a deadline could not be told. A refusal leaves the
whole session as it was, observers included. Every other failure is a fault
in a step that was asked for. -/
theorem rejection_is_atomic (s : Session) (now : Time) (c : Command) :
    (∀ r, (s.perform now c).1 = .failed (.rejected r) ↔
        s.runState.refusal? c = some r) ∧
      (s.Accepts c ↔ ∀ r, (s.perform now c).1 ≠ .failed (.rejected r)) ∧
      (s.schedule.fits now = true →
        s.perform? now c = some (s.perform now c)) ∧
      (∀ e, (s.perform now c).1 = .failed e → e.isRejection = true →
        (s.perform now c).2 = s ∧ s.perform? now c = some (.failed e, s)) ∧
      ∀ e, (s.perform now c).1 = .failed e → e.isRejection = false →
        (∃ f, e = .fault f) ∧ (c = .step ∨ ∃ count, c = .stepMany count) := by
  rcases hperform : s.perform now c with ⟨reply, s'⟩
  have heffect := effect_of_perform hperform
  refine ⟨fun r => heffect.rejected_iff, ?_, ?_, ?_, ?_⟩
  · simp only [accepts_iff, Option.eq_none_iff_forall_ne_some, ne_eq,
      heffect.rejected_iff]
  · intro h
    rw [perform?_of_fits h, hperform]
  · intro e hreply hrejected
    obtain rfl : reply = .failed e := hreply
    cases e with
    | fault f => simp [SessionError.isRejection] at hrejected
    | rejected r =>
        have hs : s' = s := heffect.eq_of_rejected
        have hr : s.runState.refusal? c = some r :=
          heffect.rejected_iff.mp rfl
        refine ⟨hs, ?_⟩
        rw [perform?, overruns_of_refused hr, hperform, hs]
        rfl
  · intro e hreply hfault
    obtain rfl : reply = .failed e := hreply
    cases e with
    | fault f => exact ⟨⟨f, rfl⟩, heffect.stepping_of_fault⟩
    | rejected r => simp [SessionError.isRejection] at hfault

/-- While a run to the end is active, a run to the next marker is refused, and
the session with its handler and its listener stays as it is. -/
theorem rejection_is_atomic_busy :
    let observed : Session :=
      { new .standard with
        observers := (Observers.none.register 7).subscribe.2 }
    let s := ((observed.start "+[-]" "").2.runToEnd 5).2
    let e := SessionError.rejected (.busy "run to breakpoint")
    ((s.perform 9 .runToBreakpoint).1 = .failed e ∧ e.isRejection = true) ∧
      (s.perform 9 .runToBreakpoint).2 = s := by
  intro observed s e
  have hreply : (s.perform 9 .runToBreakpoint).1 = .failed e := by decide
  obtain ⟨-, -, -, hatomic, -⟩ := rejection_is_atomic s 9 .runToBreakpoint
  exact ⟨⟨hreply, rfl⟩, (hatomic e hreply rfl).1⟩

end Session

end TapeDebugger
