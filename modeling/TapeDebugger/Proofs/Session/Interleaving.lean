/-
How a run is cut into operations does not change what it computes.

* `Session.stepsMade`: the number of machine steps that a command makes;
* `Session.Follows`: the session is so many steps into a run, it remembers
  the fault of the last one, and no timed run is active on a halted machine;
* `Session.Follows.perform`: a command that keeps the run takes the session
  as many steps further as it makes;
* `Session.Run`: a session after a run was started in it, with commands that
  neither stop it nor start another, at any times;
* `Session.Run.interleaving_independence`: such a session has the machine of
  the program after as many single steps as its commands made, and two of
  them agree once both are halted.

Nothing is assumed about the times or about the session before the start, and
a command may be refused.
-/
import Mathlib.Tactic
import TapeDebugger.Session.Command
import TapeDebugger.Proofs.Machine.Stretches

namespace TapeDebugger

namespace Session

variable {s : Session} {now : Time}

/-! ### What the operations do -/

/-- Nothing is refused to a session with a machine that is not halted and no
timed run. -/
lemma refusal?_eq_none_iff {operation : String} :
    s.refusal? operation = none ↔
      s.schedule.isActive = false ∧ s.machine.halted = false := by
  rw [refusal?]
  cases s.schedule.isActive <;> cases s.machine.halted <;> simp

lemma step_of_refusal {r : Rejection} (h : s.refusal? "step" = some r) :
    s.step.2 = s := by
  rw [step, h]

/-- An accepted step is one step of the machine. -/
lemma step_of_accepted (h : s.refusal? "step" = none) :
    s.step.2 = { s with
      machine := s.machine.step.2
      lastFault := s.machine.step.1.or s.lastFault }.notify := by
  rw [step, h]
  obtain ⟨c, -, hstep⟩ | ⟨f, -, hstep⟩ := s.machine.step_cases <;>
    rw [hstep] <;> rfl

lemma stepMany_of_refusal {r : Rejection} {count : Nat}
    (h : s.refusal? "step" = some r) : (s.stepMany count).2 = s := by
  rw [stepMany, h]

/-- Accepted steps are one burst of the machine. -/
lemma stepMany_of_accepted {count : Nat} (h : s.refusal? "step" = none) :
    (s.stepMany count).2 = { s with
      machine := (s.machine.burst true count).machine
      lastFault := (s.machine.burst true count).fault?.or s.lastFault }.notify := by
  rw [stepMany, h]
  obtain ⟨steps, fault?, machine⟩ := s.machine.burst true count
  cases fault? <;> rfl

/-- A batch of the session is a batch of its machine. It ends the timed run
unless the run is to go on. -/
lemma runBatch_eq (s : Session) (mode : RunMode) :
    let r := s.machine.batch mode s.config.batchSize
    s.runBatch mode = (r.1, { s with
      machine := r.2
      schedule := if r.1 = .yielded then s.schedule else s.schedule.cancel
      lastFault := r.1.fault?.or s.lastFault
      observers := if r.1 = .yielded ∧ mode = .breakpoint then s.observers
        else s.observers.emit .update }) := by
  rw [runBatch]
  obtain ⟨outcome, machine⟩ := s.machine.batch mode s.config.batchSize
  cases outcome <;> cases mode <;> rfl

lemma poll_of_not_due (h : s.schedule.isDue now = false) :
    s.poll now = (none, s) := by
  simp [poll, Schedule.takeDue, h]

/-- A batch that is due is run in the mode of the active run. -/
lemma poll_of_due (h : s.schedule.isDue now = true) :
    ∃ mode, s.schedule.active = some mode ∧
      (s.poll now).2 = ({ s with schedule := (s.schedule.takeDue now).2 }.runBatch
        mode).2 := by
  have hactive : s.schedule.isActive = true := by
    rw [Schedule.isDue, Bool.and_eq_true] at h
    exact h.1
  obtain ⟨mode, hmode⟩ := Option.isSome_iff_exists.mp hactive
  refine ⟨mode, hmode, ?_⟩
  simp [poll, Schedule.takeDue, h, hmode]

/-! ### Steps made by commands -/

/-- The number of machine steps that a command makes. -/
def stepsMade (now : Time) (s : Session) : Command → Nat
  | .step => if s.refusal? "step" = none then 1 else 0
  | .stepMany count =>
      if s.refusal? "step" = none then (s.machine.burst true count).steps
      else 0
  | .poll =>
      match (s.schedule.takeDue now).1 with
      | some mode => (s.machine.countedBatch mode s.config.batchSize).steps
      | none => 0
  | _ => 0

/-- The command leaves the present run in place: it does not stop it, and it
does not start another. -/
def Keeps (s : Session) : Command → Prop
  | .stop => False
  | .start code input => (s.start code input).1 ≠ .ok ()
  | _ => True

/-! ### A session that follows a run -/

/-- The session is `k` steps into the run of the machine `m`: none of them
was made on a halted machine, the fault of the last one is remembered, and a
timed run is active only on a machine that is not halted. -/
structure Follows (s : Session) (m : Machine) (k : Nat) : Prop where
  stretch : m.Stretch k s.lastFault s.machine
  awake_of_active : s.schedule.isActive = true → s.machine.halted = false

variable {m : Machine} {k : Nat}

/-- Steps of the machine take the session further. The fault of an earlier
step is not in the way, since after it there are no steps. -/
lemma Follows.extend (h : s.Follows m k) (hawake : s.machine.halted = false)
    {l : Nat} {f? : Option Fault} {m' : Machine}
    (hsteps : s.machine.Stretch l f? m') :
    m.Stretch (k + l) (f?.or s.lastFault) m' := by
  rw [h.stretch.fault_eq_none hawake, Option.or_none]
  exact h.stretch.trans hawake hsteps

/-- Steps that are not refused take the session further: there is no timed
run that they could leave active on a halted machine. -/
lemma Follows.extend_of_accepted (h : s.Follows m k) {operation : String}
    (hr : s.refusal? operation = none) {l : Nat} {f? : Option Fault}
    {m' : Machine} (hsteps : s.machine.Stretch l f? m') :
    { s with machine := m', lastFault := f?.or s.lastFault }.notify.Follows
      m (k + l) := by
  obtain ⟨hidle, hawake⟩ := refusal?_eq_none_iff.mp hr
  refine ⟨h.extend hawake hsteps, fun hactive => ?_⟩
  exact absurd (hidle.symm.trans hactive) (by decide)

/-- What changes neither machine nor fault, and begins no timed run, keeps
the session where it is in its run. -/
lemma Follows.of_eq {t : Session} (h : s.Follows m k)
    (hmachine : t.machine = s.machine) (hfault : t.lastFault = s.lastFault)
    (hactive : t.schedule.isActive = true → s.machine.halted = false) :
    t.Follows m k where
  stretch := by rw [hmachine, hfault]; exact h.stretch
  awake_of_active := by rw [hmachine]; exact hactive

lemma Follows.step (h : s.Follows m k) :
    s.step.2.Follows m (k + s.stepsMade now .step) := by
  cases hr : s.refusal? "step" with
  | some r => simpa [stepsMade, hr, step_of_refusal hr] using h
  | none =>
      have hawake := (refusal?_eq_none_iff.mp hr).2
      rw [step_of_accepted hr, stepsMade, if_pos hr]
      exact h.extend_of_accepted hr (.single hawake)

lemma Follows.stepMany (h : s.Follows m k) (count : Nat) :
    (s.stepMany count).2.Follows m (k + s.stepsMade now (.stepMany count)) := by
  cases hr : s.refusal? "step" with
  | some r => simpa [stepsMade, hr, stepMany_of_refusal hr] using h
  | none =>
      rw [stepMany_of_accepted hr, stepsMade, if_pos hr]
      exact h.extend_of_accepted hr (Machine.stretch_burst count s.machine)

lemma Follows.arm (h : s.Follows m k) (mode : RunMode) (operation : String)
    (now : Time) : (s.arm mode operation now).2.Follows m k := by
  rw [Session.arm]
  cases hr : s.refusal? operation with
  | some r => exact h
  | none => exact h.of_eq rfl rfl fun _ => (refusal?_eq_none_iff.mp hr).2

lemma Follows.pause (h : s.Follows m k) : s.pause.2.Follows m k := by
  rw [Session.pause]
  split
  · next hactive => exact h.of_eq rfl rfl fun _ => h.awake_of_active hactive
  · exact h

lemma Follows.poll (h : s.Follows m k) :
    (s.poll now).2.Follows m (k + s.stepsMade now .poll) := by
  cases hdue : s.schedule.isDue now with
  | false =>
      simpa [stepsMade, Schedule.takeDue, hdue, poll_of_not_due hdue] using h
  | true =>
      obtain ⟨mode, hmode, hpoll⟩ := poll_of_due hdue
      have hawake := h.awake_of_active (by rw [Schedule.isActive, hmode]; rfl)
      obtain ⟨hstretch, hgoes⟩ :=
        Machine.stretch_batch mode s.config.batchSize hawake
      have hsteps : s.stepsMade now .poll
          = (s.machine.countedBatch mode s.config.batchSize).steps := by
        simp [stepsMade, Schedule.takeDue, hdue, hmode]
      rw [hpoll, runBatch_eq, hsteps]
      refine ⟨h.extend hawake hstretch, fun hactive => ?_⟩
      -- only a batch that yields leaves the run active
      by_cases hyield : (s.machine.batch mode s.config.batchSize).1 = .yielded
      · exact hgoes hyield
      · simp [hyield, Schedule.cancel, Schedule.isActive] at hactive

/-- **A command takes the session as many steps further as it makes**, if it
keeps the run. -/
lemma Follows.perform (h : s.Follows m k) {c : Command} (hkeeps : s.Keeps c) :
    (s.perform now c).2.Follows m (k + s.stepsMade now c) := by
  cases c with
  | start code input =>
      have hrefused : (s.start code input).2 = s := by
        rw [Keeps, start] at hkeeps
        rw [start]
        split_ifs at hkeeps ⊢
        · rfl
        · exact absurd rfl hkeeps
        · rfl
      simpa [Session.perform, stepsMade, hrefused] using h
  | step => exact h.step
  | stepMany count => exact h.stepMany count
  | runToEnd => exact h.arm .continuous "run" now
  | runToBreakpoint => exact h.arm .breakpoint "run to breakpoint" now
  | pause => exact h.pause
  | stop => exact absurd hkeeps (by simp [Keeps])
  | poll => exact h.poll

/-! ### Sequences of commands -/

/-- Carries out commands, each at its time. -/
def carryOut (s : Session) : List (Time × Command) → Session
  | [] => s
  | (now, c) :: rest => (s.perform now c).2.carryOut rest

/-- The number of machine steps that the commands make altogether. -/
def stepsOver (s : Session) : List (Time × Command) → Nat
  | [] => 0
  | (now, c) :: rest =>
      s.stepsMade now c + (s.perform now c).2.stepsOver rest

/-- All the commands leave the present run in place. -/
def KeepsOver (s : Session) : List (Time × Command) → Prop
  | [] => True
  | (now, c) :: rest => s.Keeps c ∧ (s.perform now c).2.KeepsOver rest

/-- Commands that keep the run take the session as many steps further as they
make altogether. -/
lemma Follows.carryOut (h : s.Follows m k) {commands : List (Time × Command)}
    (hkeeps : s.KeepsOver commands) :
    (s.carryOut commands).Follows m (k + s.stepsOver commands) := by
  induction commands generalizing s k with
  | nil => exact h
  | cons request rest ih =>
      obtain ⟨now, c⟩ := request
      obtain ⟨hc, hrest⟩ := hkeeps
      rw [Session.carryOut, stepsOver, ← Nat.add_assoc]
      exact ih (h.perform hc) hrest

/-- A session in which a run was started and then not replaced. -/
structure Run (code input : String) where
  /-- The session before the start. -/
  before : Session
  accepted : (before.start code input).1 = .ok ()
  /-- The commands after the start, with their times. -/
  commands : List (Time × Command)
  keeps : (before.start code input).2.KeepsOver commands

namespace Run

variable {code input : String}

/-- The session after all the commands. -/
def session (r : Run code input) : Session :=
  (r.before.start code input).2.carryOut r.commands

/-- The number of machine steps that the commands made. -/
def steps (r : Run code input) : Nat :=
  (r.before.start code input).2.stepsOver r.commands

/-- A start that is accepted begins the run. -/
lemma follows_start (r : Run code input) :
    (r.before.start code input).2.Follows (.load code input) 0 := by
  have haccepted := r.accepted
  rw [start] at haccepted ⊢
  split_ifs at haccepted ⊢ with hactive
  · exact ⟨.refl _, fun h => absurd h hactive⟩

lemma follows (r : Run code input) :
    r.session.Follows (.load code input) r.steps := by
  have h := r.follows_start.carryOut r.keeps
  rwa [Nat.zero_add] at h

/-- **Interleaving does not matter**: whatever commands follow an accepted
start, at whatever times, the machine is that of the program after as many
single steps as the commands made; none of these was made on a halted
machine, and the session remembers the fault of the last one, if it failed.
Two sessions with the same program and input therefore agree as soon as both
are halted. -/
theorem interleaving_independence (r : Run code input) :
    (r.session.machine = Machine.after r.steps (.load code input) ∧
      (∀ j < r.steps, (Machine.after j (.load code input)).halted = false) ∧
      r.session.lastFault = (Machine.load code input).faultOf r.steps) ∧
    ∀ r' : Run code input,
      r.session.machine.halted = true → r'.session.machine.halted = true →
        r.session.machine = r'.session.machine ∧
          r.session.lastFault = r'.session.lastFault := by
  have hstretch : ∀ r : Run code input, (Machine.load code input).Stretch
      r.steps r.session.lastFault r.session.machine := fun r => r.follows.stretch
  obtain ⟨hmachine, hawake, hfault⟩ := hstretch r
  refine ⟨⟨hmachine, hawake, hfault⟩, fun r' hhalt hhalt' => ?_⟩
  obtain ⟨hmachine', hawake', hfault'⟩ := hstretch r'
  have hsteps : r.steps = r'.steps :=
    Machine.HaltsAfter.unique ⟨hawake, hmachine ▸ hhalt⟩
      ⟨hawake', hmachine' ▸ hhalt'⟩
  exact ⟨by rw [hmachine, hmachine', hsteps], by rw [hfault, hfault', hsteps]⟩

/-- Many steps at once, and batches of two with a pause and a step between
them, come to the same fault of `+[-]+]` after six steps. -/
theorem interleaving_independence_fault :
    let stepped : Run "+[-]+]" "" :=
      ⟨.new .standard, rfl, [(0, .stepMany 100)], by simp [KeepsOver, Keeps]⟩
    let timed : Run "+[-]+]" "" :=
      ⟨.new ((Config.standard.withInterval 3).withBatchSize 2), rfl,
        [(0, .runToEnd), (3, .poll), (4, .pause), (4, .step),
          (5, .runToBreakpoint), (9, .poll), (10, .poll), (12, .poll)],
        by simp [KeepsOver, Keeps]⟩
    (stepped.session.machine.halted = true ∧
      timed.session.machine.halted = true) ∧
      stepped.session.machine = timed.session.machine ∧
      stepped.session.lastFault = timed.session.lastFault := by
  intro stepped timed
  have hstepped : stepped.session.machine.halted = true := by decide
  have htimed : timed.session.machine.halted = true := by decide
  exact ⟨⟨hstepped, htimed⟩,
    (interleaving_independence stepped).2 timed hstepped htimed⟩

end Run

end Session

end TapeDebugger
