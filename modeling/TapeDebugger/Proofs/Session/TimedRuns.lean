/-
Timed runs end with the first step that stops them, whatever the size of
their batches.

* `Session.replies` and `Session.outcomes`: what a sequence of commands is
  answered, and the outcomes of the batches among it;
* `Session.carryOut?`: the same with the session after them, unless a deadline
  cannot be told;
* `Schedule.ticks`: how many polls of a sequence come when a batch is due;
* `Session.polls_of_goesOn`: as long as no step stops the run, every poll
  that is due makes all the steps of a batch;
* `Session.polls_of_firstStop`: the batch that reaches the first stop is cut
  short there, and it is the last;
* `Session.timed_run_ends_at_first_stop`: both for a run from its beginning,
  with the number of batches and of updates.

The polls come at any times, which need not grow.
-/
import Mathlib.Tactic
import Mathlib.Algebra.Order.Floor.Div
import TapeDebugger.Proofs.Observers
import TapeDebugger.Proofs.Machine.Stops
import TapeDebugger.Proofs.Session.Effects

namespace TapeDebugger

/-! ### Polls that are due -/

/-- How many polls at the given times come when a batch is due, if the run
stays active: the first at or after the deadline, and each other a whole
interval or more after the one before. -/
def Schedule.ticks (s : Schedule) : List Time → Nat
  | [] => 0
  | now :: later =>
      if s.deadline ≤ now then
        ticks { s with deadline := now + s.interval } later + 1
      else s.ticks later

/-- The outcome of the batch that a command has run, if it has. -/
def Reply.outcome? : Reply → Option Outcome
  | .polled outcome? => outcome?
  | _ => none

namespace Session

open Machine (after)

variable {s : Session} {mode : RunMode} {now : Time} {k : Nat} {o : Outcome}

/-! ### Sequences of polls -/

/-- The replies to commands, each at its time. -/
def replies (s : Session) : List (Time × Command) → List Reply
  | [] => []
  | (now, c) :: rest =>
      (s.perform now c).1 :: (s.perform now c).2.replies rest

/-- The outcomes of the batches that commands run, in order. -/
def outcomes (s : Session) (commands : List (Time × Command)) :
    List Outcome :=
  (s.replies commands).filterMap Reply.outcome?

/-- The replies to commands and the session after them, unless one of them
would set a deadline that cannot be told. -/
def carryOut? (s : Session) :
    List (Time × Command) → Option (List Reply × Session)
  | [] => some ([], s)
  | (now, c) :: rest =>
      match s.perform? now c with
      | none => none
      | some (reply, s') =>
          (s'.carryOut? rest).map fun (replies, last) =>
            (reply :: replies, last)

/-- No command changes the time between two batches. -/
lemma interval_perform (s : Session) (now : Time) (c : Command) :
    (s.perform now c).2.schedule.interval = s.schedule.interval := by
  rcases hperform : s.perform now c with ⟨reply, s'⟩
  cases effect_of_perform hperform <;> rfl

/-- Commands are carried out if deadlines set at their times could be
told. -/
lemma carryOut?_of_fits {commands : List (Time × Command)}
    (h : ∀ p ∈ commands, s.schedule.fits p.1 = true) :
    s.carryOut? commands = some (s.replies commands, s.carryOut commands) := by
  induction commands generalizing s with
  | nil => rfl
  | cons request rest ih =>
      obtain ⟨now, c⟩ := request
      have hrest : ∀ p ∈ rest,
          (s.perform now c).2.schedule.fits p.1 = true := by
        intro p hp
        rw [Schedule.fits, interval_perform]
        exact h p (List.mem_cons_of_mem _ hp)
      rw [carryOut?, perform?_of_fits (h _ List.mem_cons_self) c]
      simp only [ih hrest, Option.map_some, replies, carryOut]

/-- Polls at the given times. -/
def pollsAt (times : List Time) : List (Time × Command) :=
  times.map fun now => (now, .poll)

lemma outcomes_cons (now : Time) (c : Command)
    (rest : List (Time × Command)) :
    s.outcomes ((now, c) :: rest) =
      (s.perform now c).1.outcome?.toList ++
        (s.perform now c).2.outcomes rest := by
  rw [outcomes, replies, List.filterMap_cons]
  cases (s.perform now c).1.outcome? <;> rfl

/-- The first of several polls, and the others from where it leads. -/
lemma polls_cons {outcome? : Option Outcome} {s' : Session}
    (h : s.poll now = (outcome?, s')) (later : List Time) :
    s.outcomes (pollsAt (now :: later)) =
        outcome?.toList ++ s'.outcomes (pollsAt later) ∧
      s.carryOut (pollsAt (now :: later)) = s'.carryOut (pollsAt later) := by
  have hperform : s.perform now .poll = (.polled outcome?, s') := by
    rw [perform, h]
    rfl
  rw [pollsAt, List.map_cons, outcomes_cons, carryOut, hperform]
  exact ⟨rfl, rfl⟩

lemma isDue_of_idle (h : s.schedule.active = none) (now : Time) :
    s.schedule.isDue now = false := by
  rw [Schedule.isDue, Schedule.isActive, h]
  rfl

lemma isDue_of_early (h : ¬ s.schedule.deadline ≤ now) :
    s.schedule.isDue now = false := by
  rw [Schedule.isDue, decide_eq_false h, Bool.and_false]

lemma poll_of_idle (h : s.schedule.active = none) (now : Time) :
    s.poll now = (none, s) :=
  poll_of_not_due (isDue_of_idle h now)

lemma poll_of_early (h : ¬ s.schedule.deadline ≤ now) :
    s.poll now = (none, s) :=
  poll_of_not_due (isDue_of_early h)

/-- Without a timed run, polls do nothing. -/
lemma polls_of_idle (h : s.schedule.active = none) (times : List Time) :
    s.outcomes (pollsAt times) = [] ∧ s.carryOut (pollsAt times) = s := by
  induction times with
  | nil => exact ⟨rfl, rfl⟩
  | cons now later ih =>
      obtain ⟨houtcomes, hlast⟩ := polls_cons (poll_of_idle h now) later
      rw [houtcomes, hlast]
      exact ih

/-! ### A run that goes on -/

lemma goOn_config (s : Session) (mode : RunMode) (m : Machine) (now : Time) :
    (s.goOn mode m now).config = s.config := rfl

lemma goOn_machine (s : Session) (mode : RunMode) (m : Machine)
    (now : Time) : (s.goOn mode m now).machine = m := rfl

lemma goOn_observers (s : Session) (mode : RunMode) (m : Machine)
    (now : Time) :
    (s.goOn mode m now).observers =
      s.observers.updated mode.updatesOnYield := rfl

lemma poll_of_goesOn (hactive : s.schedule.active = some mode)
    (hdue : s.schedule.deadline ≤ now)
    (h : s.machine.GoesOn mode s.config.batchSize) :
    s.poll now = (some .yielded,
      s.goOn mode (after s.config.batchSize s.machine) now) :=
  poll_eq_of_due hactive hdue (Machine.batch_of_goesOn h)

/-- **As long as the run goes on**, each poll that is due makes all the steps
of a batch and yields. -/
lemma polls_of_goesOn (hactive : s.schedule.active = some mode)
    {times : List Time} {due : Nat} (hdue : s.schedule.ticks times = due)
    (h : s.machine.GoesOn mode (due * s.config.batchSize)) :
    s.outcomes (pollsAt times) = List.replicate due .yielded ∧
      (s.carryOut (pollsAt times)).machine
        = after (due * s.config.batchSize) s.machine ∧
      (s.carryOut (pollsAt times)).schedule.active = some mode ∧
      (s.carryOut (pollsAt times)).observers
        = s.observers.updated (due * mode.updatesOnYield) := by
  induction times generalizing s due with
  | nil =>
      obtain rfl : 0 = due := hdue
      rw [Nat.zero_mul, Nat.zero_mul]
      exact ⟨rfl, rfl, hactive, rfl⟩
  | cons now later ih =>
      rw [Schedule.ticks] at hdue
      split_ifs at hdue with htime
      · -- the batch makes all its steps, and the rest of the run goes on
        obtain ⟨n, rfl⟩ : ∃ n, due = n + 1 := ⟨_, hdue.symm⟩
        have hsteps : (n + 1) * s.config.batchSize
            = s.config.batchSize + n * s.config.batchSize := by ring
        rw [hsteps] at h ⊢
        have hpoll := poll_of_goesOn hactive htime (h.mono (by omega))
        obtain ⟨houtcomes, hlast⟩ := polls_cons hpoll later
        obtain ⟨ihoutcomes, ihmachine, ihactive, ihobservers⟩ :=
          ih (s := s.goOn mode (after s.config.batchSize s.machine) now)
            hactive (Nat.succ.inj hdue) h.drop
        rw [houtcomes, hlast, ihoutcomes, ihmachine, ihobservers,
          goOn_observers, ← Observers.updated_add, Machine.after_add]
        refine ⟨rfl, rfl, ihactive, ?_⟩
        rw [Nat.succ_mul, Nat.add_comm]
      · obtain ⟨houtcomes, hlast⟩ := polls_cons (poll_of_early htime) later
        rw [houtcomes, hlast]
        exact ih hactive hdue h

/-! ### A run that stops -/

lemma poll_of_firstStop (hactive : s.schedule.active = some mode)
    (hawake : s.machine.halted = false) (hdue : s.schedule.deadline ≤ now)
    (h : s.machine.FirstStop mode k o) (hk : k ≤ s.config.batchSize) :
    s.poll now = (some o, s.endRun o (after k s.machine) now) := by
  rw [poll_eq_of_due hactive hdue (Machine.batch_of_firstStop hawake h hk),
    if_neg]
  rintro rfl
  cases h.stops

/-- **The batch that reaches the first stop is the last.** If `n` batches
make no stop and the next one does, then the first `n` polls that are due
yield, the next one tells how the run ended, and nothing is run after it. -/
lemma polls_of_firstStop (hactive : s.schedule.active = some mode)
    (hawake : s.machine.halted = false) (h : s.machine.FirstStop mode k o)
    {n : Nat} (hlow : n * s.config.batchSize < k)
    (hhigh : k ≤ (n + 1) * s.config.batchSize) {times : List Time}
    (hdue : n < s.schedule.ticks times) :
    s.outcomes (pollsAt times) = List.replicate n .yielded ++ [o] ∧
      (s.carryOut (pollsAt times)).machine = after k s.machine ∧
      (s.carryOut (pollsAt times)).schedule.active = none ∧
      (s.carryOut (pollsAt times)).observers
        = s.observers.updated (n * mode.updatesOnYield + 1) := by
  induction times generalizing s k n with
  | nil => exact absurd hdue (Nat.not_lt_zero n)
  | cons now later ih =>
      rw [Schedule.ticks] at hdue
      split_ifs at hdue with htime
      · cases n with
        | zero =>
            have hpoll := poll_of_firstStop hactive hawake htime h (by omega)
            obtain ⟨houtcomes, hlast⟩ := polls_cons hpoll later
            obtain ⟨hnone, hstay⟩ := polls_of_idle
              (s := s.endRun o (after k s.machine) now) rfl later
            rw [houtcomes, hlast, hnone, hstay, Nat.zero_mul]
            exact ⟨rfl, rfl, rfl, rfl⟩
        | succ n =>
            -- the first batch goes on, since the stop lies beyond it
            rw [Nat.succ_mul] at hlow hhigh
            have hgoes : s.machine.GoesOn mode s.config.batchSize :=
              h.goesOn (by omega)
            have hpoll := poll_of_goesOn hactive htime hgoes
            obtain ⟨houtcomes, hlast⟩ := polls_cons hpoll later
            obtain ⟨ihoutcomes, ihmachine, ihactive, ihobservers⟩ :=
              ih (s := s.goOn mode (after s.config.batchSize s.machine) now)
                hactive (hgoes.awake hawake) (h.drop (by omega))
                (n := n) (by rw [goOn_config]; omega)
                (by rw [goOn_config]; omega) (Nat.lt_of_succ_lt_succ hdue)
            rw [houtcomes, hlast, ihoutcomes, ihmachine, ihobservers,
              goOn_observers, ← Observers.updated_add]
            refine ⟨rfl, ?_, ihactive, ?_⟩
            · rw [goOn_machine, ← Machine.after_add,
                Nat.add_sub_of_le (by omega)]
            · rw [Nat.succ_mul]
              congr 1
              omega
      · obtain ⟨houtcomes, hlast⟩ := polls_cons (poll_of_early htime) later
        rw [houtcomes, hlast]
        exact ih hactive hawake h hlow hhigh hdue

/-! ### A run from its beginning -/

/-- The last of the batches that `k` steps need is not empty. -/
lemma exists_last_batch {k size : Nat} (hk : 0 < k) (hsize : 0 < size) :
    ∃ n, k ⌈/⌉ size = n + 1 ∧ n * size < k ∧ k ≤ (n + 1) * size := by
  have hle : ∀ n, k ⌈/⌉ size ≤ n ↔ k ≤ n * size := by
    intro n
    rw [ceilDiv_le_iff_le_mul hsize, Nat.mul_comm]
  have hpos : 0 < k ⌈/⌉ size := by
    rw [← Nat.not_le, hle]
    omega
  obtain ⟨n, hn⟩ : ∃ n, k ⌈/⌉ size = n + 1 := ⟨k ⌈/⌉ size - 1, by omega⟩
  refine ⟨n, hn, ?_, (hle (n + 1)).mp hn.le⟩
  rw [← Nat.not_le, ← hle]
  omega

/-- A paused run is armed by the command of its mode. -/
lemma perform_command (h : s.runState = .paused) (mode : RunMode)
    (now : Time) :
    s.perform now mode.command =
      (.done, { s with schedule := s.schedule.arm mode now }) := by
  cases mode with
  | continuous =>
      rw [RunMode.command, perform, runToEnd, arm,
        refusal?_eq_none_of_paused h]
      rfl
  | breakpoint =>
      rw [RunMode.command, perform, runToBreakpoint, arm,
        refusal?_eq_none_of_paused h]
      rfl

/-- A timed run, begun in the given mode and polled at the given times. -/
def timedRun (mode : RunMode) (begun : Time) (times : List Time) :
    List (Time × Command) :=
  (begun, mode.command) :: pollsAt times

lemma timedRun_of_fits {begun : Time} {times : List Time}
    (h : ∀ now ∈ begun :: times, s.schedule.fits now = true) :
    s.carryOut? (timedRun mode begun times) =
      some (s.replies (timedRun mode begun times),
        s.carryOut (timedRun mode begun times)) := by
  refine carryOut?_of_fits fun p hp => h p.1 ?_
  obtain rfl | hpoll := List.mem_cons.mp hp
  · exact List.mem_cons_self
  · obtain ⟨now, hnow, rfl⟩ := List.mem_map.mp hpoll
    exact List.mem_cons_of_mem begun hnow

/-- The command that begins a timed run executes nothing, so the batches are
those of the polls in the armed session. -/
lemma timedRun_eq_polls (h : s.runState = .paused) (mode : RunMode)
    (begun : Time) (times : List Time) :
    let armed := { s with schedule := s.schedule.arm mode begun }
    s.outcomes (timedRun mode begun times) = armed.outcomes (pollsAt times) ∧
      s.carryOut (timedRun mode begun times)
        = armed.carryOut (pollsAt times) := by
  rw [timedRun, outcomes_cons, carryOut, perform_command h]
  exact ⟨rfl, rfl⟩

lemma timedRun_of_goesOn (h : s.runState = .paused) {begun : Time}
    {times : List Time} {due : Nat}
    (hdue : (s.schedule.arm mode begun).ticks times = due)
    (hgoes : s.machine.GoesOn mode (due * s.config.batchSize)) :
    s.outcomes (timedRun mode begun times) = List.replicate due .yielded ∧
      (s.carryOut (timedRun mode begun times)).machine
        = after (due * s.config.batchSize) s.machine ∧
      (s.carryOut (timedRun mode begun times)).runState
        = .running mode := by
  obtain ⟨houtcomes, hlast⟩ := timedRun_eq_polls h mode begun times
  rw [houtcomes, hlast]
  obtain ⟨hyields, hmachine, hactive, -⟩ :=
    polls_of_goesOn (s := { s with schedule := s.schedule.arm mode begun })
      rfl hdue hgoes
  exact ⟨hyields, hmachine, runState_eq_running_iff.mpr hactive⟩

lemma timedRun_of_firstStop (h : s.runState = .paused)
    (hfirst : s.machine.FirstStop mode k o) {n : Nat}
    (hlow : n * s.config.batchSize < k)
    (hhigh : k ≤ (n + 1) * s.config.batchSize) {begun : Time}
    {times : List Time}
    (hdue : n < (s.schedule.arm mode begun).ticks times) :
    s.outcomes (timedRun mode begun times)
        = List.replicate n .yielded ++ [o] ∧
      (s.carryOut (timedRun mode begun times)).machine
        = after k s.machine ∧
      (s.carryOut (timedRun mode begun times)).schedule.active = none ∧
      (s.carryOut (timedRun mode begun times)).observers
        = s.observers.updated (n * mode.updatesOnYield + 1) := by
  obtain ⟨houtcomes, hlast⟩ := timedRun_eq_polls h mode begun times
  rw [houtcomes, hlast]
  exact polls_of_firstStop
    (s := { s with schedule := s.schedule.arm mode begun }) rfl
    (runState_eq_paused_iff.mp h).2 hfirst hlow hhigh hdue

/-- **A timed run ends at its first stop**, whatever the size of its batches,
as long as they make a step at all, and the times of its polls. If the first step that fails, halts the machine
or comes to a heeded marker has number `k`, the run has as many batches as
are needed for `k` steps: all but the last one yield, the last one tells how
the run ended, and after it nothing is active and polls do nothing. If there
is no such step, every poll that is due makes a whole batch. The updates are
one for each batch, or one for the whole run if it heeds markers. All this is
carried out if deadlines set at these times can be told. -/
theorem timed_run_ends_at_first_stop {s : Session}
    (hpaused : s.runState = .paused) (hsize : 0 < s.config.batchSize)
    (mode : RunMode) (begun : Time) (times : List Time) :
    let run := timedRun mode begun times
    let last := s.carryOut run
    let size := s.config.batchSize
    let due := (s.schedule.arm mode begun).ticks times
    (s.perform begun mode.command).1 = .done ∧
      ((∀ now ∈ begun :: times, s.schedule.fits now = true) →
        s.carryOut? run = some (s.replies run, last)) ∧
      (∀ k o, s.machine.FirstStop mode k o →
        (s.outcomes run).length ≤ k ⌈/⌉ size ∧
          (due < k ⌈/⌉ size →
            s.outcomes run = List.replicate due .yielded ∧
              last.machine = after (due * size) s.machine ∧
              last.runState = .running mode) ∧
          (k ⌈/⌉ size ≤ due →
            s.outcomes run
                = List.replicate (k ⌈/⌉ size - 1) .yielded ++ [o] ∧
              last.machine = after k s.machine ∧
              last.schedule.isActive = false ∧
              (∀ now, last.poll now = (none, last)) ∧
              (o = .breakpoint → last.runState = .paused ∧
                last.currentChar? = some '*') ∧
              last.observers = s.observers.updated
                (match mode with
                  | .continuous => k ⌈/⌉ size
                  | .breakpoint => 1))) ∧
      ((∀ k o, ¬ s.machine.FirstStop mode k o) →
        s.outcomes run = List.replicate due .yielded ∧
          last.machine = after (due * size) s.machine ∧
          last.runState = .running mode) := by
  intro run last size due
  refine ⟨by rw [perform_command hpaused], timedRun_of_fits,
    fun k o hfirst => ?_, fun hnever => ?_⟩
  · obtain ⟨n, hbatches, hlow, hhigh⟩ :=
      exists_last_batch hfirst.pos hsize
    have hgoing : due < n + 1 → s.machine.GoesOn mode (due * size) := by
      intro hdue
      have hle : due * size ≤ n * size :=
        Nat.mul_le_mul_right size (Nat.lt_succ_iff.mp hdue)
      exact hfirst.goesOn (hle.trans_lt hlow)
    rw [hbatches]
    refine ⟨?_, fun hdue => timedRun_of_goesOn hpaused rfl (hgoing hdue),
      fun hdue => ?_⟩
    · by_cases hdue : due < n + 1
      · rw [(timedRun_of_goesOn hpaused rfl (hgoing hdue)).1,
          List.length_replicate]
        exact hdue.le
      · rw [(timedRun_of_firstStop hpaused hfirst hlow hhigh
          (Nat.not_lt.mp hdue)).1, List.length_append, List.length_replicate]
        rfl
    · obtain ⟨hall, hmachine, hidle, hobservers⟩ :=
        timedRun_of_firstStop hpaused hfirst hlow hhigh hdue
      refine ⟨hall, hmachine, by rw [Schedule.isActive, hidle]; rfl,
        poll_of_idle hidle, ?_, ?_⟩
      · rintro rfl
        obtain ⟨hawake, hmarker⟩ :=
          hfirst.at_marker (runState_eq_paused_iff.mp hpaused).2
        rw [runState_eq_paused_iff, currentChar?, hmachine]
        exact ⟨⟨hidle, hawake⟩, hmarker⟩
      · rw [hobservers]
        cases mode with
        | continuous => rw [RunMode.updatesOnYield, Nat.mul_one]
        | breakpoint => rw [RunMode.updatesOnYield, Nat.mul_zero]
  · exact timedRun_of_goesOn hpaused rfl
      (Machine.goesOn_of_no_firstStop hnever _)

/-- In batches of two, a run of `++++*+` to its marker yields once and stops
at the second poll that is due, and the third finds nothing to do. -/
theorem timed_run_ends_at_first_stop_marker :
    let config := (Config.standard.withInterval 3).withBatchSize 2
    let s := ((Session.new config).start "++++*+" "").2
    let run := timedRun .breakpoint 10 [12, 13, 15, 16, 30]
    ((s.runState = .paused ∧ 0 < s.config.batchSize) ∧
        s.machine.FirstStop .breakpoint 4 .breakpoint) ∧
      s.outcomes run = [.yielded, .breakpoint] ∧
      (s.carryOut run).machine = after 4 s.machine ∧
      (s.carryOut run).runState = .paused ∧
      (s.carryOut run).currentChar? = some '*' := by
  intro config s run
  have hpaused : s.runState = .paused := by decide
  have hsize : 0 < s.config.batchSize := by decide
  have hfirst : s.machine.FirstStop .breakpoint 4 .breakpoint := by
    refine ⟨by decide, .breakpoint rfl (by decide), fun j hpos hj => ?_⟩
    rw [Machine.forall_not_stopsAt_iff]
    interval_cases j <;> decide
  obtain ⟨-, -, hstop, -⟩ :=
    timed_run_ends_at_first_stop hpaused hsize .breakpoint 10
      [12, 13, 15, 16, 30]
  obtain ⟨-, -, hended⟩ := hstop 4 .breakpoint hfirst
  obtain ⟨houtcomes, hmachine, -, -, hmarker, -⟩ := hended (by decide)
  exact ⟨⟨⟨hpaused, hsize⟩, hfirst⟩, houtcomes.trans (by decide), hmachine,
    hmarker rfl⟩

end Session

end TapeDebugger
