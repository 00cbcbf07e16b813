/-
Many steps at once, single steps and one batch come to the same.

* `Session.stepEach`: single steps up to a number, to the first that is
  refused or fails, or to the halt;
* `Session.stepEach_eq`: they leave the machine and the fault of a burst, and
  tell the observers about each step;
* `Session.timedRun_single`: a timed run that is polled once, when its batch
  is due, has the outcome of the burst;
* `Session.steps_at_once_agree`: how many steps are made at once, with what
  answer, and that the three ways agree.

The three loops look at the halted flag at different points: before a step,
after it, and before the call.
-/
import Mathlib.Tactic
import TapeDebugger.Proofs.Machine.Bursts
import TapeDebugger.Proofs.Session.TimedRuns

namespace TapeDebugger

namespace Session

open Machine (after)

variable {s : Session} {n k : Nat}

/-! ### Single steps -/

/-- The session after up to `count` single steps. There is no further one
after a step that is refused or fails, and none on a halted machine. -/
def stepEach (s : Session) : (count : Nat) → Session
  | 0 => s
  | count + 1 =>
      if s.machine.halted then s
      else
        match s.step with
        | (.ok (), s) => s.stepEach count
        | (.error _, s) => s

/-- An accepted step that does not fail. -/
lemma step_of_ok (h : s.runState = .paused)
    (hok : s.machine.step.1 = none) :
    s.step = (.ok (), { s with machine := s.machine.step.2 }.notify) := by
  have hstep : s.machine.step = (none, s.machine.step.2) := Prod.ext hok rfl
  rw [step, refusal?_eq_none_of_paused h, hstep]

/-- An accepted step that fails. -/
lemma step_of_fault {f : Fault} (h : s.runState = .paused)
    (hf : s.machine.step.1 = some f) :
    s.step = (.error (.fault f), { s with
      machine := s.machine.step.2, lastFault := some f }.notify) := by
  have hstep : s.machine.step = (some f, s.machine.step.2) := Prod.ext hf rfl
  rw [step, refusal?_eq_none_of_paused h, hstep]

lemma stepEach_of_halted (h : s.machine.halted = true) (count : Nat) :
    s.stepEach count = s := by
  cases count with
  | zero => rfl
  | succ count => rw [stepEach, if_pos h]

/-- Single steps go on behind the steps that can be made. -/
lemma stepEach_add (hidle : s.schedule.active = none)
    (h : s.machine.Unhindered k) (n : Nat) :
    s.stepEach (k + n) = { s with
      machine := after k s.machine
      observers := s.observers.updated k }.stepEach n := by
  induction k generalizing s with
  | zero => rw [Nat.zero_add]; rfl
  | succ k ih =>
      obtain ⟨⟨hawake, hok⟩, hrest⟩ := Machine.unhindered_succ_iff.mp h
      have hpaused := runState_eq_paused_iff.mpr ⟨hidle, hawake⟩
      rw [Nat.succ_add_eq_add_succ, Nat.add_succ, stepEach,
        if_neg (by simp [hawake]), step_of_ok hpaused hok]
      exact ih (s := { s with machine := s.machine.step.2 }.notify) hidle hrest

/-- **Single steps leave the machine of a burst** and remember its fault. The
observers are told about each of them. -/
lemma stepEach_eq (h : s.runState = .paused) (n : Nat) :
    s.stepEach n = { s with
      machine := (s.machine.burst true n).machine
      lastFault := (s.machine.burst true n).fault?.or s.lastFault
      observers := s.observers.updated (s.machine.burst true n).steps } := by
  have hidle := (runState_eq_paused_iff.mp h).1
  obtain ⟨k, hmost, hburst⟩ := s.machine.burst_cases n
  obtain ⟨left, rfl⟩ := Nat.exists_eq_add_of_le hmost.1.1
  rw [stepEach_add hidle hmost.1.2]
  obtain ⟨hend, hburst⟩ | ⟨f, ⟨hk, hawake⟩, hf, hburst⟩ := hburst
  · rw [hburst]
    rcases hend with hbound | hhalt
    · obtain rfl : left = 0 := by omega
      rfl
    · rw [stepEach_of_halted hhalt]
      rfl
  · obtain ⟨left, rfl⟩ : ∃ l, left = l + 1 := ⟨left - 1, by omega⟩
    have hpaused : { s with
        machine := after k s.machine
        observers := s.observers.updated k }.runState = .paused :=
      runState_eq_paused_iff.mpr ⟨hidle, hawake⟩
    rw [stepEach, if_neg (by simp [hawake]), step_of_fault hpaused hf, hburst,
      Machine.after_succ, Observers.updated_add]
    rfl

/-! ### Many steps at once -/

/-- The answer to many steps is told by their burst. -/
lemma stepMany_eq (h : s.runState = .paused) (n : Nat) :
    s.stepMany n =
      (match (s.machine.burst true n).fault? with
        | some f => .error (.fault f)
        | none => .ok (s.machine.burst true n).steps,
      { s with
        machine := (s.machine.burst true n).machine
        lastFault := (s.machine.burst true n).fault?.or s.lastFault
        observers := s.observers.updated 1 }) := by
  rw [stepMany, refusal?_eq_none_of_paused h]
  obtain ⟨steps, fault?, machine⟩ := s.machine.burst true n
  cases fault? <;> rfl

/-! ### One batch -/

/-- A timed run to the end that is polled once, when its batch is due, makes
the steps of a burst as large as a batch. -/
lemma timedRun_single (h : s.runState = .paused) {begun now : Time}
    (hdue : begun + s.schedule.interval ≤ now) :
    let b := s.machine.burst true s.config.batchSize
    let run := timedRun .continuous begun [now]
    s.replies run = [.done, .polled (some b.outcome)] ∧
      (s.carryOut run).machine = b.machine ∧
      (s.carryOut run).lastFault = b.fault?.or s.lastFault := by
  intro b run
  let armed := { s with schedule := s.schedule.arm .continuous begun }
  let last := if b.outcome = .yielded then
    armed.goOn .continuous b.machine now
    else armed.endRun b.outcome b.machine now
  have hawake := (runState_eq_paused_iff.mp h).2
  have harmed : s.perform begun RunMode.continuous.command = (.done, armed) :=
    perform_command h .continuous begun
  have hpolled : armed.perform now .poll
      = (.polled (some b.outcome), last) := by
    rw [perform, poll_eq_of_due (s := armed) rfl hdue
      (Machine.batch_eq_burst hawake s.config.batchSize)]
    rfl
  have hreplies : s.replies run = [(s.perform begun .runToEnd).1,
      ((s.perform begun .runToEnd).2.perform now .poll).1] := rfl
  have hlast : s.carryOut run
      = ((s.perform begun .runToEnd).2.perform now .poll).2 := rfl
  rw [RunMode.command] at harmed
  rw [hreplies, hlast, harmed, hpolled]
  refine ⟨rfl, ?_, ?_⟩
  · show last.machine = b.machine
    simp only [last]
    split_ifs <;> rfl
  · show last.lastFault = b.fault?.or s.lastFault
    rw [← b.fault?_outcome]
    simp only [last]
    split_ifs with hyield
    · rw [hyield]
      rfl
    · rfl

/-! ### The three ways -/

/-- **Many steps at once, single steps and one batch agree.** In a paused
session let `k` be the greatest number of steps within the bound `n` that can
be made. If the next step would be made within the bound and on a machine
that is not halted, it fails, and its fault is the answer to `n` steps at
once; otherwise the answer is `k`. In both cases the session is the one after
single steps up to the bound, to a failure or to the halt, but for the
observers, which are told once. A run to the end in batches of `n` steps that
is polled once, when the first batch is due, leaves the same machine and the
same fault: it has finished, yielded or failed exactly where the answer tells
a halt, `n` steps without a halt, or the fault. -/
theorem steps_at_once_agree (hpaused : s.runState = .paused) (n : Nat) :
    let m := s.machine
    let many := s.stepMany n
    (∃ k, m.MostSteps n k ∧
        (k < n → (after k m).halted = false →
          ∃ f, (after k m).step.1 = some f ∧ many.1 = .error (.fault f)) ∧
        (k = n ∨ (after k m).halted = true → many.1 = .ok k)) ∧
      many.2 = { s.stepEach n with observers := s.observers.updated 1 } ∧
      (0 < n → ∀ begun now,
        let t := { s with config := s.config.withBatchSize n }
        let run := timedRun .continuous begun [now]
        ((∀ time ∈ [begun, now], t.schedule.fits time = true) →
          t.carryOut? run = some (t.replies run, t.carryOut run)) ∧
        (begun + s.schedule.interval ≤ now →
          ∃ o, t.replies run = [.done, .polled (some o)] ∧
            (t.carryOut run).machine = many.2.machine ∧
            (t.carryOut run).lastFault = many.2.lastFault ∧
            (o = .finished ↔
              (∃ k, many.1 = .ok k) ∧ many.2.machine.halted = true) ∧
            (o = .yielded ↔
              many.1 = .ok n ∧ many.2.machine.halted = false) ∧
            ∀ f, o = .faulted f ↔ many.1 = .error (.fault f))) := by
  intro m many
  have hmany : many = _ := stepMany_eq hpaused n
  obtain ⟨k, hmost, hburst⟩ := m.burst_cases n
  refine ⟨⟨k, hmost, fun hk hawake => ?_, fun hend => ?_⟩, ?_,
    fun hn begun now => ?_⟩
  · obtain ⟨hend, -⟩ | ⟨f, -, hf, hburst⟩ := hburst
    · exact absurd hend (by simp [hk.ne, hawake])
    · exact ⟨f, hf, by rw [hmany, hburst]⟩
  · obtain ⟨-, hburst⟩ | ⟨f, ⟨hk, hawake⟩, -⟩ := hburst
    · rw [hmany, hburst]
    · exact absurd hend (by simp [hk.ne, hawake])
  · rw [hmany, stepEach_eq hpaused]
  · intro t run
    have hsize : t.config.batchSize = n := Nat.max_eq_left hn
    refine ⟨timedRun_of_fits, fun hdue => ?_⟩
    obtain ⟨hreplies, hmachine, hfault⟩ :=
      timedRun_single (s := t) hpaused hdue
    rw [hsize] at hreplies hmachine hfault
    refine ⟨_, hreplies, by rw [hmachine, hmany], by rw [hfault, hmany], ?_⟩
    rw [hmany]
    have hsame : t.machine = m := rfl
    rw [hsame]
    obtain ⟨hend, hburst⟩ | ⟨f, -, -, hburst⟩ := hburst
    · rw [hburst, Machine.Burst.outcome]
      cases hhalt : (after k m).halted with
      | true => simp
      | false =>
          have hbound : k = n := hend.resolve_right (by simp [hhalt])
          simp [hbound]
    · rw [hburst, Machine.Burst.outcome]
      simp

/-- The second step of `+]` fails. Five steps at once, single steps and a
batch of five come to the fault alike; one step at once does not come to
it. -/
theorem steps_at_once_agree_fault :
    let s := ((new .standard).start "+]" "").2
    let f : Fault := ⟨1, .unmatchedClose⟩
    let t := { s with config := s.config.withBatchSize 5 }
    let run := timedRun .continuous 7 [7 + Config.defaultInterval]
    (s.runState = .paused ∧ (s.stepMany 5).1 = .error (.fault f)) ∧
      (s.stepMany 5).2
        = { s.stepEach 5 with observers := s.observers.updated 1 } ∧
      t.replies run = [.done, .polled (some (.faulted f))] ∧
      (t.carryOut run).machine = (s.stepMany 5).2.machine ∧
      ∃ k, s.machine.MostSteps 1 k ∧
        (k = 1 ∨ (after k s.machine).halted = true →
          (s.stepMany 1).1 = .ok k) := by
  intro s f t run
  have hpaused : s.runState = .paused := by decide
  have hfault : (s.stepMany 5).1 = .error (.fault f) := by decide
  obtain ⟨-, hsingle, hbatch⟩ := steps_at_once_agree hpaused 5
  obtain ⟨-, hrun⟩ :=
    hbatch (Nat.succ_pos 4) 7 (7 + Config.defaultInterval)
  obtain ⟨o, hreplies, hmachine, -, -, -, hfaulted⟩ := hrun le_rfl
  obtain ⟨⟨k, hk, -, hok⟩, -⟩ := steps_at_once_agree hpaused 1
  rw [(hfaulted f).mpr hfault] at hreplies
  exact ⟨⟨hpaused, hfault⟩, hsingle, hreplies, hmachine, k, hk, hok⟩

end Session

end TapeDebugger
