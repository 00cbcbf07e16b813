/-
A run without a screen prints what the program writes, whatever its tuning.

* `Machine.firstStop_of_haltsAfter`: a program that passes the bracket check
  can only stop a run to the end by halting;
* `Headless.wake`: when a wait for the next batch is over, which is never too
  early;
* `Headless.drive_of_goesOn` and `Headless.drive_of_firstStop`: every poll
  runs a batch, and the run ends with the batch that reaches the first stop;
* `Headless.Begun.run_eq_some_iff`: a run that has just begun ends exactly if
  its program halts within the polls that are made;
* `Headless.run_prints_output`: when a run ends, after how many batches, and
  what it prints.

The waits may take longer than asked for, each by a time of its own.
-/
import Mathlib.Tactic
import TapeDebugger.CommandLine.Headless
import TapeDebugger.Proofs.Machine.Faults
import TapeDebugger.Proofs.Session.TimedRuns

namespace TapeDebugger

/-! ### Programs without faults -/

namespace Machine

variable {code input : String} {k n : Nat}

/-- A program that passes the bracket check stops a run to the end nowhere
but where it halts. -/
lemma not_stopsAt_of_balanced (hbalanced : imbalance? code = none)
    (hawake : (after k (load code input)).halted = false) (o : Outcome) :
    ¬ (load code input).StopsAt .continuous k o := by
  refine forall_not_stopsAt_iff.mpr ⟨?_, hawake, by simp⟩ o
  exact faultOf_of_balanced hbalanced input 0 k

lemma firstStop_of_haltsAfter (hbalanced : imbalance? code = none)
    (h : (load code input).HaltsAfter k) :
    (load code input).FirstStop .continuous k .finished where
  pos := by
    rw [Nat.pos_iff_ne_zero]
    rintro rfl
    exact absurd h.2 (by simp [load])
  stops := .finished (faultOf_of_balanced hbalanced input 0 k) h.2
  first := fun j _ hj => not_stopsAt_of_balanced hbalanced (h.1 j hj)

/-- A machine that does not halt within some steps makes them all. -/
lemma goesOn_of_haltsLater (hbalanced : imbalance? code = none)
    (h : ∀ k, (load code input).HaltsAfter k → n < k) :
    (load code input).GoesOn .continuous n := by
  intro j _ hj
  refine not_stopsAt_of_balanced hbalanced (Bool.eq_false_iff.mpr ?_)
  intro hhalt
  obtain ⟨k, hk⟩ := exists_haltsAfter hhalt
  have hjk : j < k := hj.trans_lt (h k hk)
  exact absurd hhalt (by simp [hk.1 j hjk])

end Machine

namespace Headless

open Machine (after load)

variable {late : Nat → Time} {h h' : Headless} {i k : Nat} {now : Time}

/-! ### One poll -/

/-- When a wait that is asked for at the time `now` and takes `delay` longer
is over. -/
def wake (h : Headless) (now delay : Time) : Time :=
  now + (h.session.schedule.deadline - now) + delay

lemma deadline_le_wake (h : Headless) (now delay : Time) :
    h.session.schedule.deadline ≤ h.wake now delay := by
  have hwait : h.session.schedule.deadline
      ≤ now + (h.session.schedule.deadline - now) := le_add_tsub
  exact hwait.trans (Nat.le_add_right _ delay)

lemma untilNext_of_active {mode : RunMode}
    (hactive : h.session.schedule.active = some mode) (now : Time) :
    h.session.untilNext now = some (h.session.schedule.deadline - now) := by
  rw [Session.untilNext, Schedule.untilNext, hactive]
  rfl

/-- Without an active run nothing is polled. -/
lemma drive_of_idle (hidle : h.session.schedule.active = none)
    (polled : List (Option Outcome)) (bound : Nat) :
    drive late polled bound i now h = ⟨polled, some h.report⟩ := by
  have hnone : h.session.untilNext now = none := by
    rw [Session.untilNext, Schedule.untilNext, hidle]
    rfl
  rw [drive.eq_def]
  dsimp only
  rw [hnone]

lemma drive_zero {mode : RunMode}
    (hactive : h.session.schedule.active = some mode)
    (polled : List (Option Outcome)) :
    drive late polled 0 i now h = ⟨polled, none⟩ := by
  rw [drive.eq_def]
  dsimp only
  rw [untilNext_of_active hactive]

/-- A poll that does not end the call is followed by the rest of the run. -/
lemma drive_succ {mode : RunMode}
    (hactive : h.session.schedule.active = some mode)
    (hok : h.poll (h.wake now (late i)) = .ok h')
    (polled : List (Option Outcome)) (bound : Nat) :
    drive late polled (bound + 1) i now h =
      drive late ((h.session.poll (h.wake now (late i))).1 :: polled) bound
        (i + 1) (h.wake now (late i)) h' := by
  rw [poll, wake] at hok
  rw [drive.eq_def]
  dsimp only
  rw [untilNext_of_active hactive]
  dsimp only
  rw [hok]
  rfl

/-- A run whose last batch has led to the machine `m`, and which goes on. -/
def goOn (h : Headless) (m : Machine) (now : Time) : Headless :=
  ⟨h.session.goOn .continuous m now, h.log⟩

/-- A run whose last batch has led to the machine `m`, and which is over. -/
def complete (h : Headless) (m : Machine) (now : Time) : Headless :=
  ⟨h.session.endRun .finished m now,
    h.log ++ "Execution completed successfully.\n"⟩

/-- A poll after a wait runs a batch, and while the program does not stop, the
run goes on. -/
lemma drive_succ_of_goesOn
    (hactive : h.session.schedule.active = some .continuous)
    (hgoes : h.session.machine.GoesOn .continuous h.session.config.batchSize)
    (late : Nat → Time) (polled : List (Option Outcome)) (bound i : Nat)
    (now : Time) :
    let wake := h.wake now (late i)
    drive late polled (bound + 1) i now h =
      drive late (some .yielded :: polled) bound (i + 1) wake
        (h.goOn (after h.session.config.batchSize h.session.machine) wake) := by
  intro wake
  let next := h.goOn (after h.session.config.batchSize h.session.machine) wake
  have hpoll : h.session.poll wake = (some .yielded, next.session) :=
    Session.poll_of_goesOn hactive (h.deadline_le_wake now (late i)) hgoes
  have hok : h.poll wake = .ok next := by rw [poll, hpoll]; rfl
  rw [drive_succ hactive hok, hpoll]

/-- The batch that halts the program is the last. -/
lemma drive_succ_of_firstStop
    (hactive : h.session.schedule.active = some .continuous)
    (hawake : h.session.machine.halted = false)
    (hfirst : h.session.machine.FirstStop .continuous k .finished)
    (hk : k ≤ h.session.config.batchSize)
    (late : Nat → Time) (polled : List (Option Outcome)) (bound i : Nat)
    (now : Time) :
    drive late polled (bound + 1) i now h =
      ⟨some .finished :: polled, some ⟨0, (after k h.session.machine).output,
        h.log ++ "Execution completed successfully.\n"⟩⟩ := by
  let wake := h.wake now (late i)
  let last := h.complete (after k h.session.machine) wake
  have hpoll : h.session.poll wake = (some .finished, last.session) :=
    Session.poll_of_firstStop hactive hawake
      (h.deadline_le_wake now (late i)) hfirst hk
  have hok : h.poll wake = .ok last := by rw [poll, hpoll]; rfl
  rw [drive_succ hactive hok, hpoll, drive_of_idle (h := last) rfl]
  rfl

/-! ### All polls -/

/-- **As long as the program does not stop, every poll runs a batch** and
yields. -/
lemma drive_of_goesOn (late : Nat → Time) (polled : List (Option Outcome))
    {bound : Nat} (i : Nat) (now : Time) (h : Headless)
    (hactive : h.session.schedule.active = some .continuous)
    (hgoes : h.session.machine.GoesOn .continuous
      (bound * h.session.config.batchSize)) :
    drive late polled bound i now h =
      ⟨List.replicate bound (some .yielded) ++ polled, none⟩ := by
  induction bound generalizing polled i now h with
  | zero => exact drive_zero hactive polled
  | succ bound ih =>
      rw [Nat.succ_mul, Nat.add_comm] at hgoes
      rw [drive_succ_of_goesOn hactive (hgoes.mono (Nat.le_add_right ..)),
        ih _ (i + 1) _ (h.goOn _ _) hactive hgoes.drop, List.replicate_succ',
        List.append_assoc]
      rfl

/-- **The run ends with the batch that halts the program**: if `n` batches do
not and the next one does, the first `n` polls yield, the next one finishes,
and then the output is printed. -/
lemma drive_of_firstStop (late : Nat → Time)
    (polled : List (Option Outcome)) {n k : Nat} (spare i : Nat) (now : Time)
    (h : Headless) (hactive : h.session.schedule.active = some .continuous)
    (hawake : h.session.machine.halted = false)
    (hfirst : h.session.machine.FirstStop .continuous k .finished)
    (hlow : n * h.session.config.batchSize < k)
    (hhigh : k ≤ (n + 1) * h.session.config.batchSize) :
    drive late polled (n + spare + 1) i now h =
      ⟨some .finished :: (List.replicate n (some .yielded) ++ polled),
        some ⟨0, (after k h.session.machine).output,
          h.log ++ "Execution completed successfully.\n"⟩⟩ := by
  induction n generalizing polled k i now h with
  | zero =>
      exact drive_succ_of_firstStop hactive hawake hfirst (by omega) late
        polled _ i now
  | succ n ih =>
      -- the first batch goes on, since the program halts beyond it
      rw [Nat.succ_mul] at hlow hhigh
      have hgoes : h.session.machine.GoesOn .continuous
          h.session.config.batchSize := hfirst.goesOn (by omega)
      have hends := ih (some .yielded :: polled) (i + 1)
        (h.wake now (late i))
        (h.goOn (after h.session.config.batchSize h.session.machine)
          (h.wake now (late i)))
        hactive (hgoes.awake hawake) (hfirst.drop (by omega))
        (by rw [goOn, Session.goOn_config]; omega)
        (by rw [goOn, Session.goOn_config]; omega)
      rw [goOn, Session.goOn_machine, ← Machine.after_add,
        Nat.add_sub_of_le (by omega)] at hends
      have hbound : n + 1 + spare + 1 = n + spare + 1 + 1 := by omega
      rw [hbound, drive_succ_of_goesOn hactive hgoes, List.replicate_succ',
        List.append_assoc]
      exact hends

/-! ### The whole call -/

/-- What is printed in the end if the program halts after `k` steps. -/
def success (i : Invocation) (k : Nat) : Report :=
  ⟨0, (after k (load i.source i.input)).output,
    i.log ++ "Execution completed successfully.\n"⟩

/-- A run to the end has begun: the program is loaded, and no batch was run
yet. -/
structure Begun (config : Config) (i : Invocation) (h : Headless) : Prop where
  machine_eq : h.session.machine = load i.source i.input
  active_eq : h.session.schedule.active = some .continuous
  config_eq : h.session.config = config
  log_eq : h.log = i.log

/-- A program that passes the bracket check is loaded, and its run begins. -/
lemma start_of_balanced {i : Invocation}
    (hbalanced : imbalance? i.source = none) (config : Config)
    (begun : Time) :
    ∃ h, start config i begun = .ok h ∧ h.Begun config i := by
  rw [start, hbalanced]
  exact ⟨_, rfl, rfl, rfl, rfl, rfl⟩

section Begun

variable {config : Config} {i : Invocation}

/-- A program that halts is run to its end if there are polls enough. -/
lemma Begun.run_of_haltsAfter (hbegun : h.Begun config i)
    (hsize : 0 < config.batchSize) (hbalanced : imbalance? i.source = none)
    (hk : (load i.source i.input).HaltsAfter k) {bound : Nat}
    (hbound : k ⌈/⌉ config.batchSize ≤ bound) (late : Nat → Time)
    (now : Time) :
    run late bound 0 now h = some (success i k) ∧
      outcomes late bound 0 now h
        = List.replicate (k ⌈/⌉ config.batchSize - 1) (some .yielded)
          ++ [some .finished] := by
  have hfirst := Machine.firstStop_of_haltsAfter hbalanced hk
  obtain ⟨n, hn, hlow, hhigh⟩ :=
    Session.exists_last_batch hfirst.pos hsize
  obtain ⟨spare, rfl⟩ : ∃ spare, bound = n + spare + 1 :=
    ⟨bound - (n + 1), by omega⟩
  rw [← hbegun.machine_eq] at hfirst
  rw [← hbegun.config_eq] at hlow hhigh
  have hawake : h.session.machine.halted = false := by
    rw [hbegun.machine_eq]
    rfl
  rw [hn, success, ← hbegun.machine_eq, ← hbegun.log_eq]
  rw [run, outcomes, drive_of_firstStop late [] spare 0 now h hbegun.active_eq
    hawake hfirst hlow hhigh]
  simp

/-- A program that does not halt so soon takes up all the polls. -/
lemma Begun.run_of_haltsLater (hbegun : h.Begun config i)
    (hsize : 0 < config.batchSize) (hbalanced : imbalance? i.source = none) {bound : Nat}
    (hlater : ∀ k, (load i.source i.input).HaltsAfter k →
      bound < k ⌈/⌉ config.batchSize) (late : Nat → Time) (now : Time) :
    run late bound 0 now h = none ∧
      outcomes late bound 0 now h = List.replicate bound (some .yielded) := by
  have hgoes : h.session.machine.GoesOn .continuous
      (bound * h.session.config.batchSize) := by
    rw [hbegun.machine_eq, hbegun.config_eq]
    refine Machine.goesOn_of_haltsLater hbalanced fun k hk => ?_
    rw [← Nat.not_le, Nat.mul_comm, ← ceilDiv_le_iff_le_mul hsize,
      Nat.not_le]
    exact hlater k hk
  rw [run, outcomes, drive_of_goesOn late [] 0 now h hbegun.active_eq hgoes]
  simp

/-- A run ends exactly if its program halts within the batches that there are
polls for. -/
lemma Begun.run_eq_some_iff (hbegun : h.Begun config i)
    (hsize : 0 < config.batchSize) (hbalanced : imbalance? i.source = none) (late : Nat → Time)
    (bound : Nat) (now : Time) (report : Report) :
    run late bound 0 now h = some report ↔
      ∃ k, (load i.source i.input).HaltsAfter k ∧
        k ⌈/⌉ config.batchSize ≤ bound ∧ report = success i k := by
  constructor
  · intro hrun
    by_contra hnot
    have hlater : ∀ k, (load i.source i.input).HaltsAfter k →
        bound < k ⌈/⌉ config.batchSize := by
      intro k hk
      by_contra hge
      have hle : k ⌈/⌉ config.batchSize ≤ bound := Nat.not_lt.mp hge
      have hends := (hbegun.run_of_haltsAfter hsize hbalanced hk hle late now).1
      exact hnot ⟨k, hk, hle, Option.some.inj (hrun.symm.trans hends)⟩
    rw [(hbegun.run_of_haltsLater hsize hbalanced hlater late now).1] at hrun
    exact absurd hrun (by simp)
  · rintro ⟨k, hk, hbound, rfl⟩
    exact (hbegun.run_of_haltsAfter hsize hbalanced hk hbound late now).1

end Begun

/-- **A run without a screen prints what the program writes.** If the brackets
of the program do not balance, the call ends at once with exit code one and
prints the reason, but no output. Otherwise a run begins, and however long its
waits take, it ends exactly if the program halts. If that is after `k` steps,
as many polls are made as `k` steps need batches; each of them runs a batch,
and only the last one finishes. The output is then that of the program after
`k` steps, and the exit code zero. A run ends in no other way, so its interval
and the size of its batches do not matter for what it prints. -/
theorem run_prints_output (i : Invocation) (interval : Time) (size : Nat)
    (begun : Time) :
    let config := (Config.standard.withInterval interval).withBatchSize size
    let m := load i.source i.input
    let batches := fun k : Nat => k ⌈/⌉ max size 1
    (∀ e, imbalance? i.source = some e →
      start config i begun
        = .error ⟨1, "", i.log ++ "Error: " ++ e.message ++ "\n"⟩) ∧
      (imbalance? i.source = none →
        ∃ h, start config i begun = .ok h ∧
          ∀ late : Nat → Time,
            ((∃ bound report, run late bound 0 begun h = some report) ↔
              ∃ k, m.HaltsAfter k) ∧
            ∀ bound,
              (∀ report, run late bound 0 begun h = some report ↔
                ∃ k, m.HaltsAfter k ∧ batches k ≤ bound ∧
                  report = ⟨0, (after k m).output,
                    i.log ++ "Execution completed successfully.\n"⟩) ∧
              (∀ k, m.HaltsAfter k → batches k ≤ bound →
                outcomes late bound 0 begun h
                  = List.replicate (batches k - 1) (some .yielded)
                    ++ [some .finished]) ∧
              ((∀ k, m.HaltsAfter k → bound < batches k) →
                outcomes late bound 0 begun h
                  = List.replicate bound (some .yielded))) := by
  intro config m batches
  constructor
  · intro e he
    rw [start, he]
    rfl
  · intro hbalanced
    have hsize : 0 < config.batchSize := Config.batchSize_withBatchSize_pos _ size
    obtain ⟨h, hstart, hbegun⟩ := start_of_balanced hbalanced config begun
    refine ⟨h, hstart, fun late => ⟨⟨?_, ?_⟩, fun bound => ⟨?_, ?_, ?_⟩⟩⟩
    · rintro ⟨bound, report, hrun⟩
      obtain ⟨k, hk, -⟩ :=
        (hbegun.run_eq_some_iff hsize hbalanced late bound begun report).mp hrun
      exact ⟨k, hk⟩
    · rintro ⟨k, hk⟩
      exact ⟨batches k, success i k,
        (hbegun.run_of_haltsAfter hsize hbalanced hk le_rfl late begun).1⟩
    · exact hbegun.run_eq_some_iff hsize hbalanced late bound begun
    · intro k hk hbound
      exact (hbegun.run_of_haltsAfter hsize hbalanced hk hbound late begun).2
    · intro hlater
      exact (hbegun.run_of_haltsLater hsize hbalanced hlater late begun).2

/-- The three steps of `++.` take two batches of two, and a run that wakes up
late each time prints one character; `+[` is not run. -/
theorem run_prints_output_late :
    let config := (Config.standard.withInterval 3).withBatchSize 2
    (imbalance? "+[" = some ⟨1, .unclosed⟩ ∧
        start config ⟨"+[", "", ""⟩ 7
          = .error (.failure "" (Imbalance.message ⟨1, .unclosed⟩))) ∧
      (imbalance? "++." = none ∧ (load "++." "").HaltsAfter 3) ∧
      ∃ h, start config ⟨"++.", "", ""⟩ 7 = .ok h ∧
        run (fun _ => 5) 9 0 7 h
          = some ⟨0, "\x02", "Execution completed successfully.\n"⟩ ∧
        outcomes (fun _ => 5) 9 0 7 h = [some .yielded, some .finished] := by
  intro config
  have hbalanced : imbalance? "++." = none := by decide
  have hhalts : (load "++." "").HaltsAfter 3 := by
    refine ⟨fun j hj => ?_, by decide⟩
    interval_cases j <;> decide
  have hprinted : success ⟨"++.", "", ""⟩ 3
      = ⟨0, "\x02", "Execution completed successfully.\n"⟩ := by decide
  obtain ⟨hunbalanced, -⟩ := run_prints_output ⟨"+[", "", ""⟩ 3 2 7
  obtain ⟨-, hrun⟩ := run_prints_output ⟨"++.", "", ""⟩ 3 2 7
  obtain ⟨h, hstart, hlate⟩ := hrun hbalanced
  obtain ⟨-, hbound⟩ := hlate fun _ => 5
  obtain ⟨hends, houtcomes, -⟩ := hbound 9
  refine ⟨⟨by decide, hunbalanced ⟨1, .unclosed⟩ (by decide)⟩,
    ⟨hbalanced, hhalts⟩, h, hstart, ?_, houtcomes 3 hhalts (by decide)⟩
  exact (hends _).mpr ⟨3, hhalts, by decide, hprinted.symm⟩

end Headless

end TapeDebugger
