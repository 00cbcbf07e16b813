/-
Which markers a timed run executes, and which one it stops at.

* `Machine.atBreakpoint_iff`: at a marker, and only there, a step executes
  one;
* `Machine.firstStop_of_marker`: the first marker that is reached by a step
  is where a run that heeds markers stops first;
* `Machine.PassesNoMarker`: of so many steps, none but the first one executes
  a marker;
* `Machine.passesNoMarker_batch`: a batch that heeds markers makes such
  steps, and leads to no marker if the run goes on;
* `Session.Coherent.passesNoMarker_polls`: so do all the batches of one timed
  run together;
* `Session.fresh_run_to_marker`: what follows for a run to the next marker
  that is begun as soon as the program is loaded.

The program counter is looked at behind each step, and not before the first
one. That lets a run leave the marker at which an earlier one has stopped, and
makes it pass a marker that stands at the very beginning of the text.
-/
import Mathlib.Tactic
import TapeDebugger.Proofs.Machine.Rest
import TapeDebugger.Proofs.Session.Restart
import TapeDebugger.Proofs.Session.TimedRuns

namespace TapeDebugger

namespace Machine

variable {m : Machine} {f? : Option Fault} {j k n : Nat}

/-! ### Markers on the way of a run -/

/-- The marker under the program counter is the instruction that the next
step executes. -/
lemma atBreakpoint_iff :
    m.atBreakpoint = true ↔ m.current? = some .breakpoint := by
  rw [atBreakpoint, beq_iff_eq, current?, Program.instructionAt?_eq_some_iff]
  rfl

lemma atBreakpoint_eq_false_iff :
    m.atBreakpoint = false ↔ m.current? ≠ some .breakpoint := by
  rw [← Bool.not_eq_true, atBreakpoint_iff]

/-- A fresh machine stands at a marker if its text begins with one. -/
lemma current?_load_iff {code input : String} :
    (load code input).current? = some .breakpoint ↔
      code.toList.head? = some '*' := by
  rw [← atBreakpoint_iff, atBreakpoint, beq_iff_eq, List.head?_eq_getElem?]
  simp [load, Program.charAt?, Program.ofString, Instruction.marker]

/-- No machine comes to rest at a marker. -/
lemma Rests.not_atBreakpoint (h : m.Rests f?) : m.atBreakpoint = false := by
  cases f? with
  | some f => exact (standsAt_of_control h).not_atBreakpoint
  | none =>
      have hpc : m.pc = m.program.size := h
      rw [atBreakpoint, Program.charAt?_eq_none_iff.mpr hpc.ge]
      rfl

/-- A run has not been halted anywhere before a marker. -/
lemma HaltedAtRest.awake_of_marker (h : m.HaltedAtRest)
    (hmarker : (Machine.after k m).atBreakpoint = true) (hj : j ≤ k) :
    (Machine.after j m).halted = false := by
  rw [← Bool.not_eq_true]
  intro hhalted
  obtain ⟨f?, hrest⟩ := h.after j hhalted
  obtain ⟨d, rfl⟩ := Nat.exists_eq_add_of_le hj
  rw [after_add, (hrest.after d).1.not_atBreakpoint] at hmarker
  exact absurd hmarker (by decide)

/-- **The first marker that is reached by a step is the first stop** of a run
that heeds markers: no step on the way there fails or halts the machine. -/
lemma firstStop_of_marker (h : m.HaltedAtRest) (hk : 0 < k)
    (hmarker : (after k m).atBreakpoint = true)
    (hfirst : ∀ j, 0 < j → j < k → (after j m).atBreakpoint = false) :
    m.FirstStop .breakpoint k .breakpoint where
  pos := hk
  stops := .breakpoint rfl hmarker
  first := by
    intro j hpos hj
    have hawake := h.awake_of_marker hmarker hj.le
    exact forall_not_stopsAt_iff.mpr
      ⟨faultOf_eq_none_of_not_halted hawake, hawake,
        fun _ => hfirst j hpos hj⟩

/-! ### The markers that a batch executes -/

/-- Of the next `n` steps, none but the first one executes a marker. -/
def PassesNoMarker (m : Machine) (n : Nat) : Prop :=
  ∀ j, 0 < j → j < n → (after j m).atBreakpoint = false

lemma passesNoMarker_of_le_one (h : n ≤ 1) : m.PassesNoMarker n :=
  fun j hpos hj => absurd hj (by omega)

lemma passesNoMarker_two (h : m.step.2.atBreakpoint = false) :
    m.PassesNoMarker 2 := by
  intro j hpos hj
  obtain rfl : j = 1 := by omega
  exact h

/-- Steps behind `n` others that lead to no marker either. -/
lemma PassesNoMarker.append (h : m.PassesNoMarker (n + 1))
    (hbehind : (after n m).PassesNoMarker k) : m.PassesNoMarker (n + k) := by
  intro j hpos hj
  by_cases hjn : j < n + 1
  · exact h j hpos hjn
  · obtain ⟨i, rfl⟩ : ∃ i, j = n + i := ⟨j - n, by omega⟩
    rw [after_add]
    exact hbehind i (by omega) (by omega)

lemma steps_countedBatch_pos (mode : RunMode) (hn : 0 < n) (m : Machine) :
    0 < (m.countedBatch mode n).steps := by
  obtain ⟨bound, rfl⟩ : ∃ bound, n = bound + 1 := ⟨n - 1, by omega⟩
  cases hfault : m.step.1 with
  | some f =>
      rw [countedBatch_succ_of_fault hfault]
      exact one_pos
  | none =>
      rw [countedBatch_succ_of_ok hfault]
      split_ifs <;> exact Nat.succ_pos _

/-- A batch that heeds markers looks for one behind each of its steps, so it
executes one with its first step at most. If the run goes on after it, it has
led to none. -/
lemma passesNoMarker_batch (bound : Nat) (m : Machine) :
    m.PassesNoMarker (m.countedBatch .breakpoint bound).steps ∧
      ((m.batch .breakpoint bound).1 = .yielded →
        m.PassesNoMarker
          ((m.countedBatch .breakpoint bound).steps + 1)) := by
  induction bound generalizing m with
  | zero =>
      exact ⟨passesNoMarker_of_le_one (Nat.zero_le 1),
        fun _ => passesNoMarker_of_le_one le_rfl⟩
  | succ bound ih =>
      have hone : m.PassesNoMarker 1 := passesNoMarker_of_le_one le_rfl
      cases hfault : m.step.1 with
      | some f =>
          rw [batch, countedBatch_succ_of_fault hfault]
          exact ⟨hone, by simp⟩
      | none =>
          rw [batch, countedBatch_succ_of_ok hfault]
          split_ifs with hhalt hmarker
          · exact ⟨hone, by simp⟩
          · exact ⟨hone, by simp⟩
          · obtain ⟨hsteps, hyields⟩ := ih m.step.2
            have htwo : m.PassesNoMarker (1 + 1) :=
              passesNoMarker_two (by simpa using hmarker)
            dsimp only
            refine ⟨?_, fun hyielded => ?_⟩
            · rw [Nat.add_comm]
              exact htwo.append hsteps
            · rw [Nat.add_comm]
              exact htwo.append (hyields hyielded)

end Machine

namespace Session

open Machine (after)

variable {s : Session} {mode : RunMode} {now : Time} {code input : String}

/-! ### The steps of polls -/

/-- The steps of the first of several polls, and those of the others. -/
lemma stepsOver_polls_cons {outcome? : Option Outcome} {s' : Session}
    (h : s.poll now = (outcome?, s')) (later : List Time) :
    s.stepsOver (pollsAt (now :: later)) =
      s.stepsMade now .poll + s'.stepsOver (pollsAt later) := by
  have hperform : (s.perform now .poll).2 = s' := by
    rw [perform, h]
    rfl
  rw [pollsAt, List.map_cons, stepsOver, hperform]
  rfl

/-- A poll before the deadline makes no steps. -/
lemma stepsOver_polls_of_early (h : ¬ s.schedule.deadline ≤ now)
    (later : List Time) :
    s.stepsOver (pollsAt (now :: later)) = s.stepsOver (pollsAt later) := by
  rw [stepsOver_polls_cons (poll_of_early h),
    stepsMade_of_not_due (isDue_of_early h), Nat.zero_add]

/-- Without a timed run, polls make no steps. -/
lemma stepsOver_polls_of_idle (h : s.schedule.active = none)
    (times : List Time) : s.stepsOver (pollsAt times) = 0 := by
  induction times with
  | nil => rfl
  | cons now later ih =>
      rw [stepsOver_polls_cons (poll_of_idle h now),
        stepsMade_of_not_due (isDue_of_idle h now), ih]

/-- The polls of an active run make steps exactly if one of them is due,
unless the batches are empty. -/
lemma stepsOver_polls_pos_iff (hactive : s.schedule.active = some mode)
    (hsize : 0 < s.config.batchSize) (times : List Time) :
    0 < s.stepsOver (pollsAt times) ↔ 0 < s.schedule.ticks times := by
  induction times with
  | nil => exact Iff.rfl
  | cons now later ih =>
      rw [Schedule.ticks]
      split_ifs with hdue
      · have hsteps : 0 < s.stepsMade now .poll := by
          rw [stepsMade_of_due hactive hdue]
          exact Machine.steps_countedBatch_pos mode hsize s.machine
        rw [stepsOver_polls_cons rfl]
        exact iff_of_true (by omega) (Nat.succ_pos _)
      · rw [stepsOver_polls_of_early hdue]
        exact ih

/-- **A run that heeds markers executes one with its first step at most**,
over however many batches. -/
lemma Coherent.passesNoMarker_polls (h : s.Coherent)
    (hactive : s.schedule.active = some .breakpoint) (times : List Time) :
    s.machine.PassesNoMarker (s.stepsOver (pollsAt times)) := by
  induction times generalizing s with
  | nil => exact Machine.passesNoMarker_of_le_one (Nat.zero_le 1)
  | cons now later ih =>
      by_cases hdue : s.schedule.deadline ≤ now
      · rcases hbatch : s.machine.batch .breakpoint s.config.batchSize
          with ⟨outcome, m⟩
        obtain ⟨-, hsteps, -⟩ := h.batch hactive hbatch
        obtain ⟨hpasses, hyields⟩ :=
          Machine.passesNoMarker_batch s.config.batchSize s.machine
        rw [stepsOver_polls_cons (poll_eq_of_due hactive hdue hbatch),
          stepsMade_of_due hactive hdue]
        by_cases hend : outcome = .yielded
        · subst hend
          have hgoes : (s.goOn .breakpoint m now).Coherent :=
            h.effect (.yielded hactive hdue hbatch)
          rw [if_pos rfl]
          refine (hyields (by rw [hbatch])).append ?_
          rw [← hsteps.machine_eq]
          exact ih hgoes hactive
        · -- the batch that ends the run leaves nothing to the later polls
          rw [if_neg hend, stepsOver_polls_of_idle rfl, Nat.add_zero]
          exact hpasses
      · rw [stepsOver_polls_of_early hdue]
        exact ih h hactive

/-! ### A run from the beginning of a program -/

lemma config_start (s : Session) (code input : String) :
    (s.start code input).2.config = s.config := by
  rw [start]
  split_ifs <;> rfl

/-- An accepted start leaves a paused session with a fresh machine. -/
lemma start_of_accepted (h : (s.start code input).1 = .ok ()) :
    (s.start code input).2.Coherent ∧
      (s.start code input).2.runState = .paused ∧
      (s.start code input).2.machine = .load code input := by
  have hhalted : s.runState = .halted := by
    rw [start] at h
    split_ifs at h with hactive hhalted
    have hidle := Option.not_isSome_iff_eq_none.mp hactive
    exact runState_eq_halted_iff.mpr ⟨hidle, hhalted⟩
  have hidle := (runState_eq_halted_iff.mp hhalted).1
  rw [start_of_halted hhalted]
  exact ⟨coherent_of_idle hidle fun f hf => absurd hf (by simp [notify]),
    runState_eq_paused_iff.mpr ⟨hidle, rfl⟩, rfl⟩

/-- The command that begins a timed run makes no steps. -/
lemma stepsOver_timedRun (h : s.runState = .paused) (mode : RunMode)
    (begun : Time) (times : List Time) :
    s.stepsOver (timedRun mode begun times) =
      { s with schedule := s.schedule.arm mode begun }.stepsOver
        (pollsAt times) := by
  have hnone : s.stepsMade begun mode.command = 0 := by cases mode <;> rfl
  rw [timedRun, stepsOver, perform_command h, hnone, Nat.zero_add]

/-- A timed run and its polls keep the run of the program. -/
lemma keepsOver_timedRun (s : Session) (mode : RunMode) (begun : Time)
    (times : List Time) : s.KeepsOver (timedRun mode begun times) := by
  have hpolls : ∀ (times : List Time) (s : Session),
      s.KeepsOver (pollsAt times) := by
    intro times
    induction times with
    | nil => exact fun _ => trivial
    | cons now later ih => exact fun s => ⟨trivial, ih _⟩
  exact ⟨by cases mode <;> exact trivial, hpolls times _⟩

/-- The first marker that a step of a paused session reaches ends its run, in
the batch that makes this step. -/
lemma timedRun_to_marker (hpaused : s.runState = .paused)
    (hsize : 0 < s.config.batchSize) (hrest : s.machine.HaltedAtRest)
    {k : Nat} (hk : 0 < k)
    (hmarker : (after k s.machine).atBreakpoint = true)
    (hfirst : ∀ j, 0 < j → j < k → (after j s.machine).atBreakpoint = false)
    (begun : Time) (times : List Time) :
    let run := timedRun .breakpoint begun times
    let last := s.carryOut run
    let due := (s.schedule.arm .breakpoint begun).ticks times
    let needed := k ⌈/⌉ s.config.batchSize
    (due < needed →
        s.outcomes run = List.replicate due .yielded ∧
          last.runState = .running .breakpoint) ∧
      (needed ≤ due →
        s.outcomes run
            = List.replicate (needed - 1) .yielded ++ [.breakpoint] ∧
          last.machine = after k s.machine ∧ last.runState = .paused ∧
          last.currentChar? = some '*') := by
  intro run last due needed
  have hstop : s.machine.FirstStop .breakpoint k .breakpoint :=
    Machine.firstStop_of_marker hrest hk hmarker hfirst
  obtain ⟨n, hneeded, hlow, hhigh⟩ :=
    exists_last_batch hk hsize
  rw [show needed = n + 1 from hneeded]
  refine ⟨fun hless => ?_, fun henough => ?_⟩
  · have hle : due * s.config.batchSize ≤ n * s.config.batchSize :=
      Nat.mul_le_mul_right _ (Nat.lt_succ_iff.mp hless)
    obtain ⟨houtcomes, -, hrunning⟩ :=
      timedRun_of_goesOn hpaused rfl (hstop.goesOn (hle.trans_lt hlow))
    exact ⟨houtcomes, hrunning⟩
  · obtain ⟨houtcomes, hmachine, hidle, -⟩ :=
      timedRun_of_firstStop hpaused hstop hlow hhigh
        (Nat.lt_of_succ_le henough)
    obtain ⟨hawake, hchar⟩ :=
      hstop.at_marker (runState_eq_paused_iff.mp hpaused).2
    refine ⟨houtcomes, hmachine, ?_, ?_⟩
    · exact runState_eq_paused_iff.mpr ⟨hidle, by rw [hmachine, hawake]⟩
    · rw [currentChar?, hmachine]
      exact hchar

/-- **A run to the next marker passes a marker only where it begins.** Let a
program be loaded and a run to the next marker be begun at once. Of all the
steps that its polls make, only the first one can execute a marker, and it
does so exactly if the text begins with one: then the run is not stopped
there. The first marker that is reached by a step ends the run, whatever the
size of the batches, unless they are empty, and the times of the polls. The batches before yield, the
last one tells about the marker, and the session is paused at it. All this is
carried out if deadlines set at these times can be told. -/
theorem fresh_run_to_marker {s : Session} {code input : String}
    (haccepted : (s.start code input).1 = .ok ())
    (hsize : 0 < s.config.batchSize) (begun : Time) (times : List Time) :
    let loaded := (s.start code input).2
    let run := timedRun .breakpoint begun times
    let last := loaded.carryOut run
    let steps := loaded.stepsOver run
    let due := (loaded.schedule.arm .breakpoint begun).ticks times
    let met (j : Nat) := (after j (.load code input)).current?
    ((loaded.perform begun .runToBreakpoint).1 = .done ∧
        ((∀ now ∈ begun :: times, loaded.schedule.fits now = true) →
          loaded.carryOut? run = some (loaded.replies run, last)) ∧
        last.machine = after steps (.load code input)) ∧
      ((∀ j < steps, met j ≠ some .breakpoint) ↔
        (code.toList.head? = some '*' → due = 0)) ∧
      (∀ j < steps, met j = some .breakpoint → j = 0) ∧
      ∀ k, 0 < k → met k = some .breakpoint →
        (∀ j, 0 < j → j < k → met j ≠ some .breakpoint) →
        let needed := k ⌈/⌉ loaded.config.batchSize
        (due < needed →
            loaded.outcomes run = List.replicate due .yielded ∧
              last.runState = .running .breakpoint) ∧
          (needed ≤ due →
            loaded.outcomes run
                = List.replicate (needed - 1) .yielded ++ [.breakpoint] ∧
              last.machine = after k (.load code input) ∧
              last.runState = .paused ∧ last.currentChar? = some '*') := by
  intro loaded run last steps due met
  obtain ⟨hcoherent, hpaused, hmachine⟩ := start_of_accepted haccepted
  have hsize' : 0 < loaded.config.batchSize := by
    rwa [config_start]
  let armed : Session :=
    { loaded with schedule := loaded.schedule.arm .breakpoint begun }
  have hsteps : steps = armed.stepsOver (pollsAt times) :=
    stepsOver_timedRun hpaused .breakpoint begun times
  have harmed : Effect begun loaded .runToBreakpoint .done armed :=
    .armed hpaused rfl
  have hpass : armed.machine.PassesNoMarker steps := by
    rw [hsteps]
    exact (hcoherent.effect harmed).passesNoMarker_polls rfl times
  have hpos : 0 < steps ↔ 0 < due := by
    rw [hsteps]
    exact stepsOver_polls_pos_iff (s := armed) rfl hsize' times
  rw [show armed.machine = .load code input from hmachine] at hpass
  have honly : ∀ j < steps, met j = some .breakpoint → j = 0 := by
    intro j hj hmet
    by_contra hne
    exact Machine.atBreakpoint_eq_false_iff.mp
      (hpass j (Nat.pos_of_ne_zero hne) hj) hmet
  refine ⟨⟨?_, timedRun_of_fits, ?_⟩,
    ⟨fun hnone hhead => ?_, fun hhead j hj hmet => ?_⟩, honly,
    fun k hk hmarker hfirst => ?_⟩
  · exact congrArg Prod.fst (perform_command hpaused .breakpoint begun)
  · let r : Run code input :=
      ⟨s, haccepted, run, keepsOver_timedRun loaded .breakpoint begun times⟩
    exact r.follows.stretch.machine_eq
  · by_contra hdue
    exact hnone 0 (hpos.mpr (Nat.pos_of_ne_zero hdue))
      (Machine.current?_load_iff.mpr hhead)
  · obtain rfl := honly j hj hmet
    exact absurd (hhead (Machine.current?_load_iff.mp hmet))
      (hpos.mp hj).ne'
  · simp only [met, ← Machine.atBreakpoint_iff, ne_eq, Bool.not_eq_true,
      ← hmachine] at hmarker hfirst
    rw [← hmachine]
    refine timedRun_to_marker hpaused hsize' ?_ hk hmarker hfirst begun times
    rw [hmachine]
    exact Machine.haltedAtRest_load code input

/-- In batches of two, a run of `*+[*-]` executes the marker at which it
begins, and stops at the other one with its third step. -/
theorem fresh_run_to_marker_leading :
    let config := (Config.standard.withInterval 3).withBatchSize 2
    let s := Session.new config
    let loaded := (s.start "*+[*-]" "").2
    let run := timedRun .breakpoint 10 [13, 16]
    let m := Machine.load "*+[*-]" ""
    ((s.start "*+[*-]" "").1 = .ok () ∧ 0 < s.config.batchSize) ∧
      (¬ ∀ j < loaded.stepsOver run,
        (after j m).current? ≠ some .breakpoint) ∧
      loaded.outcomes run = [.yielded, .breakpoint] ∧
      (loaded.carryOut run).machine = after 3 m ∧
      (loaded.carryOut run).runState = .paused := by
  intro config s loaded run m
  have haccepted : (s.start "*+[*-]" "").1 = .ok () := rfl
  have hsize : 0 < s.config.batchSize := by decide
  obtain ⟨-, hexecutes, -, hstops⟩ :=
    fresh_run_to_marker haccepted hsize 10 [13, 16]
  obtain ⟨-, hended⟩ := hstops 3 (by decide) (by decide) fun j hpos hj => by
    interval_cases j <;> decide
  obtain ⟨houtcomes, hmachine, hpaused, -⟩ := hended (by decide)
  refine ⟨⟨haccepted, hsize⟩, fun hnone => ?_, houtcomes.trans (by decide), hmachine,
    hpaused⟩
  exact absurd (hexecutes.mp hnone (by decide)) (by decide)

/-- A comment in front of the marker makes the run stop at it. -/
example :
    let outcomesOf (code : String) :=
      ((new (Config.standard.withBatchSize 9)).start code "").2.outcomes
        (timedRun .breakpoint 0 [Config.defaultInterval])
    outcomesOf "*+" = [.finished] ∧ outcomesOf " *+" = [.breakpoint] := by
  decide

end Session

end TapeDebugger
