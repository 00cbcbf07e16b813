/-
Which step of a machine ends a timed run, and that a batch ends there.

* `Machine.StandsAt`: the machine stands at the bracket that a fault tells;
* `Machine.StopsAt`: the step with the given number fails, halts the machine
  or, in one mode, leads to a marker;
* `Machine.FirstStop`: the first step that does so;
* `Machine.GoesOn`: no step up to the given number does so;
* `Machine.batch_of_goesOn` and `Machine.batch_of_firstStop`: a batch makes
  all its steps, or it ends with the first one that stops the run;
* `Machine.FirstStop.drop`: after a batch that was not cut short, the first
  stop is as many steps nearer.

Steps are counted from one.
-/
import Mathlib.Tactic
import TapeDebugger.Proofs.Machine.Stretches

namespace TapeDebugger

/-- The bracket at which a jump fails. -/
def FaultKind.bracket : FaultKind → Char
  | .unmatchedOpen => '['
  | .unmatchedClose => ']'

namespace Machine

variable {m : Machine} {mode : RunMode} {j k n : Nat} {o : Outcome}

/-! ### Where a fault leaves the machine -/

/-- The machine stands at the bracket that the fault tells. -/
def StandsAt (m : Machine) (f : Fault) : Prop :=
  f.pc = m.pc ∧ m.program.charAt? m.pc = some f.kind.bracket

/-- Control raises a fault only at the bracket that the fault tells. -/
lemma standsAt_of_control {f : Fault} (h : m.control = .error f) :
    m.StandsAt f := by
  rw [control] at h
  split at h
  · next hcur =>
      have hopen := Program.instructionAt?_eq_some_iff.mp hcur
      split_ifs at h
      split at h
      · exact absurd h (by simp)
      · obtain rfl : _ = f := Except.error.inj h
        exact ⟨rfl, hopen⟩
  · next hcur =>
      have hclose := Program.instructionAt?_eq_some_iff.mp hcur
      split_ifs at h
      split at h
      · exact absurd h (by simp)
      · obtain rfl : _ = f := Except.error.inj h
        exact ⟨rfl, hclose⟩
  · exact absurd h (by simp)

/-- A failed step leaves the machine at its bracket. -/
lemma standsAt_of_faultOf {f : Fault} (h : m.faultOf k = some f) :
    (after k m).StandsAt f := by
  cases k with
  | zero => exact absurd h (by simp)
  | succ k =>
      rw [after_succ, step_of_fault h]
      exact standsAt_of_control (m := after k m)
        (step_fault_iff_control.mp h)

/-- There is no marker where a fault was raised. -/
lemma StandsAt.not_atBreakpoint {f : Fault} (h : m.StandsAt f) :
    m.atBreakpoint = false := by
  rw [atBreakpoint, h.2]
  cases f.kind <;> decide

/-- A stretch whose last step failed leaves the machine halted at the bracket
of its fault. -/
lemma Stretch.halted_and_standsAt {f : Fault} {m' : Machine}
    (h : Stretch m k (some f) m') : m'.halted = true ∧ m'.StandsAt f := by
  have hfault : m.faultOf k = some f := h.fault_eq.symm
  rw [h.machine_eq]
  refine ⟨?_, standsAt_of_faultOf hfault⟩
  by_contra hawake
  rw [faultOf_eq_none_of_not_halted (Bool.eq_false_iff.mpr hawake)] at hfault
  exact absurd hfault (by simp)

/-! ### Stops -/

/-- The `k`-th step from `m` ends a timed run with the given outcome. -/
inductive StopsAt (mode : RunMode) (m : Machine) (k : Nat) : Outcome → Prop
  /-- The step fails. -/
  | faulted {f : Fault} (hfault : m.faultOf k = some f) :
      StopsAt mode m k (.faulted f)
  /-- The step does not fail, and it leaves the machine halted. -/
  | finished (hok : m.faultOf k = none)
      (hhalt : (after k m).halted = true) : StopsAt mode m k .finished
  /-- The step leaves the program counter on a marker, and the run heeds
  markers. -/
  | breakpoint (hmode : mode = .breakpoint)
      (hmarker : (after k m).atBreakpoint = true) :
      StopsAt mode m k .breakpoint

/-- A step that ends no timed run neither fails nor halts the machine, and it
comes to no marker that the run heeds. -/
lemma forall_not_stopsAt_iff :
    (∀ o, ¬ m.StopsAt mode k o) ↔
      m.faultOf k = none ∧ (after k m).halted = false ∧
        (mode = .breakpoint → (after k m).atBreakpoint = false) := by
  constructor
  · intro h
    have hok : m.faultOf k = none := by
      rw [Option.eq_none_iff_forall_ne_some]
      exact fun f hf => h _ (.faulted hf)
    refine ⟨hok, ?_, fun hmode => ?_⟩
    · exact Bool.eq_false_iff.mpr fun hhalt => h _ (.finished hok hhalt)
    · exact Bool.eq_false_iff.mpr fun hmarker => h _ (.breakpoint hmode hmarker)
  · rintro ⟨hok, hawake, hclear⟩ o hstop
    cases hstop with
    | faulted hf => simp [hok] at hf
    | finished _ hhalt => simp [hawake] at hhalt
    | breakpoint hmode hmarker => simp [hclear hmode] at hmarker

/-- The `k`-th step from `m` is the first that ends a timed run, and it does
so with the given outcome. -/
structure FirstStop (mode : RunMode) (m : Machine) (k : Nat) (o : Outcome) :
    Prop where
  pos : 0 < k
  stops : m.StopsAt mode k o
  first : ∀ j, 0 < j → j < k → ∀ o', ¬ m.StopsAt mode j o'

/-- None of the first `n` steps ends a timed run. -/
def GoesOn (mode : RunMode) (m : Machine) (n : Nat) : Prop :=
  ∀ j, 0 < j → j ≤ n → ∀ o, ¬ m.StopsAt mode j o

lemma GoesOn.mono (h : m.GoesOn mode n) (hkn : k ≤ n) : m.GoesOn mode k :=
  fun j hpos hj => h j hpos (hj.trans hkn)

lemma FirstStop.goesOn (h : m.FirstStop mode k o) (hn : n < k) :
    m.GoesOn mode n :=
  fun j hpos hj => h.first j hpos (by omega)

/-- A run that stops somewhere stops somewhere first. -/
lemma exists_firstStop (hpos : 0 < k) (h : m.StopsAt mode k o) :
    ∃ l o', m.FirstStop mode l o' := by
  classical
  have hex : ∃ l, 0 < l ∧ ∃ o', m.StopsAt mode l o' := ⟨k, hpos, o, h⟩
  obtain ⟨hlpos, o', hstop⟩ := Nat.find_spec hex
  refine ⟨Nat.find hex, o', hlpos, hstop, fun j hj hlt o'' hj' => ?_⟩
  exact Nat.find_min hex hlt ⟨hj, o'', hj'⟩

lemma goesOn_of_no_firstStop (h : ∀ k o, ¬ m.FirstStop mode k o) (n : Nat) :
    m.GoesOn mode n := by
  intro j hpos _ o hstop
  obtain ⟨k, o', hfirst⟩ := exists_firstStop hpos hstop
  exact h k o' hfirst

/-- A stop is told by the fault of the step and the machine behind it. -/
lemma StopsAt.congr (h : m.StopsAt mode k o) {m' : Machine} {l : Nat}
    (hfault : m'.faultOf l = m.faultOf k) (hafter : after l m' = after k m) :
    m'.StopsAt mode l o := by
  cases h with
  | faulted hf => exact .faulted (hfault.trans hf)
  | finished hok hhalt =>
      exact .finished (hfault.trans hok) (hafter ▸ hhalt)
  | breakpoint hmode hmarker => exact .breakpoint hmode (hafter ▸ hmarker)

/-- A step is counted from any machine before it. -/
lemma stopsAt_after_iff (hpos : 0 < j) :
    (after n m).StopsAt mode j o ↔ m.StopsAt mode (n + j) o := by
  obtain ⟨i, rfl⟩ : ∃ i, j = i + 1 := ⟨j - 1, by omega⟩
  have hfault : m.faultOf (n + (i + 1)) = (after n m).faultOf (i + 1) :=
    faultOf_add_succ m n i
  have hafter : after (n + (i + 1)) m = after (i + 1) (after n m) :=
    after_add n (i + 1) m
  exact ⟨fun h => h.congr hfault hafter,
    fun h => h.congr hfault.symm hafter.symm⟩

/-- Steps that do not end the run bring its first stop nearer. -/
lemma FirstStop.drop (h : m.FirstStop mode k o) (hn : n < k) :
    (after n m).FirstStop mode (k - n) o where
  pos := by omega
  stops := by
    rw [stopsAt_after_iff (by omega), Nat.add_sub_of_le hn.le]
    exact h.stops
  first := by
    intro j hpos hj o' hstop
    exact h.first (n + j) (by omega) (by omega) o'
      ((stopsAt_after_iff hpos).mp hstop)

lemma GoesOn.drop (h : m.GoesOn mode (n + k)) :
    (after n m).GoesOn mode k := by
  intro j hpos hj o hstop
  exact h (n + j) (by omega) (by omega) o ((stopsAt_after_iff hpos).mp hstop)

/-- A run that goes on has not halted its machine. -/
lemma GoesOn.awake (h : m.GoesOn mode n) (hm : m.halted = false) :
    (after n m).halted = false := by
  rcases Nat.eq_zero_or_pos n with rfl | hpos
  · exact hm
  · exact (forall_not_stopsAt_iff.mp (h n hpos le_rfl)).2.1

/-! ### Batches -/

/-- After a step that does not fail, a batch looks at the machine. -/
lemma batch_succ_of_ok (h : m.step.1 = none) (n : Nat) :
    m.batch mode (n + 1) =
      if m.step.2.halted then (.finished, m.step.2)
      else if mode = .breakpoint ∧ m.step.2.atBreakpoint then
        (.breakpoint, m.step.2)
      else m.step.2.batch mode n := by
  rw [batch, countedBatch_succ_of_ok h]
  split_ifs <;> rfl

/-- A batch makes a step that does not end the run, and goes on from there. -/
lemma batch_succ_of_goesOn (h : m.GoesOn mode 1) (n : Nat) :
    m.batch mode (n + 1) = m.step.2.batch mode n := by
  obtain ⟨hok, hawake, hclear⟩ :=
    forall_not_stopsAt_iff.mp (h 1 one_pos le_rfl)
  have hawake : m.step.2.halted = false := hawake
  have hclear : ¬ (mode = .breakpoint ∧ m.step.2.atBreakpoint = true) :=
    fun hmarker => Bool.eq_false_iff.mp (hclear hmarker.1) hmarker.2
  rw [batch_succ_of_ok (m := m) hok, if_neg (by simp [hawake]),
    if_neg hclear]

/-- A batch goes on behind the steps that do not end the run. -/
lemma batch_add (h : m.GoesOn mode k) (n : Nat) :
    m.batch mode (k + n) = (after k m).batch mode n := by
  induction k generalizing m with
  | zero => rw [Nat.zero_add, after_zero]
  | succ k ih =>
      have hfirst : m.GoesOn mode 1 := h.mono (by omega)
      have hrest : m.step.2.GoesOn mode k :=
        GoesOn.drop (n := 1) (by rwa [Nat.add_comm])
      rw [Nat.succ_add_eq_add_succ, Nat.add_succ, batch_succ_of_goesOn hfirst,
        ih hrest, after]

/-- A batch that finds no stop makes all its steps. -/
lemma batch_of_goesOn (h : m.GoesOn mode n) :
    m.batch mode n = (.yielded, after n m) := by
  rw [← Nat.add_zero n, batch_add h 0]
  rfl

/-- A step to a marker has neither failed nor halted the machine: one that
has failed stands at a bracket, and one that has halted stands behind the
program. -/
lemma StopsAt.ok_and_awake (hm : m.halted = false)
    (h : m.StopsAt mode 1 .breakpoint) :
    m.step.1 = none ∧ m.step.2.halted = false := by
  have hmarker : m.step.2.atBreakpoint = true := by
    cases h with
    | breakpoint _ hmarker => exact hmarker
  have hok : m.step.1 = none := by
    rw [Option.eq_none_iff_forall_ne_some]
    intro f hf
    have hstands : m.step.2.StandsAt f := standsAt_of_faultOf (k := 1) hf
    rw [hstands.not_atBreakpoint] at hmarker
    exact absurd hmarker (by decide)
  refine ⟨hok, ?_⟩
  rw [← Bool.not_eq_true]
  intro hhalt
  rw [atBreakpoint, pc_eq_size_of_step_halted hm hok hhalt, step_program,
    Program.charAt?_eq_none_iff.mpr le_rfl] at hmarker
  exact absurd hmarker (by decide)

/-- A batch whose first step ends the run makes no other. -/
lemma batch_succ_of_stopsAt (hm : m.halted = false)
    (h : m.StopsAt mode 1 o) (n : Nat) :
    m.batch mode (n + 1) = (o, m.step.2) := by
  cases h with
  | faulted hfault =>
      rw [batch, countedBatch_succ_of_fault (m := m) hfault]
  | finished hok hhalt =>
      have hhalt : m.step.2.halted = true := hhalt
      rw [batch_succ_of_ok (m := m) hok, if_pos hhalt]
  | breakpoint hmode hmarker =>
      obtain ⟨hok, hawake⟩ :=
        StopsAt.ok_and_awake hm (.breakpoint hmode hmarker)
      have hmarker : m.step.2.atBreakpoint = true := hmarker
      rw [batch_succ_of_ok hok, if_neg (by simp [hawake]),
        if_pos ⟨hmode, hmarker⟩]

/-- A batch ends with the first step that ends the run. -/
lemma batch_of_firstStop (hm : m.halted = false)
    (h : m.FirstStop mode k o) (hkn : k ≤ n) :
    m.batch mode n = (o, after k m) := by
  obtain ⟨l, rfl⟩ : ∃ l, k = l + 1 := ⟨k - 1, by have := h.pos; omega⟩
  obtain ⟨i, rfl⟩ : ∃ i, n = l + (i + 1) := ⟨n - (l + 1), by omega⟩
  have hgoes : m.GoesOn mode l := h.goesOn (by omega)
  have hstop : (after l m).StopsAt mode 1 o :=
    (stopsAt_after_iff one_pos).mpr h.stops
  rw [batch_add hgoes, batch_succ_of_stopsAt (hgoes.awake hm) hstop,
    after_succ]

/-- A run that stops at a marker can go on: the machine is not halted, and
the marker is the next thing to be executed. -/
lemma FirstStop.at_marker (h : m.FirstStop mode k .breakpoint)
    (hm : m.halted = false) :
    (after k m).halted = false ∧
      (after k m).program.charAt? (after k m).pc
        = some Instruction.marker := by
  obtain ⟨l, rfl⟩ : ∃ l, k = l + 1 := ⟨k - 1, by have := h.pos; omega⟩
  have hstop : (after l m).StopsAt mode 1 .breakpoint :=
    (stopsAt_after_iff one_pos).mpr h.stops
  have hgoes : m.GoesOn mode l := h.goesOn (by omega)
  constructor
  · rw [after_succ]
    exact (hstop.ok_and_awake (hgoes.awake hm)).2
  · cases h.stops with
    | breakpoint _ hmarker => exact eq_of_beq hmarker

end Machine

end TapeDebugger
