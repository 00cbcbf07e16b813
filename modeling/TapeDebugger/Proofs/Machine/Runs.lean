/-
Runs of a machine, step after step:

* `Machine.after_add` and `Machine.after_succ`: a run can be cut anywhere;
* `Machine.after_preserves`: what one step preserves, a run preserves;
* `Machine.faultOf`: the fault of the last step of a run, if it failed;
* `Machine.HaltsAfter`: the number of steps after which the halted flag is
  first set, which is unique.
-/
import Mathlib.Tactic
import TapeDebugger.Machine.Run
import TapeDebugger.Proofs.Program.Brackets

namespace TapeDebugger

namespace Machine

variable {m : Machine}

/-! ### One step -/

lemma step_of_control_ok {c : Control} (h : m.control = .ok c) :
    m.step = (none, m.advance c) := by
  rw [step, h]

lemma step_of_control_error {f : Fault} (h : m.control = .error f) :
    m.step = (some f, m.halt) := by
  rw [step, h]

/-- Where there is no bracket, control stays where it is. -/
lemma control_of_not_loop
    (h : ∀ i, m.current? = some i → i.isLoop = false) :
    m.control = .ok ⟨m.pc, m.loops⟩ := by
  rw [control]
  split
  · next hcur => exact absurd (h _ hcur) (by simp [Instruction.isLoop])
  · next hcur => exact absurd (h _ hcur) (by simp [Instruction.isLoop])
  · rfl

/-- At a comment, at a marker and behind the text control stays too. -/
lemma control_of_silent
    (h : m.current? = none ∨ m.current? = some .breakpoint) :
    m.control = .ok ⟨m.pc, m.loops⟩ := by
  refine control_of_not_loop fun i hi => ?_
  rcases h with hcur | hcur
  · exact absurd (hcur.symm.trans hi) (by simp)
  · obtain rfl : Instruction.breakpoint = i :=
      Option.some.inj (hcur.symm.trans hi)
    rfl

/-- There a step goes to the next instruction and does nothing else. -/
lemma step_of_silent
    (h : m.current? = none ∨ m.current? = some .breakpoint) :
    m.step = (none, { m with
      pc := m.program.nextInstruction m.pc
      halted := m.halted
        || decide (m.program.size ≤ m.program.nextInstruction m.pc) }) := by
  have hstore : m.store.execute m.current? = m.store := by
    rcases h with hcur | hcur <;> rw [hcur] <;> rfl
  rw [step_of_control_ok (control_of_silent h), advance, hstore]

/-- A step advances from where control stands, or it only halts. -/
lemma step_cases (m : Machine) :
    (∃ c, m.control = .ok c ∧ m.step = (none, m.advance c)) ∨
      ∃ f, m.control = .error f ∧ m.step = (some f, m.halt) := by
  cases h : m.control with
  | ok c => exact Or.inl ⟨c, rfl, step_of_control_ok h⟩
  | error f => exact Or.inr ⟨f, rfl, step_of_control_error h⟩

@[simp]
lemma step_program (m : Machine) : m.step.2.program = m.program := by
  obtain ⟨c, -, hstep⟩ | ⟨f, -, hstep⟩ := m.step_cases <;> rw [hstep] <;> rfl

lemma step_fault_iff_control {f : Fault} :
    m.step.1 = some f ↔ m.control = .error f := by
  obtain ⟨c, hc, hstep⟩ | ⟨f', hf, hstep⟩ := m.step_cases
  · simp [hstep, hc]
  · simp [hstep, hf]

/-- A step that fails leaves all but the halted flag as it was. -/
lemma step_of_fault {f : Fault} (h : m.step.1 = some f) :
    m.step.2 = m.halt := by
  obtain ⟨c, -, hstep⟩ | ⟨f, -, hstep⟩ := m.step_cases
  · rw [hstep] at h
    exact absurd h (by simp)
  · rw [hstep]

/-- A step halts a machine if it fails or leads behind the program. -/
lemma step_halted (m : Machine) :
    m.step.2.halted = (m.halted || m.step.1.isSome
      || decide (m.program.size ≤ m.step.2.pc)) := by
  obtain ⟨c, -, hstep⟩ | ⟨f, -, hstep⟩ := m.step_cases
  · simp [hstep, advance]
  · simp [hstep, halt]

/-- A machine that a step has halted stands behind the program, unless the
step failed. -/
lemma pc_eq_size_of_step_halted (hm : m.halted = false)
    (hfault : m.step.1 = none) (hhalt : m.step.2.halted = true) :
    m.step.2.pc = m.program.size := by
  obtain ⟨c, -, hstep⟩ | ⟨f, -, hstep⟩ := m.step_cases
  · rw [hstep] at hhalt ⊢
    simp only [advance, hm, Bool.false_or, decide_eq_true_eq] at hhalt ⊢
    exact le_antisymm (Program.nextInstruction_le_size _) hhalt
  · rw [hstep] at hfault
    exact absurd hfault (by simp)

/-! ### Many steps -/

@[simp]
lemma after_zero (m : Machine) : after 0 m = m := rfl

lemma after_add (n k : Nat) (m : Machine) :
    after (n + k) m = after k (after n m) := by
  induction n generalizing m with
  | zero => rw [Nat.zero_add, after_zero]
  | succ n ih =>
      rw [Nat.succ_add_eq_add_succ, Nat.add_succ, after, ih, after]

lemma after_succ (n : Nat) (m : Machine) :
    after (n + 1) m = (after n m).step.2 := by
  rw [after_add]
  rfl

/-- A property that every step preserves holds after every run. -/
lemma after_preserves {P : Machine → Prop} (hm : P m)
    (hstep : ∀ m, P m → P m.step.2) (n : Nat) : P (after n m) := by
  induction n with
  | zero => exact hm
  | succ n ih =>
      rw [after_succ]
      exact hstep _ ih

@[simp]
lemma after_program (n : Nat) (m : Machine) :
    (after n m).program = m.program :=
  after_preserves (P := fun m' => m'.program = m.program) rfl
    (fun m' h => m'.step_program.trans h) n

/-! ### The last fault of a run -/

/-- The fault of the `k`-th step, where the first step has number one; none
if that step succeeded or if there was no step. -/
def faultOf (m : Machine) : (k : Nat) → Option Fault
  | 0 => none
  | k + 1 => (after k m).step.1

@[simp]
lemma faultOf_zero (m : Machine) : m.faultOf 0 = none := rfl

lemma faultOf_add_succ (m : Machine) (k l : Nat) :
    m.faultOf (k + (l + 1)) = (after k m).faultOf (l + 1) := by
  rw [← Nat.add_assoc, faultOf, after_add, faultOf]

/-- After a step that failed the machine is halted. -/
lemma faultOf_eq_none_of_not_halted {k : Nat}
    (h : (after k m).halted = false) : m.faultOf k = none := by
  cases k with
  | zero => rfl
  | succ k =>
      rw [faultOf, Option.eq_none_iff_forall_ne_some]
      intro f hf
      rw [after_succ, step_of_fault hf] at h
      exact absurd h (by simp [halt])

/-! ### Halting -/

/-- The halted flag is set after `k` steps, and not before. -/
def HaltsAfter (m : Machine) (k : Nat) : Prop :=
  (∀ j < k, (after j m).halted = false) ∧ (after k m).halted = true

/-- A machine that is halted after some number of steps was first halted
after some number of steps. -/
lemma exists_haltsAfter {n : Nat} (h : (after n m).halted = true) :
    ∃ k, m.HaltsAfter k := by
  classical
  have hex : ∃ k, (after k m).halted = true := ⟨n, h⟩
  refine ⟨Nat.find hex, fun j hj => ?_, Nat.find_spec hex⟩
  exact Bool.eq_false_iff.mpr (Nat.find_min hex hj)

lemma HaltsAfter.unique {k l : Nat} (hk : m.HaltsAfter k)
    (hl : m.HaltsAfter l) : k = l := by
  rcases Nat.lt_trichotomy k l with hlt | heq | hgt
  · exact absurd hk.2 (by rw [hl.1 k hlt]; decide)
  · exact heq
  · exact absurd hl.2 (by rw [hk.1 l hgt]; decide)

end Machine

end TapeDebugger
