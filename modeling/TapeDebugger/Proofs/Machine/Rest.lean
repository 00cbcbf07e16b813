/-
Where a machine comes to rest, and what its halted flag tells about it.

* `Machine.Rests`: the machine stands behind its program, or at a jump that
  fails;
* `Machine.Rests.step_eq`: from there a step only sets the halted flag;
* `Machine.Rests.agree`: a run comes to rest in one way only;
* `Machine.HaltedAtRest`: the halted flag is set at rest only, which every
  step preserves;
* `Machine.HaltedAtRest.halted_after_iff`: after a step such a machine is
  halted exactly if it stands behind the program or has failed;
* `Machine.EndsWith`: the run sets the flag, with the fault of the step that
  does;
* `Machine.endsWith_iff_rests`: a run ends exactly if it comes to rest, and
  with the same fault.

A host may halt a machine anywhere. What is said here about the flag is about
machines that are left alone between their steps.
-/
import Mathlib.Tactic
import TapeDebugger.Proofs.Machine.Runs

namespace TapeDebugger

namespace Machine

variable {m : Machine} {n k : Nat} {f? g? : Option Fault}

/-! ### Rest -/

/-- No step leads further: the machine stands behind its program, or at a
jump that fails with the given fault. -/
def Rests (m : Machine) : Option Fault → Prop
  | none => m.pc = m.program.size
  | some f => m.control = .error f

/-- At rest a step only sets the halted flag. -/
lemma Rests.step_eq (h : m.Rests f?) : m.step = (f?, m.halt) := by
  cases f? with
  | some f => exact step_of_control_error h
  | none =>
      have hpc : m.pc = m.program.size := h
      have hcur : m.current? = none :=
        Program.instructionAt?_eq_none_of_size_le hpc.ge
      have hnext : m.program.nextInstruction m.pc = m.pc := by
        rw [hpc]
        exact Program.nextInstruction_of_size_le le_rfl
      rw [step_of_silent (Or.inl hcur), hnext, decide_eq_true hpc.ge,
        Bool.or_true]
      rfl

lemma Rests.halt (h : m.Rests f?) : m.halt.Rests f? := by
  cases f? <;> exact h

lemma Rests.unique (hf : m.Rests f?) (hg : m.Rests g?) : f? = g? :=
  congrArg Prod.fst (hf.step_eq.symm.trans hg.step_eq)

/-- A machine stays at rest, with its data. -/
lemma Rests.after (h : m.Rests f?) (k : Nat) :
    (after k m).Rests f? ∧ (after k m).store = m.store := by
  refine after_preserves
    (P := fun m' => m'.Rests f? ∧ m'.store = m.store) ⟨h, rfl⟩ ?_ k
  rintro m' ⟨hrest, hstore⟩
  rw [hrest.step_eq]
  exact ⟨hrest.halt, hstore⟩

/-- **A run comes to rest in one way only**: wherever it is found at rest, it
is with the same fault and the same data. -/
lemma Rests.agree (hn : (Machine.after n m).Rests f?)
    (hk : (Machine.after k m).Rests g?) :
    f? = g? ∧ (Machine.after n m).store = (Machine.after k m).store := by
  rcases Nat.le_total n k with hle | hle
  · obtain ⟨d, rfl⟩ := Nat.exists_eq_add_of_le hle
    rw [after_add] at hk ⊢
    obtain ⟨hrest, hstore⟩ := hn.after d
    exact ⟨hrest.unique hk, hstore.symm⟩
  · obtain ⟨d, rfl⟩ := Nat.exists_eq_add_of_le hle
    rw [after_add] at hn ⊢
    obtain ⟨hrest, hstore⟩ := hk.after d
    exact ⟨hn.unique hrest, hstore⟩

/-! ### The halted flag -/

/-- The halted flag is set only where the machine is at rest. -/
def HaltedAtRest (m : Machine) : Prop :=
  m.halted = true → ∃ f?, m.Rests f?

lemma haltedAtRest_load (code input : String) :
    (load code input).HaltedAtRest :=
  fun h => absurd h (by simp [load])

/-- A step that halts a machine brings it to rest. -/
lemma rests_of_step_halted (hm : m.halted = false)
    (h : m.step.2.halted = true) : m.step.2.Rests m.step.1 := by
  cases hfault : m.step.1 with
  | none =>
      show m.step.2.pc = m.step.2.program.size
      rw [step_program]
      exact pc_eq_size_of_step_halted hm hfault h
  | some f =>
      have hrest : m.Rests (some f) := step_fault_iff_control.mp hfault
      rw [step_of_fault hfault]
      exact hrest.halt

lemma HaltedAtRest.step (h : m.HaltedAtRest) : m.step.2.HaltedAtRest := by
  intro hhalt
  cases hm : m.halted with
  | false => exact ⟨m.step.1, rests_of_step_halted hm hhalt⟩
  | true =>
      obtain ⟨f?, hrest⟩ := h hm
      rw [hrest.step_eq]
      exact ⟨f?, hrest.halt⟩

lemma HaltedAtRest.after (h : m.HaltedAtRest) (n : Nat) :
    (after n m).HaltedAtRest :=
  after_preserves h (fun _ h => h.step) n

/-- What the flag was before a step does not matter: the step sets it if it
fails or ends behind the program, and where the flag was set already, the
step does one of the two. -/
lemma HaltedAtRest.step_halted_iff (h : m.HaltedAtRest) :
    m.step.2.halted = true ↔
      m.step.1.isSome = true ∨ m.program.size ≤ m.step.2.pc := by
  have hrest : m.halted = true →
      m.step.1.isSome = true ∨ m.program.size ≤ m.step.2.pc := by
    intro hm
    obtain ⟨f?, hrest⟩ := h hm
    rw [hrest.step_eq]
    cases f? with
    | none => exact Or.inr hrest.ge
    | some f => exact Or.inl rfl
  rw [step_halted, Bool.or_eq_true, Bool.or_eq_true, decide_eq_true_eq,
    or_assoc]
  exact ⟨fun h => h.elim hrest id, Or.inr⟩

/-- After at least one step a machine is halted exactly if it stands behind
the program or one of its steps has failed. -/
lemma HaltedAtRest.halted_after_iff (h : m.HaltedAtRest) (hn : 0 < n) :
    (Machine.after n m).halted = true ↔
      m.program.size ≤ (Machine.after n m).pc ∨
        ∃ j < n, (Machine.after j m).step.1.isSome = true := by
  obtain ⟨k, rfl⟩ : ∃ k, n = k + 1 := ⟨n - 1, by omega⟩
  have hlast := (h.after k).step_halted_iff
  rw [after_program] at hlast
  rw [after_succ, hlast]
  constructor
  · rintro (hfault | hend)
    · exact Or.inr ⟨k, Nat.lt_succ_self k, hfault⟩
    · exact Or.inl hend
  · rintro (hend | ⟨j, hj, hfault⟩)
    · exact Or.inr hend
    · -- once a step has failed, the last one has failed too
      obtain ⟨f, hf⟩ := Option.isSome_iff_exists.mp hfault
      obtain ⟨d, rfl⟩ := Nat.exists_eq_add_of_le (Nat.le_of_lt_succ hj)
      have hrest : (Machine.after j m).Rests (some f) :=
        step_fault_iff_control.mp hf
      rw [after_add, (hrest.after d).1.step_eq]
      exact Or.inl rfl

/-! ### Runs up to the flag -/

/-- Where the flag is first set, the machine is at rest with the fault of its
last step. -/
lemma rests_of_haltsAfter (hm : m.halted = false) (hk : m.HaltsAfter k) :
    (Machine.after k m).Rests (m.faultOf k) := by
  obtain ⟨hawake, hhalt⟩ := hk
  cases k with
  | zero => exact absurd (hm.symm.trans hhalt) (by simp)
  | succ k =>
      rw [after_succ] at hhalt ⊢
      exact rests_of_step_halted (hawake k (Nat.lt_succ_self k)) hhalt

/-- A run that comes to rest sets the flag, and does so with this fault. -/
lemma exists_haltsAfter_of_rests (hm : m.halted = false)
    (hn : (Machine.after n m).Rests f?) :
    ∃ k, m.HaltsAfter k ∧ m.faultOf k = f? := by
  have hhalt : (Machine.after (n + 1) m).halted = true := by
    rw [after_succ, hn.step_eq]
    rfl
  obtain ⟨k, hk⟩ := exists_haltsAfter hhalt
  exact ⟨k, hk, ((rests_of_haltsAfter hm hk).agree hn).1⟩

/-- The run of the machine comes to an end, with the fault of its last
step. -/
def EndsWith (m : Machine) (f? : Option Fault) : Prop :=
  ∃ k, m.HaltsAfter k ∧ m.faultOf k = f?

lemma endsWith_iff_rests (hm : m.halted = false) :
    m.EndsWith f? ↔ ∃ n, (Machine.after n m).Rests f? := by
  constructor
  · rintro ⟨k, hk, rfl⟩
    exact ⟨k, rests_of_haltsAfter hm hk⟩
  · rintro ⟨n, hn⟩
    exact exists_haltsAfter_of_rests hm hn

end Machine

end TapeDebugger
