/-
Bursts and batches are stretches of single steps.

* `Machine.Stretch`: a number of steps, none of them made on a halted
  machine, and the fault of the last one;
* `Machine.Stretch.trans`: two stretches make one if the first has not
  halted the machine;
* `Machine.stretch_burst`: a burst that heeds the halted flag is a stretch of
  as many steps as it tells;
* `Machine.countedBatch_succ_of_fault` and `Machine.countedBatch_succ_of_ok`:
  a batch by its first step;
* `Machine.stretch_batch`: a batch begun on a machine that is not halted is a
  stretch of as many steps as it tells.
-/
import Mathlib.Tactic
import TapeDebugger.Proofs.Machine.Runs

namespace TapeDebugger

/-- The fault that ended a batch, if one did. -/
def Outcome.fault? : Outcome → Option Fault
  | .faulted f => some f
  | _ => none

namespace Machine

variable {m m' m₁ m₂ : Machine} {k l : Nat} {f? f₁? f₂? : Option Fault}

/-! ### Stretches -/

/-- From `m` to `m'` there are `k` steps, none of them on a halted machine,
and `f?` is the fault of the last one, if it failed. -/
structure Stretch (m : Machine) (k : Nat) (f? : Option Fault)
    (m' : Machine) : Prop where
  machine_eq : m' = after k m
  awake : ∀ j < k, (after j m).halted = false
  fault_eq : f? = m.faultOf k

lemma Stretch.refl (m : Machine) : Stretch m 0 none m :=
  ⟨rfl, fun j hj => absurd hj (Nat.not_lt_zero j), rfl⟩

lemma Stretch.single (h : m.halted = false) :
    Stretch m 1 m.step.1 m.step.2 := by
  refine ⟨rfl, fun j hj => ?_, rfl⟩
  rw [Nat.lt_one_iff.mp hj]
  exact h

/-- A stretch whose machine is not halted has no fault. -/
lemma Stretch.fault_eq_none (h : Stretch m k f? m')
    (hm : m'.halted = false) : f? = none := by
  rw [h.fault_eq]
  refine faultOf_eq_none_of_not_halted ?_
  rw [← h.machine_eq]
  exact hm

/-- Two stretches one after the other. -/
lemma Stretch.trans (h₁ : Stretch m k f₁? m₁) (hm : m₁.halted = false)
    (h₂ : Stretch m₁ l f₂? m₂) : Stretch m (k + l) f₂? m₂ where
  machine_eq := by rw [after_add, ← h₁.machine_eq, h₂.machine_eq]
  awake := by
    intro j hj
    by_cases hjk : j < k
    · exact h₁.awake j hjk
    · obtain ⟨i, rfl⟩ : ∃ i, j = k + i := ⟨j - k, by omega⟩
      rw [after_add, ← h₁.machine_eq]
      exact h₂.awake i (by omega)
  fault_eq := by
    rw [h₂.fault_eq]
    cases l with
    | zero =>
        rw [faultOf_zero, Nat.add_zero, ← h₁.fault_eq, h₁.fault_eq_none hm]
    | succ l => rw [faultOf_add_succ m k l, ← h₁.machine_eq]

/-- A step that succeeds, and a stretch from where it leads. If there are
steps in the stretch, they are not made on a halted machine. -/
lemma Stretch.cons (hm : m.halted = false) (hok : m.step.1 = none)
    (h : Stretch m.step.2 k f? m') : Stretch m (k + 1) f? m' where
  machine_eq := h.machine_eq
  awake := by
    intro j hj
    cases j with
    | zero => exact hm
    | succ j => exact h.awake j (by omega)
  fault_eq := by
    rw [h.fault_eq]
    cases k with
    | zero => exact hok.symm
    | succ k => rfl

/-! ### Bursts -/

/-- The steps that a burst adds to those made before. -/
lemma stretch_burstFrom (made bound : Nat) (m : Machine) :
    ∃ k, (m.burstFrom true made bound).steps = made + k ∧
      Stretch m k (m.burstFrom true made bound).fault?
        (m.burstFrom true made bound).machine := by
  induction bound generalizing made m with
  | zero => exact ⟨0, rfl, .refl m⟩
  | succ bound ih =>
      rw [burstFrom]
      cases hm : m.halted with
      | true => exact ⟨0, rfl, .refl m⟩
      | false =>
          rw [if_neg (by simp)]
          obtain ⟨c, -, hstep⟩ | ⟨f, -, hstep⟩ := m.step_cases
          · obtain ⟨k, hk, hstretch⟩ := ih (made + 1) (m.advance c)
            rw [hstep]
            refine ⟨k + 1, by simp only [hk]; omega, ?_⟩
            refine .cons hm (by rw [hstep]) ?_
            rw [hstep]
            exact hstretch
          · have hsingle := Stretch.single hm
            rw [hstep] at hsingle ⊢
            exact ⟨1, rfl, hsingle⟩

/-- A burst makes as many steps as it tells. -/
lemma stretch_burst (bound : Nat) (m : Machine) :
    Stretch m (m.burst true bound).steps (m.burst true bound).fault?
      (m.burst true bound).machine := by
  obtain ⟨k, hk, hstretch⟩ := stretch_burstFrom 0 bound m
  rw [burst, hk, Nat.zero_add]
  exact hstretch

/-! ### Batches -/

/-- Steps made before are only counted. -/
lemma batchFrom_eq (mode : RunMode) (made bound : Nat) (m : Machine) :
    m.batchFrom mode made bound =
      { m.countedBatch mode bound with
        steps := made + (m.countedBatch mode bound).steps } := by
  induction bound generalizing made m with
  | zero => rfl
  | succ bound ih =>
      rw [countedBatch, batchFrom, batchFrom]
      obtain ⟨c, -, hstep⟩ | ⟨f, -, hstep⟩ := m.step_cases
      · rw [hstep]
        dsimp only
        split_ifs
        · rfl
        · rfl
        · rw [ih (made + 1), ih (0 + 1)]
          simp only [Nat.zero_add, Nat.add_assoc]
      · rw [hstep]

lemma batch_zero (mode : RunMode) (m : Machine) :
    m.batch mode 0 = (.yielded, m) := rfl

/-- A step that fails ends the batch. -/
lemma countedBatch_succ_of_fault {f : Fault} (h : m.step.1 = some f)
    (mode : RunMode) (bound : Nat) :
    m.countedBatch mode (bound + 1) = ⟨1, .faulted f, m.step.2⟩ := by
  have hstep : m.step = (some f, m.step.2) := Prod.ext h rfl
  rw [countedBatch, batchFrom, hstep]

/-- After a step that does not fail, a batch looks at the machine, and if
nothing ends it there, it goes on with the rest of its steps. -/
lemma countedBatch_succ_of_ok (h : m.step.1 = none) (mode : RunMode)
    (bound : Nat) :
    m.countedBatch mode (bound + 1) =
      if m.step.2.halted then ⟨1, .finished, m.step.2⟩
      else if mode = .breakpoint ∧ m.step.2.atBreakpoint then
        ⟨1, .breakpoint, m.step.2⟩
      else
        { m.step.2.countedBatch mode bound with
          steps := (m.step.2.countedBatch mode bound).steps + 1 } := by
  have hstep : m.step = (none, m.step.2) := Prod.ext h rfl
  rw [countedBatch, batchFrom, hstep, Nat.zero_add]
  dsimp only
  rw [batchFrom_eq mode 1, Nat.add_comm 1]

/-- A batch begun on a machine that is not halted is a stretch of as many
steps as it tells, and it leaves the machine so if the run is to go on. -/
lemma stretch_batch (mode : RunMode) (bound : Nat) (hm : m.halted = false) :
    Stretch m (m.countedBatch mode bound).steps
        (m.batch mode bound).1.fault? (m.batch mode bound).2 ∧
      ((m.batch mode bound).1 = .yielded →
        (m.batch mode bound).2.halted = false) := by
  induction bound generalizing m with
  | zero => exact ⟨.refl m, fun _ => hm⟩
  | succ bound ih =>
      have hsingle := Stretch.single hm
      cases hfault : m.step.1 with
      | some f =>
          rw [hfault] at hsingle
          rw [batch, countedBatch_succ_of_fault hfault]
          exact ⟨hsingle, by simp⟩
      | none =>
          rw [hfault] at hsingle
          rw [batch, countedBatch_succ_of_ok hfault]
          split_ifs with hhalt hmarker
          · exact ⟨hsingle, by simp⟩
          · exact ⟨hsingle, by simp⟩
          · obtain ⟨hstretch, hgoes⟩ := ih (Bool.not_eq_true _ ▸ hhalt)
            exact ⟨.cons hm hfault hstretch, hgoes⟩

end Machine

end TapeDebugger
