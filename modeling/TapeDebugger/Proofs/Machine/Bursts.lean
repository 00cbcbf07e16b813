/-
What a burst of steps does, told by the steps that can be made.

* `Machine.Unhindered`: so many steps can be made: none fails, and none is
  made on a halted machine;
* `Machine.exists_mostSteps`: within a bound there is a greatest number of
  such steps;
* `Machine.burst_cases`: a burst makes as many of them as its bound allows,
  and one more only if that one fails;
* `Machine.batch_eq_burst`: a batch that heeds no markers is such a burst.

A burst looks at the halted flag before each step, and a batch after each
step. The two agree on a machine that is not halted to begin with.
-/
import Mathlib.Tactic
import TapeDebugger.Proofs.Machine.Stops

namespace TapeDebugger

namespace Machine

variable {m : Machine} {k n made : Nat}

/-! ### Steps that can be made -/

/-- The first `k` steps can be made: none of them fails, and none is made on
a halted machine. -/
def Unhindered (m : Machine) (k : Nat) : Prop :=
  ∀ j < k, (after j m).halted = false ∧ (after j m).step.1 = none

lemma unhindered_zero (m : Machine) : m.Unhindered 0 :=
  fun j hj => absurd hj (Nat.not_lt_zero j)

lemma unhindered_succ_iff :
    m.Unhindered (k + 1) ↔
      (m.halted = false ∧ m.step.1 = none) ∧ m.step.2.Unhindered k := by
  constructor
  · intro h
    exact ⟨h 0 (Nat.succ_pos k), fun j hj => h (j + 1) (by omega)⟩
  · rintro ⟨hfirst, hrest⟩ j hj
    cases j with
    | zero => exact hfirst
    | succ j => exact hrest j (by omega)

/-- One more step can be made, or the machine is halted, or that step
fails. -/
lemma Unhindered.succ (h : m.Unhindered k)
    (hawake : (after k m).halted = false) (hok : (after k m).step.1 = none) :
    m.Unhindered (k + 1) := by
  intro j hj
  rcases Nat.lt_succ_iff_lt_or_eq.mp hj with hlt | rfl
  · exact h j hlt
  · exact ⟨hawake, hok⟩

/-- Of the steps that can be made, `k` is the greatest number within the
bound. -/
def MostSteps (m : Machine) (n k : Nat) : Prop :=
  IsGreatest {k | k ≤ n ∧ m.Unhindered k} k

lemma exists_mostSteps (m : Machine) (n : Nat) : ∃ k, m.MostSteps n k := by
  have hbounded : BddAbove {k | k ≤ n ∧ m.Unhindered k} :=
    ⟨n, fun k hk => hk.1⟩
  exact ⟨_, Nat.sSup_mem ⟨0, Nat.zero_le n, m.unhindered_zero⟩ hbounded,
    fun k hk => le_csSup hbounded hk⟩

/-- Short of the bound, the step after these fails if it is made on a machine
that is not halted. -/
lemma MostSteps.exists_fault (h : m.MostSteps n k) (hk : k < n)
    (hawake : (after k m).halted = false) :
    ∃ f, (after k m).step.1 = some f := by
  rw [← Option.ne_none_iff_exists']
  intro hok
  have hmore : k + 1 ≤ k := h.2 ⟨hk, h.1.2.succ hawake hok⟩
  omega

/-! ### Bursts -/

lemma burstFrom_of_halted (h : m.halted = true) (made bound : Nat) :
    m.burstFrom true made bound = ⟨made, none, m⟩ := by
  cases bound with
  | zero => rfl
  | succ bound => rw [burstFrom, h]; rfl

lemma burstFrom_succ_of_fault {f : Fault} (hm : m.halted = false)
    (hf : m.step.1 = some f) (made bound : Nat) :
    m.burstFrom true made (bound + 1)
      = ⟨made + 1, some f, m.step.2⟩ := by
  have hstep : m.step = (some f, m.step.2) := Prod.ext hf rfl
  rw [burstFrom, hm, hstep]
  rfl

lemma burstFrom_succ_of_ok (hm : m.halted = false) (hok : m.step.1 = none)
    (made bound : Nat) :
    m.burstFrom true made (bound + 1)
      = m.step.2.burstFrom true (made + 1) bound := by
  have hstep : m.step = (none, m.step.2) := Prod.ext hok rfl
  rw [burstFrom, hm, hstep]
  rfl

/-- A burst goes on behind the steps that can be made. -/
lemma burstFrom_add (h : m.Unhindered k) (made n : Nat) :
    m.burstFrom true made (k + n)
      = (after k m).burstFrom true (made + k) n := by
  induction k generalizing m made with
  | zero => rw [Nat.zero_add, after_zero, Nat.add_zero]
  | succ k ih =>
      obtain ⟨⟨hawake, hok⟩, hrest⟩ := unhindered_succ_iff.mp h
      rw [Nat.succ_add_eq_add_succ, Nat.add_succ,
        burstFrom_succ_of_ok hawake hok, ih hrest, after,
        Nat.add_assoc made 1 k, Nat.add_comm 1 k]

/-- **All that a burst can do**: it makes all the steps that can be made
within its bound, and then it has come to its bound or to a halt, or it makes
one step more, which fails. -/
lemma burst_cases (m : Machine) (n : Nat) :
    ∃ k, m.MostSteps n k ∧
      ((k = n ∨ (after k m).halted = true) ∧
          m.burst true n = ⟨k, none, after k m⟩ ∨
        ∃ f, (k < n ∧ (after k m).halted = false) ∧
          (after k m).step.1 = some f ∧
          m.burst true n = ⟨k + 1, some f, after (k + 1) m⟩) := by
  obtain ⟨k, h⟩ := m.exists_mostSteps n
  obtain ⟨left, rfl⟩ := Nat.exists_eq_add_of_le h.1.1
  refine ⟨k, h, ?_⟩
  rw [burst, burstFrom_add h.1.2, Nat.zero_add]
  cases hhalt : (after k m).halted with
  | true =>
      exact Or.inl ⟨Or.inr rfl, burstFrom_of_halted hhalt k left⟩
  | false =>
      cases left with
      | zero => exact Or.inl ⟨Or.inl rfl, rfl⟩
      | succ left =>
          obtain ⟨f, hf⟩ := h.exists_fault (by omega) hhalt
          refine Or.inr ⟨f, ⟨by omega, rfl⟩, hf, ?_⟩
          rw [burstFrom_succ_of_fault hhalt hf, after_succ]

/-! ### Bursts and batches -/

/-- The outcome of a batch that makes the steps of a burst. -/
def Burst.outcome (b : Burst) : Outcome :=
  match b.fault? with
  | some f => .faulted f
  | none => if b.machine.halted then .finished else .yielded

lemma Burst.fault?_outcome (b : Burst) : b.outcome.fault? = b.fault? := by
  rw [outcome]
  cases b.fault? with
  | some f => rfl
  | none => split_ifs <;> rfl

lemma batch_eq_burstFrom (hm : m.halted = false) (made n : Nat) :
    m.batch .continuous n = ((m.burstFrom true made n).outcome,
      (m.burstFrom true made n).machine) := by
  induction n generalizing m made with
  | zero => simp [batch_zero, burstFrom, Burst.outcome, hm]
  | succ n ih =>
      cases hfault : m.step.1 with
      | some f =>
          have hstop : m.StopsAt .continuous 1 (.faulted f) := .faulted hfault
          rw [burstFrom_succ_of_fault hm hfault, batch_succ_of_stopsAt hm hstop]
          rfl
      | none =>
          rw [burstFrom_succ_of_ok hm hfault, batch_succ_of_ok hfault]
          cases hhalt : m.step.2.halted with
          | true => simp [burstFrom_of_halted hhalt, Burst.outcome, hhalt]
          | false =>
              rw [if_neg Bool.false_ne_true, if_neg (by simp)]
              exact ih hhalt (made + 1)

/-- **A batch that heeds no markers is a burst**, and its outcome is told by
the fault and by the machine. -/
lemma batch_eq_burst (hm : m.halted = false) (n : Nat) :
    m.batch .continuous n =
      ((m.burst true n).outcome, (m.burst true n).machine) :=
  batch_eq_burstFrom hm 0 n

end Machine

end TapeDebugger
