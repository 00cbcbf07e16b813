/-
Where a machine can be.

* `Machine.Driven`: a machine that has made a number of steps since it was
  loaded, and that a host may have halted in between;
* `Machine.Safe`: the tape has its size, the pointer, the program counter and
  the loops entered lie within it and within the program, and the program
  counter is past the text only where nothing is left to run;
* `Machine.Driven.safe`: all driven machines are safe;
* `Machine.halted_after_load_iff`: what the halted flag tells if no host has
  set it.

The tape and the addresses of its cells carry their bounds in their types. Of
the program counter and of the loops this is an invariant of the steps: jumps
lead to brackets, and the way to the next instruction ends with the text.
-/
import Mathlib.Tactic
import TapeDebugger.Proofs.Machine.Comments
import TapeDebugger.Proofs.Machine.Rest

namespace TapeDebugger

lemma Program.size_ofString_eq_zero_iff {code : String} :
    (ofString code).size = 0 ↔ code = "" := by
  simp [ofString, size]

namespace Machine

variable {m : Machine} {n : Nat}

/-! ### Driven machines -/

/-- The machine has made `n` steps since it was loaded, or since it was there
without a program. A host may have halted it at any time. -/
inductive Driven : Machine → Nat → Prop
  /-- A program was loaded. -/
  | loaded (code input : String) : Driven (load code input) 0
  /-- Nothing was loaded. -/
  | empty : Driven unloaded 0
  /-- A step was made, and may have failed. -/
  | stepped {m : Machine} {n : Nat} (h : Driven m n) :
      Driven m.step.2 (n + 1)
  /-- The machine was halted. -/
  | stopped {m : Machine} {n : Nat} (h : Driven m n) : Driven m.halt n

lemma Driven.after (h : m.Driven n) (k : Nat) :
    (after k m).Driven (n + k) := by
  induction k with
  | zero => exact h
  | succ k ih =>
      rw [after_succ]
      exact ih.stepped

lemma Driven.aligned (h : m.Driven n) : m.Aligned := by
  induction h with
  | loaded code input => exact aligned_load code input
  | empty => exact aligned_load "" ""
  | stepped _ ih => exact ih.step
  | stopped _ ih => exact ih

lemma Driven.pc_le_size (h : m.Driven n) : m.pc ≤ m.program.size := by
  induction h with
  | loaded code input => exact Nat.zero_le _
  | empty => exact le_rfl
  | @stepped m n _ ih =>
      rw [step_program]
      obtain ⟨c, -, hstep⟩ | ⟨f, -, hstep⟩ := m.step_cases
      · rw [hstep]
        exact Program.nextInstruction_le_size c.pc
      · rw [hstep]
        exact ih
  | stopped _ ih => exact ih

lemma Driven.settled (h : m.Driven n) (hn : 0 < n) :
    m.program.Settled m.pc := by
  induction h with
  | loaded code input => exact absurd hn (lt_irrefl 0)
  | empty => exact absurd hn (lt_irrefl 0)
  | @stepped m n _ _ => exact settled_step m
  | stopped _ ih => exact ih hn

/-- Only a fresh machine without any text stands behind its program and is
not halted. -/
lemma Driven.eq_load_of_end (h : m.Driven n) (hawake : m.halted = false)
    (hend : m.pc = m.program.size) : n = 0 ∧ ∃ input, m = load "" input := by
  cases h with
  | loaded code input =>
      have hempty : code = "" := Program.size_ofString_eq_zero_iff.mp hend.symm
      exact ⟨rfl, input, by rw [hempty]⟩
  | empty => exact absurd hawake (by simp [unloaded])
  | @stepped m n _ =>
      rw [step_program] at hend
      rw [step_halted, decide_eq_true hend.ge, Bool.or_true] at hawake
      exact absurd hawake (by simp)
  | stopped _ => exact absurd hawake (by simp [halt])

/-! ### Safety -/

/-- After `n` steps all that the machine looks at is where it looks, and the
program counter has not come to rest at a comment. -/
structure Safe (m : Machine) (n : Nat) : Prop where
  tape_size : m.store.tape.cells.toArray.size = 30000
  pointer_le : (m.store.pointer : Nat) ≤ 29999
  /-- The cell under the pointer is one of the tape. -/
  cell_on_tape :
    m.store.tape.cells.toArray[(m.store.pointer : Nat)]? = some m.cell
  pc_le : m.pc ≤ m.program.size
  loops_open : ∀ i ∈ m.loops, m.program.charAt? i = some '['
  /-- After a step the program counter is at an instruction or at the end. -/
  pc_settled : 0 < n →
    m.pc = m.program.size ∨ (m.program.instructionAt? m.pc).isSome = true
  /-- A machine that can go on is at the end only if it has nothing to do. -/
  fresh_at_end : m.halted = false → m.pc = m.program.size →
    n = 0 ∧ ∃ input, m = load "" input

/-- The pointer is within the tape, so that there is a cell under it. -/
lemma getElem?_pointer (s : Store) :
    s.tape.cells.toArray[(s.pointer : Nat)]? = some s.cell := by
  simp [Store.cell, Tape.read]

lemma Aligned.loops_open (h : m.Aligned) :
    ∀ i ∈ m.loops, m.program.charAt? i = some '[' := by
  intro i hi
  rw [h] at hi
  obtain ⟨inner, outer, hsplit⟩ := List.append_of_mem hi
  exact (Program.openBefore_eq_append hsplit).2.1

/-- **Every driven machine is safe.** -/
lemma Driven.safe (h : m.Driven n) : m.Safe n where
  tape_size := m.store.tape.cells.size_toArray
  pointer_le := Nat.le_of_lt_succ m.store.pointer.isLt
  cell_on_tape := getElem?_pointer m.store
  pc_le := h.pc_le_size
  loops_open := h.aligned.loops_open
  pc_settled := by
    intro hn
    rcases Nat.lt_or_eq_of_le h.pc_le_size with hlt | hend
    · exact Or.inr (h.settled hn hlt)
    · exact Or.inl hend
  fresh_at_end := h.eq_load_of_end

/-! ### Machines that no host has halted -/

/-- Steps alone halt a machine exactly where it stands behind its program or
has failed. The one machine that stands there from the start, and is not
halted, has no text. -/
lemma halted_after_load_iff (code input : String)
    (h : 0 < n ∨ code ≠ "") :
    (Machine.after n (load code input)).halted = true ↔
      (Machine.after n (load code input)).pc
          = (Machine.after n (load code input)).program.size ∨
        ∃ j < n, (Machine.after j (load code input)).step.1.isSome = true := by
  rcases Nat.eq_zero_or_pos n with rfl | hn
  · have hcode : code ≠ "" := h.resolve_left (lt_irrefl 0)
    have hsize : (0 : Nat) ≠ (Program.ofString code).size := fun h0 =>
      hcode (Program.size_ofString_eq_zero_iff.mp h0.symm)
    simp [load, hsize]
  · have hle := ((Driven.loaded code input).after n).pc_le_size
    rw [(haltedAtRest_load code input).halted_after_iff hn]
    rw [after_program] at hle ⊢
    exact or_congr_left ⟨fun hge => le_antisymm hle hge, fun heq => heq.ge⟩

/-- Without a program a machine stays where it is, and halted. -/
lemma after_unloaded (n : Nat) : Machine.after n unloaded = unloaded := by
  refine after_preserves (P := fun m => m = unloaded) rfl ?_ n
  rintro m rfl
  have hrest : unloaded.Rests none := rfl
  rw [hrest.step_eq]
  rfl

end Machine

end TapeDebugger
