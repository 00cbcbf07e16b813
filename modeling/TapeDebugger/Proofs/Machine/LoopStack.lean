/-
The loops that a machine has entered are the brackets open before it.

* `Machine.Aligned`: the loops entered are the `[` still open when the text
  before the program counter is read from left to right;
* `Machine.Decision`: everything that control can decide, told by the
  partners of the brackets in the text;
* `Machine.decision_control`: an aligned machine decides nothing else;
* `Machine.aligned_after`: a machine stays aligned over all its steps, so the
  loops entered are a function of the text and the program counter;
* `Machine.loops_eq_openBefore`: the same for a run from the start, together
  with the jumps back that it makes.

The text need not be balanced, and the steps may fail or come after the end.
-/
import Mathlib.Tactic
import TapeDebugger.Proofs.Machine.Runs

namespace TapeDebugger

namespace Machine

variable {m : Machine}

/-! ### Alignment -/

/-- The loops entered are the brackets open before the program counter. -/
def Aligned (m : Machine) : Prop :=
  m.loops = m.program.openBefore m.pc

lemma aligned_load (code input : String) : (load code input).Aligned := rfl

/-- The innermost loop entered is the partner of the `]` that the machine
stands at. -/
lemma Aligned.partner_iff_head? (h : m.Aligned) {i : Nat}
    (hclose : m.program.charAt? m.pc = some ']') :
    m.program.Partner i m.pc ↔ m.loops.head? = some i := by
  rw [Program.Partner, h]
  exact and_iff_right hclose

/-! ### What control decides -/

/-- The decisions of a machine about its control, one for each way in which
the current character, the current cell and the partner of the character can
come together. -/
inductive Decision (m : Machine) : Except Fault Control → Prop
  /-- There is no bracket, and nothing to decide. -/
  | plain (h : m.program.charAt? m.pc ≠ some '[' ∧
      m.program.charAt? m.pc ≠ some ']') : Decision m (.ok ⟨m.pc, m.loops⟩)
  /-- A loop is entered. -/
  | enter (hopen : m.program.charAt? m.pc = some '[') (hcell : m.cell ≠ 0) :
      Decision m (.ok ⟨m.pc, m.pc :: m.loops⟩)
  /-- A loop is skipped. -/
  | skip {close : Nat} (hcell : m.cell = 0)
      (hpartner : m.program.Partner m.pc close) :
      Decision m (.ok ⟨close, m.loops⟩)
  /-- A loop is left. -/
  | leave (hclose : m.program.charAt? m.pc = some ']') (hcell : m.cell = 0) :
      Decision m (.ok ⟨m.pc, m.loops.tail⟩)
  /-- A loop is entered once more. -/
  | again {opened : Nat} (hcell : m.cell ≠ 0)
      (hpartner : m.program.Partner opened m.pc) :
      Decision m (.ok ⟨opened, m.loops⟩)
  /-- A loop without an end cannot be skipped. -/
  | unmatchedOpen (hopen : m.program.charAt? m.pc = some '[')
      (hcell : m.cell = 0) (hnone : ∀ j, ¬ m.program.Partner m.pc j) :
      Decision m (.error ⟨m.pc, .unmatchedOpen⟩)
  /-- A loop without a beginning cannot be entered once more. -/
  | unmatchedClose (hclose : m.program.charAt? m.pc = some ']')
      (hcell : m.cell ≠ 0) (hnone : ∀ i, ¬ m.program.Partner i m.pc) :
      Decision m (.error ⟨m.pc, .unmatchedClose⟩)

/-- The control of an aligned machine is decided by the partners in the text:
the runtime stack and the forward scan agree about them. -/
lemma decision_control (h : m.Aligned) : Decision m m.control := by
  rcases Program.bracket_cases (m.program.charAt? m.pc)
    with hopen | hclose | hother
  · have hcur : m.current? = some .loopOpen :=
      Program.instructionAt?_eq_some_iff.mpr hopen
    by_cases hcell : m.cell = 0
    · cases hscan : m.program.closing? m.pc with
      | some close =>
          have hpartner := (Program.closing?_eq_some_iff hopen).mp hscan
          simpa only [control, hcur, hcell, hscan, if_true]
            using Decision.skip hcell hpartner
      | none =>
          have hnone : ∀ j, ¬ m.program.Partner m.pc j := by
            intro j hj
            rw [(Program.closing?_eq_some_iff hopen).mpr hj] at hscan
            exact absurd hscan (by simp)
          simpa only [control, hcur, hcell, hscan, if_true]
            using Decision.unmatchedOpen hopen hcell hnone
    · simpa only [control, hcur, hcell, if_false]
        using Decision.enter hopen hcell
  · have hcur : m.current? = some .loopClose :=
      Program.instructionAt?_eq_some_iff.mpr hclose
    by_cases hcell : m.cell = 0
    · simpa only [control, hcur, hcell, if_true]
        using Decision.leave hclose hcell
    · cases hloops : m.loops with
      | cons opened outer =>
          have hpartner : m.program.Partner opened m.pc :=
            (h.partner_iff_head? hclose).mpr (by rw [hloops]; rfl)
          simpa only [control, hcur, hcell, hloops, if_false]
            using Decision.again hcell hpartner
      | nil =>
          have hnone : ∀ i, ¬ m.program.Partner i m.pc := by
            intro i hi
            rw [h.partner_iff_head? hclose, hloops] at hi
            exact absurd hi (by simp)
          simpa only [control, hcur, hcell, hloops, if_false]
            using Decision.unmatchedClose hclose hcell hnone
  · have hplain : ∀ i, m.current? = some i → i.isLoop = false :=
      fun _ => Program.isLoop_of_not_bracket hother
    rw [control_of_not_loop hplain]
    exact Decision.plain hother

/-! ### Steps and runs keep the alignment -/

/-- Where control stands, the loops entered are those open right behind. -/
lemma Aligned.loops_of_control (h : m.Aligned) {c : Control}
    (hc : m.control = .ok c) :
    c.loops = m.program.openBefore (c.pc + 1) := by
  have hdec := decision_control h
  rw [hc] at hdec
  cases hdec with
  | plain hother =>
      rw [Program.openBefore_succ_of_not_bracket hother]
      exact h
  | enter hopen hcell =>
      rw [Program.openBefore_succ_of_open hopen, ← h]
  | skip hcell hpartner =>
      rw [hpartner.openBefore_succ]
      exact h
  | leave hclose hcell =>
      rw [Program.openBefore_succ_of_close hclose, ← h]
  | again hcell hpartner =>
      -- the jump does not pop, and the `[` jumped to is open again behind it
      rw [Program.openBefore_succ_of_open hpartner.open_lt.1,
        ← (Program.partner_iff.mp hpartner).2]
      exact h

/-- Control stays where it is, or it jumps to a bracket. -/
lemma Aligned.pc_of_control (h : m.Aligned) {c : Control}
    (hc : m.control = .ok c) :
    c.pc = m.pc ∨ m.program.charAt? c.pc = some '[' ∨
      m.program.charAt? c.pc = some ']' := by
  have hdec := decision_control h
  rw [hc] at hdec
  cases hdec with
  | plain _ => exact Or.inl rfl
  | enter _ _ => exact Or.inl rfl
  | skip _ hpartner => exact Or.inr (Or.inr hpartner.1)
  | leave _ _ => exact Or.inl rfl
  | again _ hpartner => exact Or.inr (Or.inl hpartner.open_lt.1)

/-- One step keeps a machine aligned, also if it fails. -/
lemma Aligned.step (h : m.Aligned) : m.step.2.Aligned := by
  obtain ⟨c, hc, hstep⟩ | ⟨f, -, hstep⟩ := m.step_cases
  · rw [hstep]
    exact (h.loops_of_control hc).trans
      (Program.openBefore_nextInstruction c.pc).symm
  · rw [hstep]
    exact h

/-- A machine stays aligned over any number of steps. -/
lemma Aligned.after (h : m.Aligned) (n : Nat) : (after n m).Aligned :=
  after_preserves h (fun _ h => h.step) n

lemma aligned_after (code input : String) (n : Nat) :
    (Machine.after n (load code input)).Aligned :=
  (aligned_load code input).after n

/-- **The loop stack is the reading of the text**: after any number of steps
from the start, on a balanced text or not, the loops entered are the brackets
open before the program counter. A `]` that jumps back jumps to the position
of the innermost of them, which is the only one from which the forward scan
ends at that `]`. -/
theorem loops_eq_openBefore (code input : String) (n : Nat)
    {p : Program} (hcode : Program.ofString code = p)
    {m : Machine} (hm : after n (load code input) = m) :
    m.loops = p.openBefore m.pc ∧
      (p.charAt? m.pc = some ']' → m.cell ≠ 0 → m.step.1 = none →
        ∃ opened, m.loops.head? = some opened ∧
          m.step.2.pc = p.nextInstruction opened ∧
          m.step.2.loops = m.loops ∧
          ∀ i, p.closing? i = some m.pc ↔ i = opened) := by
  have halign : m.Aligned := hm ▸ aligned_after code input n
  have hp : m.program = p := by
    rw [← hm, after_program, ← hcode]
    rfl
  refine ⟨hp ▸ halign, fun hclose hcell hok => ?_⟩
  rw [← hp] at hclose
  have hdec := decision_control halign
  obtain ⟨c, hc, hstep⟩ | ⟨f, -, hstep⟩ := m.step_cases
  · rw [hc] at hdec
    cases hdec with
    | plain hother => exact absurd hclose hother.2
    | enter hopen _ => exact absurd (hopen.symm.trans hclose) (by decide)
    | skip hzero _ => exact absurd hzero hcell
    | leave _ hzero => exact absurd hzero hcell
    | @again opened _ hpartner =>
        refine ⟨opened, (halign.partner_iff_head? hclose).mp hpartner,
          ?_, ?_, fun i => ?_⟩
        · rw [hstep, ← hp]
          rfl
        · rw [hstep]
          rfl
        · rw [← hp, Program.closing?_eq_some_iff_of_close hclose]
          exact ⟨fun hi => hi.left_unique hpartner, fun hi => hi ▸ hpartner⟩
  · rw [hstep] at hok
    exact absurd hok (by simp)

/-- At the first `]` of `++[-]x` the machine jumps back to the `[`. -/
theorem loops_eq_openBefore_jump :
    let p := Program.ofString "++[-]x"
    let m := after 4 (load "++[-]x" "")
    (p.charAt? m.pc = some ']' ∧ m.cell ≠ 0 ∧ m.step.1 = none) ∧
      ∃ opened, m.loops.head? = some opened ∧
        m.step.2.pc = p.nextInstruction opened ∧
        m.step.2.loops = m.loops ∧
        ∀ i, p.closing? i = some m.pc ↔ i = opened :=
  ⟨by decide, (loops_eq_openBefore "++[-]x" "" 4 rfl rfl).2
    (by decide) (by decide) (by decide)⟩

end Machine

end TapeDebugger
