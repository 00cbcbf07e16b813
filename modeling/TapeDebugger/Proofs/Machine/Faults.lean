/-
Which steps fail, and which programs have none that do.

* `Machine.JumpsNowhere`: the jump about to be taken is at a bracket that has
  no partner anywhere in the text;
* `Machine.Aligned.step_fault_iff`: these are the steps that fail;
* `Machine.step_after_fault`: after a failed step all steps fail alike;
* `Machine.fault_iff_unmatched_jump`: the same along every run, and what the
  bracket check says about it beforehand.

A bracket without a partner is harmless as long as no jump is taken there, so
an unbalanced text may well run to its end.
-/
import Mathlib.Tactic
import TapeDebugger.Proofs.Program.Balance
import TapeDebugger.Proofs.Machine.LoopStack
import TapeDebugger.Proofs.Machine.Rest

namespace TapeDebugger

namespace Machine

variable {m : Machine}

/-- The machine is about to jump from a bracket that has no partner: over the
loop from a `[` on a zero cell, or back from a `]` on any other. -/
def JumpsNowhere (m : Machine) : FaultKind → Prop
  | .unmatchedOpen =>
      m.program.charAt? m.pc = some '[' ∧ m.cell = 0 ∧
        ∀ j, ¬ m.program.Partner m.pc j
  | .unmatchedClose =>
      m.program.charAt? m.pc = some ']' ∧ m.cell ≠ 0 ∧
        ∀ i, ¬ m.program.Partner i m.pc

/-- The steps of an aligned machine that fail are those which jump nowhere,
and the fault names the bracket. -/
lemma Aligned.step_fault_iff (h : m.Aligned) {f : Fault} :
    m.step.1 = some f ↔ f.pc = m.pc ∧ m.JumpsNowhere f.kind := by
  have hdec := decision_control h
  rw [step_fault_iff_control]
  constructor
  · intro hf
    rw [hf] at hdec
    cases hdec with
    | unmatchedOpen hopen hcell hnone => exact ⟨rfl, hopen, hcell, hnone⟩
    | unmatchedClose hclose hcell hnone => exact ⟨rfl, hclose, hcell, hnone⟩
  · obtain ⟨pc, kind⟩ := f
    rintro ⟨rfl, hjump⟩
    generalize m.control = decided at hdec
    cases kind with
    | unmatchedOpen =>
        obtain ⟨hopen, hzero, hnone⟩ := hjump
        cases hdec with
        | plain hother => exact absurd hopen hother.1
        | enter _ hcell => exact absurd hzero hcell
        | skip _ hpartner => exact absurd hpartner (hnone _)
        | leave hclose _ => exact absurd (hopen.symm.trans hclose) (by decide)
        | again hcell _ => exact absurd hzero hcell
        | unmatchedOpen => rfl
        | unmatchedClose _ hcell _ => exact absurd hzero hcell
    | unmatchedClose =>
        obtain ⟨hclose, hnonzero, hnone⟩ := hjump
        cases hdec with
        | plain hother => exact absurd hclose hother.2
        | enter hopen _ => exact absurd (hopen.symm.trans hclose) (by decide)
        | skip hcell _ => exact absurd hcell hnonzero
        | leave _ hcell => exact absurd hcell hnonzero
        | again _ hpartner => exact absurd hpartner (hnone _)
        | unmatchedOpen _ hcell _ => exact absurd hcell hnonzero
        | unmatchedClose => rfl

/-- A halted machine that failed fails again and stays as it is. -/
lemma step_after_fault {f : Fault} (h : m.step.1 = some f) (k : Nat) :
    (after k m.step.2).step.1 = some f := by
  have hrest : m.Rests (some f) := step_fault_iff_control.mp h
  rw [step_of_fault h, (hrest.halt.after k).1.step_eq]

/-- Where every bracket has its partner, no step fails. -/
lemma Aligned.step_of_matched (h : m.Aligned) (hp : m.program.Matched) :
    m.step.1 = none := by
  rw [Option.eq_none_iff_forall_ne_some]
  rintro ⟨pc, kind⟩ hf
  obtain ⟨-, hjump⟩ := h.step_fault_iff.mp hf
  cases kind with
  | unmatchedOpen =>
      obtain ⟨j, hj⟩ := hp.partner_of_open _ hjump.1
      exact hjump.2.2 j hj
  | unmatchedClose =>
      obtain ⟨i, hi⟩ := hp.partner_of_close _ hjump.1
      exact hjump.2.2 i hi

/-- No run of a program that passes the bracket check has a failing step. -/
lemma step_of_balanced {code : String} (h : imbalance? code = none)
    (input : String) (n : Nat) :
    (after n (load code input)).step.1 = none := by
  refine (aligned_after code input n).step_of_matched ?_
  rw [after_program]
  exact Program.matched_of_balanced h

lemma faultOf_of_balanced {code : String} (h : imbalance? code = none)
    (input : String) (n k : Nat) :
    (after n (load code input)).faultOf k = none := by
  cases k with
  | zero => rfl
  | succ k =>
      rw [faultOf, ← after_add]
      exact step_of_balanced h input (n + k)

/-- **Faults are the jumps taken at unmatched brackets**: along every run a
step fails exactly if it jumps from a bracket without a partner in the text,
and its fault tells where. A failed step only sets the halted flag, and all
further ones fail in the same way. A text that passes the bracket check has
no run with a failing step, and where a run fails at a `]`, the check reports
that one or an earlier one. -/
theorem fault_iff_unmatched_jump (code input : String) (n : Nat)
    {m : Machine} (hm : after n (load code input) = m) :
    (∀ f, m.step.1 = some f ↔ f.pc = m.pc ∧ m.JumpsNowhere f.kind) ∧
      (∀ f, m.step.1 = some f →
        m.step.2 = { m with halted := true } ∧
          ∀ k, (after k m.step.2).step.1 = some f) ∧
      (imbalance? code = none → m.step.1 = none) ∧
      ∀ i, m.step.1 = some ⟨i, .unmatchedClose⟩ →
        ∃ j ≤ i, imbalance? code = some ⟨j, .unexpectedClose⟩ := by
  have halign : m.Aligned := hm ▸ aligned_after code input n
  have hcode : m.program = Program.ofString code := hm ▸ after_program n _
  refine ⟨fun f => halign.step_fault_iff, fun f hf => ?_, fun hbal => ?_,
    fun i hi => ?_⟩
  · exact ⟨step_of_fault hf, step_after_fault hf⟩
  · refine halign.step_of_matched ?_
    rw [hcode]
    exact Program.matched_of_balanced hbal
  · obtain ⟨hpc, hclose, -, hnone⟩ := halign.step_fault_iff.mp hi
    rw [hcode] at hclose hnone
    have hstray : (Program.ofString code).Stray m.pc := by
      by_contra hnot
      obtain ⟨opened, hopened⟩ := (Program.not_stray_iff_partner hclose).mp hnot
      exact hnone opened hopened
    obtain ⟨j, hj, hreport⟩ := Program.imbalance?_of_stray hstray
    exact ⟨j, hj.trans hpc.ge, hreport⟩

/-- The second bracket of `]+]` fails after the first was passed on a zero
cell, and the check reports the first; no step of `+[-]` fails. -/
theorem fault_iff_unmatched_jump_applied :
    ((after 2 (load "]+]" "")).step.1 = some ⟨2, .unmatchedClose⟩ ∧
      ∃ j ≤ 2, imbalance? "]+]" = some ⟨j, .unexpectedClose⟩) ∧
      imbalance? "+[-]" = none ∧ (after 3 (load "+[-]" "")).step.1 = none :=
  ⟨⟨by decide, (fault_iff_unmatched_jump "]+]" "" 2 rfl).2.2.2 2 (by decide)⟩,
    by decide, (fault_iff_unmatched_jump "+[-]" "" 3 rfl).2.2.1 (by decide)⟩

end Machine

end TapeDebugger
