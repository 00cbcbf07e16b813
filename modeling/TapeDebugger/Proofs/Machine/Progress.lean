/-
Only jumps back can make a run long.

* `Machine.JumpsBack`: the machine is about to repeat a loop;
* `Machine.Aligned.pc_lt_step`: every other step that succeeds moves the
  program counter on;
* `Machine.Onward`: a number of steps that succeed and do not jump back;
* `Machine.Onward.halted`: there are no more of them than characters ahead
  before the machine is halted;
* `Program.Straight`: a text without brackets;
* `Machine.rank_after_of_straight`: on such a text each step executes the next
  instruction;
* `Machine.only_jumps_back_prolong`: what follows for runs from the start.

A loop that is skipped ends further on, and behind the text the program
counter stays at its end. On a text without brackets the exact number of steps
is counted by the instructions before the program counter.
-/
import Mathlib.Tactic
import TapeDebugger.Proofs.Machine.Comments
import TapeDebugger.Proofs.Machine.Rest

namespace TapeDebugger

open Instruction (recognised)

namespace Program

variable {p : Program}

/-- The next instruction is behind the present one, or the text ends. -/
lemma min_le_nextInstruction (p : Program) (pos : Nat) :
    min p.size (pos + 1) ≤ p.nextInstruction pos := by
  have hseek := p.le_seek (pos + 1) (p.size - (pos + 1))
  rw [nextInstruction]
  omega

/-- No brackets are in the text. -/
def Straight (p : Program) : Prop :=
  ∀ pos, p.charAt? pos ≠ some '[' ∧ p.charAt? pos ≠ some ']'

lemma straight_ofString {code : String} (hopen : '[' ∉ code.toList)
    (hclose : ']' ∉ code.toList) : (ofString code).Straight := by
  have hchars : (ofString code).chars = code.toList.toArray := rfl
  intro pos
  constructor
  · intro h
    have hmem := Array.mem_of_getElem? h
    rw [hchars, List.mem_toArray] at hmem
    exact hopen hmem
  · intro h
    have hmem := Array.mem_of_getElem? h
    rw [hchars, List.mem_toArray] at hmem
    exact hclose hmem

end Program

namespace Machine

variable {m : Machine} {k : Nat}

/-! ### Steps that do not jump back -/

/-- The machine is at a `]` and will repeat its loop: the cell is not zero. -/
def JumpsBack (m : Machine) : Prop :=
  m.program.charAt? m.pc = some ']' ∧ m.cell ≠ 0

instance (m : Machine) : Decidable m.JumpsBack :=
  inferInstanceAs (Decidable (_ ∧ _))

/-- Control goes back in no other way. -/
lemma Aligned.le_pc_of_control (h : m.Aligned) (hback : ¬ m.JumpsBack)
    {c : Control} (hc : m.control = .ok c) : m.pc ≤ c.pc := by
  have hdec := decision_control h
  rw [hc] at hdec
  cases hdec with
  | plain _ => exact le_rfl
  | enter _ _ => exact le_rfl
  | skip _ hpartner => exact hpartner.open_lt.2.le
  | leave _ _ => exact le_rfl
  | again hcell hpartner => exact absurd ⟨hpartner.1, hcell⟩ hback

/-- A step that succeeds and does not jump back moves the program counter on,
as long as it is in the text. -/
lemma Aligned.min_le_step_pc (h : m.Aligned) (hok : m.step.1 = none)
    (hback : ¬ m.JumpsBack) : min m.program.size (m.pc + 1) ≤ m.step.2.pc := by
  obtain ⟨c, hc, hstep⟩ | ⟨f, -, hstep⟩ := m.step_cases
  · have hle := h.le_pc_of_control hback hc
    have hnext := m.program.min_le_nextInstruction c.pc
    rw [hstep]
    show min m.program.size (m.pc + 1) ≤ m.program.nextInstruction c.pc
    omega
  · rw [hstep] at hok
    exact absurd hok (by simp)

/-- **Only a jump back goes back.** -/
lemma Aligned.pc_lt_step (h : m.Aligned) (hlt : m.pc < m.program.size)
    (hok : m.step.1 = none) (hback : ¬ m.JumpsBack) :
    m.pc < m.step.2.pc := by
  have hle := h.min_le_step_pc hok hback
  omega

/-! ### Runs without a jump back -/

/-- The first `k` steps succeed, and none of them jumps back. -/
def Onward (m : Machine) (k : Nat) : Prop :=
  ∀ j < k, (after j m).step.1 = none ∧ ¬ (after j m).JumpsBack

lemma Onward.mono (h : m.Onward k) {l : Nat} (hl : l ≤ k) : m.Onward l :=
  fun j hj => h j (Nat.lt_of_lt_of_le hj hl)

/-- After so many steps the program counter is at least as far on. -/
lemma Onward.min_le_pc (h : m.Onward k) (halign : m.Aligned) :
    min m.program.size (m.pc + k) ≤ (after k m).pc := by
  induction k with
  | zero => exact min_le_right _ _
  | succ k ih =>
      obtain ⟨hok, hback⟩ := h k (Nat.lt_succ_self k)
      have hbefore := ih (h.mono (Nat.le_succ k))
      have hstep := (halign.after k).min_le_step_pc hok hback
      rw [after_program] at hstep
      rw [after_succ]
      omega

/-- **As many steps as there are characters ahead halt the machine**, if they
succeed and none of them jumps back. -/
lemma Onward.halted (h : m.Onward k) (halign : m.Aligned)
    (hlt : m.pc < m.program.size) (hk : m.program.size - m.pc ≤ k) :
    (after (m.program.size - m.pc) m).halted = true := by
  have hle := (h.mono hk).min_le_pc halign
  obtain ⟨l, hl⟩ : ∃ l, m.program.size - m.pc = l + 1 :=
    ⟨m.program.size - m.pc - 1, by omega⟩
  rw [hl, after_succ] at hle ⊢
  have hend : m.program.size ≤ (after l m).step.2.pc := by omega
  rw [step_halted, after_program, decide_eq_true hend, Bool.or_true]

/-! ### Texts without brackets -/

/-- Without brackets no step fails. -/
lemma step_of_straight (h : m.program.Straight) :
    m.step = (none, m.advance ⟨m.pc, m.loops⟩) :=
  step_of_control_ok
    (control_of_not_loop fun _ => Program.isLoop_of_not_bracket (h m.pc))

/-- From a position without a comment a step passes one instruction, if there
is one. -/
lemma rank_step_of_straight (h : m.program.Straight)
    (hsettled : m.program.Settled m.pc) :
    m.program.rank recognised m.step.2.pc =
      min (m.program.rank recognised m.pc + 1)
        (m.program.rank recognised m.program.size) := by
  have hpc : m.step.2.pc = m.program.nextInstruction m.pc := by
    rw [step_of_straight h]
    rfl
  rw [hpc]
  obtain hlt | hend := Nat.lt_or_ge m.pc m.program.size
  · obtain ⟨c, hc, hrec⟩ := Program.exists_recognised (hsettled hlt)
    have hless := Program.rank_lt_rank hc hrec hlt
    rw [Program.rank_nextInstruction_eq (fun _ h => h),
      Program.rank_succ_of_keep hc hrec]
    omega
  · have hall : m.program.rank recognised m.pc
        = m.program.rank recognised m.program.size := by
      rw [Program.rank_of_size_le hend, Program.size_select]
    rw [Program.nextInstruction_of_size_le hend, hall]
    omega

/-- From before the first instruction the steps pass one instruction each, up
to the end of the text. -/
lemma rank_after_of_straight (h : m.program.Straight)
    (hsettled : m.program.Settled m.pc)
    (hfirst : m.program.rank recognised m.pc = 0) (k : Nat) :
    m.program.rank recognised (after k m).pc =
        min k (m.program.rank recognised m.program.size) ∧
      m.program.Settled (after k m).pc := by
  induction k with
  | zero => exact ⟨hfirst.trans (Nat.zero_min _).symm, hsettled⟩
  | succ k ih =>
      obtain ⟨hrank, hthere⟩ := ih
      have hprogram := after_program k m
      have hstep := rank_step_of_straight (m := after k m)
        (by rwa [hprogram]) (by rwa [hprogram])
      have hsettled' := settled_step (after k m)
      rw [step_program, hprogram] at hsettled'
      rw [hprogram, hrank] at hstep
      rw [after_succ, hstep]
      exact ⟨by omega, hsettled'⟩

variable {code : String}

/-- The steps before the first instruction: one, if the text is empty or
begins with a comment. -/
def leadingSteps (code : String) : Nat :=
  if code = "" ∨ beginsWithComment code = true then 1 else 0

/-- After these steps the machine is before the first instruction. -/
lemma rank_after_leadingSteps (code input : String) :
    let m := after (leadingSteps code) (load code input)
    m.program.Settled m.pc ∧ m.program.rank recognised m.pc = 0 := by
  intro m
  have hprogram : m.program = Program.ofString code := after_program _ _
  rw [hprogram]
  have hlead := Program.instructionAt?_zero_eq_none_iff code
  by_cases hfirst : (Program.ofString code).instructionAt? 0 = none
  · have hm : m = (load code input).step.2 := by
      simp only [m, leadingSteps, if_pos (hlead.mp hfirst)]
      rfl
    have hpc : m.pc = (Program.ofString code).nextInstruction 0 := by
      rw [hm, step_load_of_comment input hfirst]
    rw [hpc]
    exact ⟨Program.settled_nextInstruction _ 0,
      Program.rank_nextInstruction_zero hfirst⟩
  · have hm : m = load code input := by
      simp only [m, leadingSteps, if_neg (mt hlead.mpr hfirst)]
      rfl
    rw [hm]
    exact ⟨fun _ => Option.isSome_iff_ne_none.mpr hfirst, rfl⟩

/-- On a text without brackets no step ever fails. -/
lemma step_after_of_straight (h : (Program.ofString code).Straight)
    (input : String) (n : Nat) : (after n (load code input)).step.1 = none := by
  have hprogram : (after n (load code input)).program = Program.ofString code :=
    after_program _ _
  rw [step_of_straight (hprogram ▸ h)]

/-- Behind the leading steps the machine is halted once there were as many
steps as there are instructions. -/
lemma halted_after_leadingSteps_iff (h : (Program.ofString code).Straight)
    (input : String) {k : Nat} (hk : 0 < leadingSteps code + k) :
    (after (leadingSteps code + k) (load code input)).halted = true ↔
      code.toList.countP recognised ≤ k := by
  set m := after (leadingSteps code) (load code input)
  have hprogram : m.program = Program.ofString code := after_program _ _
  obtain ⟨hsettled, hfirst⟩ := rank_after_leadingSteps code input
  obtain ⟨hrank, hthere⟩ :=
    rank_after_of_straight (hprogram ▸ h) hsettled hfirst k
  have htotal : (Program.ofString code).rank recognised
      (Program.ofString code).size = code.toList.countP recognised := by
    simp [Program.rank, Program.ofString, Program.size]
  rw [hprogram, htotal] at hrank
  rw [hprogram] at hthere
  have hend := hthere.size_select_le_iff
  rw [Program.size_select, htotal, hrank] at hend
  have hok : ¬ ∃ j < leadingSteps code + k,
      (after j (load code input)).step.1.isSome = true := by
    rintro ⟨j, -, hj⟩
    rw [step_after_of_straight h input j] at hj
    exact absurd hj (by simp)
  rw [(haltedAtRest_load code input).halted_after_iff hk, or_iff_left hok,
    after_add]
  show (Program.ofString code).size ≤ (after k m).pc ↔ _
  rw [← hend]
  omega

lemma leadingSteps_le_one (code : String) : leadingSteps code ≤ 1 := by
  rw [leadingSteps]
  split_ifs <;> decide

/-- A text that begins with an instruction has one. -/
lemma leadingSteps_add_pos (code : String) :
    0 < leadingSteps code + code.toList.countP recognised := by
  by_cases hfirst : (Program.ofString code).instructionAt? 0 = none
  · rw [leadingSteps,
      if_pos ((Program.instructionAt?_zero_eq_none_iff code).mp hfirst)]
    omega
  · obtain ⟨c, hc, hrec⟩ :=
      Program.exists_recognised (Option.isSome_iff_ne_none.mpr hfirst)
    have hmem : c ∈ code.toList :=
      List.mem_toArray.mp (Array.mem_of_getElem? hc)
    have hcount := List.countP_pos_iff.mpr ⟨c, hmem, hrec⟩
    omega

/-- **A text without brackets takes one step for each instruction**, and one
more if it does not begin with an instruction. -/
lemma haltsAfter_of_straight (h : (Program.ofString code).Straight)
    (input : String) :
    (load code input).HaltsAfter
      (leadingSteps code + code.toList.countP recognised) := by
  constructor
  · intro j hj
    rcases Nat.eq_zero_or_pos j with rfl | hpos
    · rfl
    · have hlead := leadingSteps_le_one code
      obtain ⟨k, rfl⟩ := Nat.exists_eq_add_of_le (Nat.le_trans hlead hpos)
      rw [← Bool.not_eq_true, halted_after_leadingSteps_iff h input hpos]
      omega
  · exact (halted_after_leadingSteps_iff h input
      (leadingSteps_add_pos code)).mpr le_rfl

/-! ### Runs from the start -/

/-- **Only jumps back can make a run long.** On every text and input, and after
any number of steps: while the program counter is in the text, each step that
succeeds and is not a jump back moves it on. So if that many steps succeed, and
none of them jumps back, as there are characters from the program counter on,
they have halted the machine. On a text without brackets no step ever fails,
and the machine is halted after one step for each instruction, and one more if
the text is empty or begins with a comment, but not before. -/
theorem only_jumps_back_prolong (code input : String) :
    let p : Program := .ofString code
    let m : Nat → Machine := fun n => after n (load code input)
    (∀ n, (m n).pc < p.size →
      ((m n).step.1 = none → ¬ (m n).JumpsBack → (m n).pc < (m (n + 1)).pc) ∧
        ∀ k, (∀ j < k, (m (n + j)).step.1 = none ∧ ¬ (m (n + j)).JumpsBack) →
          p.size - (m n).pc ≤ k →
            (m (n + (p.size - (m n).pc))).halted = true) ∧
      ('[' ∉ code.toList → ']' ∉ code.toList →
        (m 0).HaltsAfter (code.toList.countP recognised
            + if code = "" ∨ beginsWithComment code = true then 1 else 0) ∧
          ∀ n, (m n).step.1 = none) := by
  intro p m
  refine ⟨fun n hlt => ⟨fun hok hback => ?_, fun k hk hlong => ?_⟩,
    fun hopen hclose => ?_⟩
  · have hprogram : (m n).program = p := after_program _ _
    rw [← hprogram] at hlt
    simp only [m, after_succ]
    exact (aligned_after code input n).pc_lt_step hlt hok hback
  · have hprogram : (m n).program = p := after_program _ _
    have honward : (m n).Onward k := fun j hj => by
      have hj' := hk j hj
      simp only [m, after_add] at hj'
      exact hj'
    simp only [m, after_add]
    rw [← hprogram] at hlt hlong ⊢
    exact honward.halted (aligned_after code input n) hlt hlong
  · have hstraight := Program.straight_ofString hopen hclose
    rw [Nat.add_comm]
    exact ⟨haltsAfter_of_straight hstraight input,
      step_after_of_straight hstraight input⟩

/-- The fourth step leaves the loop of `+[-]>c>`, with three characters ahead,
and three more steps halt the machine. The text ` +c,` takes a step for its
first character and one for each of its two instructions. -/
theorem only_jumps_back_prolong_applied :
    let m := fun n => after n (load "+[-]>c>" "")
    (((m 4).pc < 7 ∧ (m 4).step.1 = none ∧ ¬ (m 4).JumpsBack) ∧
        (m 4).pc < (m 5).pc) ∧
      (m 7).halted = true ∧
      (('[' ∉ " +c,".toList ∧ ']' ∉ " +c,".toList) ∧
        (load " +c," "x").HaltsAfter 3) := by
  intro m
  obtain ⟨hrun, -⟩ := only_jumps_back_prolong "+[-]>c>" ""
  obtain ⟨hstep, hhalted⟩ := hrun 4 (by decide)
  have hok : (m 4).step.1 = none ∧ ¬ (m 4).JumpsBack := by decide
  have honward : ∀ j < 3,
      (m (4 + j)).step.1 = none ∧ ¬ (m (4 + j)).JumpsBack := by decide
  obtain ⟨-, hstraight⟩ := only_jumps_back_prolong " +c," "x"
  have hclear : '[' ∉ " +c,".toList ∧ ']' ∉ " +c,".toList := by decide
  obtain ⟨hends, -⟩ := hstraight hclear.1 hclear.2
  exact ⟨⟨⟨by decide, hok⟩, hstep hok.1 hok.2⟩,
    hhalted 3 honward (by decide), hclear, hends⟩

end Machine

end TapeDebugger
