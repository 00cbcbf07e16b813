/-
Comments do not change what a machine does.

* `withoutComments`: a text without its comments;
* `Program.Settled`: no comment stands at a position;
* `Machine.Renumbers`: one machine is in a selection of the text where
  another is in the whole text;
* `Machine.Renumbers.step`: if they stand at the same instruction, the two
  make the same step to corresponding positions;
* `Machine.settled_step`: a step never ends at a comment;
* `Machine.Mirrors` and `Machine.Mirrors.step`: so if only comments are left
  out, the two stay together over one step;
* `Machine.comments_are_transparent`: and they do over a run from the start.

A machine rests on a comment only before its first step. This step does
nothing but go to the first instruction, and the two machines are together
from there on.
-/
import Mathlib.Tactic
import TapeDebugger.Proofs.Program.Selection
import TapeDebugger.Proofs.Machine.LoopStack
import TapeDebugger.Proofs.Machine.Stops

namespace TapeDebugger

/-! ### Texts without comments -/

/-- Whether a character stands for an instruction. -/
def Instruction.recognised (c : Char) : Bool :=
  (Instruction.ofChar? c).isSome

open Instruction (recognised)

/-- A text without its comments. -/
def withoutComments (code : String) : String :=
  String.ofList (code.toList.filter recognised)

/-- Whether the first character of a text is a comment. -/
def beginsWithComment (code : String) : Bool :=
  code.toList.head?.any fun c => !recognised c

namespace Program

variable {p : Program} {pos : Nat} {keep : Char → Bool}

/-- No comment stands at the position: it holds an instruction, or it lies
behind the text. -/
def Settled (p : Program) (pos : Nat) : Prop :=
  pos < p.size → (p.instructionAt? pos).isSome = true

lemma settled_of_charAt? {i : Instruction}
    (h : p.charAt? pos = some i.toChar) : p.Settled pos := by
  intro _
  rw [instructionAt?_eq_some_iff.mpr h]
  rfl

/-- Where an instruction stands, its character is recognised. -/
lemma exists_recognised (h : (p.instructionAt? pos).isSome = true) :
    ∃ c, p.charAt? pos = some c ∧ recognised c = true := by
  obtain ⟨i, hi⟩ := Option.isSome_iff_exists.mp h
  refine ⟨i.toChar, instructionAt?_eq_some_iff.mp hi, ?_⟩
  rw [recognised, Instruction.ofChar?_toChar]
  rfl

/-- Comments are not counted, if only instructions are. -/
lemma rank_succ_of_comment (hkeep : ∀ c, keep c = true → recognised c = true)
    (h : p.instructionAt? pos = none) :
    p.rank keep (pos + 1) = p.rank keep pos := by
  refine rank_succ_of_not_keep fun c hc => ?_
  rw [instructionAt?, hc, Option.bind_some] at h
  have hcomment : recognised c = false := by rw [recognised, h]; rfl
  exact Bool.eq_false_iff.mpr fun hc =>
    absurd (hkeep c hc) (Bool.eq_false_iff.mp hcomment)

/-- The same instruction stands at the position and at its number. -/
lemma Settled.instructionAt?_select (h : p.Settled pos) :
    (p.select recognised).instructionAt? (p.rank recognised pos)
      = p.instructionAt? pos := by
  by_cases hpos : pos < p.size
  · obtain ⟨c, hc, hrec⟩ := exists_recognised (h hpos)
    rw [instructionAt?, instructionAt?, charAt?_select hc hrec, hc]
  · have hend : p.size ≤ pos := Nat.le_of_not_lt hpos
    rw [instructionAt?_eq_none_of_size_le hend, rank_of_size_le hend,
      instructionAt?_eq_none_of_size_le le_rfl]

/-- A settled position lies behind the text exactly if its number does. -/
lemma Settled.size_select_le_iff (h : p.Settled pos) :
    (p.select recognised).size ≤ p.rank recognised pos ↔ p.size ≤ pos := by
  constructor
  · intro hbare
    by_contra hpos
    have hlt : pos < p.size := Nat.lt_of_not_le hpos
    obtain ⟨c, hc, hrec⟩ := exists_recognised (h hlt)
    have hrank := rank_lt_rank hc hrec hlt
    rw [size_select] at hbare
    omega
  · exact fun hend => (rank_of_size_le hend).ge

/-! ### The next instruction -/

lemma settled_seek {left : Nat} (h : pos + left = p.size) :
    p.Settled (p.seek pos left) := by
  induction left generalizing pos with
  | zero =>
      intro hlt
      rw [seek] at hlt
      omega
  | succ left ih =>
      rw [seek]
      split
      · next hsome => exact fun _ => hsome
      · exact ih (by omega)

/-- Execution never goes on at a comment. -/
lemma settled_nextInstruction (p : Program) (pos : Nat) :
    p.Settled (p.nextInstruction pos) := by
  by_cases hpos : pos + 1 ≤ p.size
  · have hle := p.seek_le (pos + 1) (p.size - (pos + 1))
    rw [nextInstruction, min_eq_left (by omega)]
    exact settled_seek (by omega)
  · rw [nextInstruction_of_size_le (by omega)]
    exact fun hlt => absurd hlt (lt_irrefl _)

/-- Without comments the next instruction is the next character. -/
lemma nextInstruction_select (hkeep : ∀ c, keep c = true → recognised c = true)
    (hlt : pos < (p.select keep).size) :
    (p.select keep).nextInstruction pos = pos + 1 := by
  by_cases hend : pos + 1 = (p.select keep).size
  · rw [nextInstruction, hend, Nat.sub_self, seek, min_self]
  · obtain ⟨c, hc⟩ : ∃ c, (p.select keep).charAt? (pos + 1) = some c := by
      rw [← Option.ne_none_iff_exists', Ne, charAt?_eq_none_iff]
      omega
    have hsome :
        ((p.select keep).instructionAt? (pos + 1)).isSome = true := by
      rw [instructionAt?, hc]
      exact hkeep c (keep_of_charAt?_select hc)
    have hleft : (p.select keep).size - (pos + 1)
        = (p.select keep).size - (pos + 2) + 1 := by omega
    rw [nextInstruction, hleft, seek, if_pos hsome, min_eq_left (by omega)]

/-- No instruction is passed over on the way to the next one. -/
lemma rank_nextInstruction_eq (hkeep : ∀ c, keep c = true → recognised c = true)
    (pos : Nat) :
    p.rank keep (p.nextInstruction pos) = p.rank keep (pos + 1) :=
  apply_nextInstruction (p.rank keep)
    (fun _ hnone => rank_succ_of_comment hkeep hnone) pos

/-- No instruction stands before the first one. -/
lemma rank_nextInstruction_zero (h : p.instructionAt? 0 = none) :
    p.rank recognised (p.nextInstruction 0) = 0 := by
  rw [rank_nextInstruction_eq (fun _ h => h),
    rank_succ_of_comment (fun _ h => h) h]
  rfl

/-- Going on to the next instruction commutes with the renumbering, at a
position whose character is kept. -/
lemma rank_nextInstruction (hkeep : ∀ c, keep c = true → recognised c = true)
    {c : Char} (hc : p.charAt? pos = some c) (hkept : keep c = true) :
    p.rank keep (p.nextInstruction pos)
      = (p.select keep).nextInstruction (p.rank keep pos) := by
  have hlt := lt_size_of_charAt? (charAt?_select hc hkept)
  calc p.rank keep (p.nextInstruction pos)
      = p.rank keep (pos + 1) := rank_nextInstruction_eq hkeep pos
    _ = p.rank keep pos + 1 := rank_succ_of_keep hc hkept
    _ = (p.select keep).nextInstruction (p.rank keep pos) :=
        (nextInstruction_select hkeep hlt).symm

/-- The same at every position without a comment, also behind the text. -/
lemma Settled.rank_nextInstruction (h : p.Settled pos) :
    p.rank recognised (p.nextInstruction pos)
      = (p.select recognised).nextInstruction (p.rank recognised pos) := by
  by_cases hpos : pos < p.size
  · obtain ⟨c, hc, hrec⟩ := exists_recognised (h hpos)
    exact Program.rank_nextInstruction (fun _ h => h) hc hrec
  · have hend : p.size ≤ pos := Nat.le_of_not_lt hpos
    rw [nextInstruction_of_size_le hend, rank_of_size_le hend,
      nextInstruction_of_size_le le_rfl, rank_of_size_le le_rfl]

/-- No instruction stands at the beginning of a text that is empty or begins
with a comment, and of no other. -/
lemma instructionAt?_zero_eq_none_iff (code : String) :
    (ofString code).instructionAt? 0 = none ↔
      code = "" ∨ beginsWithComment code = true := by
  rw [← String.toList_eq_nil_iff, beginsWithComment, instructionAt?, charAt?,
    ofString]
  cases code.toList with
  | nil => simp
  | cons c rest => simp [recognised]

end Program

/-! ### Renumbering -/

/-- The fault at the new number of its position. -/
def Fault.renumber (ρ : Nat → Nat) (f : Fault) : Fault :=
  { f with pc := ρ f.pc }

/-- The state of control at the new numbers of its positions. -/
def Machine.Control.renumber (ρ : Nat → Nat) (c : Machine.Control) :
    Machine.Control :=
  ⟨ρ c.pc, c.loops.map ρ⟩

namespace Machine

variable {m b : Machine} {keep : Char → Bool}

/-! ### Two machines side by side -/

/-- The machine `b` is in the selected text where `m` is in the whole text:
it has the same data, and its positions are the ranks of those of `m`. -/
structure Renumbers (keep : Char → Bool) (b m : Machine) : Prop where
  program_eq : b.program = m.program.select keep
  store_eq : b.store = m.store
  pc_eq : b.pc = m.program.rank keep m.pc
  loops_eq : b.loops = m.loops.map (m.program.rank keep)

lemma Renumbers.cell_eq (h : b.Renumbers keep m) : b.cell = m.cell := by
  rw [cell, h.store_eq]
  rfl

/-- **The two machines decide alike**, at the renumbered positions, if they
stand at the same instruction and no bracket is left out. -/
lemma Renumbers.control (hopen : keep '[' = true) (hclose : keep ']' = true)
    (h : b.Renumbers keep m) (hcur : b.current? = m.current?) :
    b.control =
      match m.control with
      | .ok c => .ok (c.renumber (m.program.rank keep))
      | .error f => .error (f.renumber (m.program.rank keep)) := by
  rw [Machine.control, Machine.control, hcur, h.cell_eq]
  split
  · next hopens =>
      -- a loop is entered, or the scan for its end finds the same bracket
      have hbracket : m.program.charAt? m.pc = some '[' :=
        Program.instructionAt?_eq_some_iff.mp hopens
      have hscan : (m.program.select keep).closing?
          (m.program.rank keep m.pc)
            = (m.program.closing? m.pc).map (m.program.rank keep) :=
        Program.closing?_select hopen hclose hbracket
      rw [← h.program_eq, ← h.pc_eq] at hscan
      split_ifs
      · rw [hscan]
        cases m.program.closing? m.pc with
        | some close =>
            simp only [Option.map_some, Control.renumber, h.loops_eq]
        | none => simp only [Option.map_none, Fault.renumber, h.pc_eq]
      · simp only [Control.renumber, h.pc_eq, h.loops_eq, List.map_cons]
  · -- a loop is left, or the innermost one is entered once more
    split_ifs
    · simp only [Control.renumber, h.pc_eq, h.loops_eq, List.map_tail]
    · rw [h.loops_eq]
      cases m.loops with
      | cons opened outer => rfl
      | nil => simp only [List.map_nil, Fault.renumber, h.pc_eq]
  · simp only [Control.renumber, h.pc_eq, h.loops_eq]

/-- From corresponding states of control the two machines advance to
corresponding ones, if the next instruction is the same. -/
lemma Renumbers.advance (h : b.Renumbers keep m)
    (hcur : b.current? = m.current?) {c : Control}
    (hnext : b.program.nextInstruction (m.program.rank keep c.pc)
      = m.program.rank keep (m.program.nextInstruction c.pc)) :
    (b.advance (c.renumber (m.program.rank keep))).Renumbers keep
      (m.advance c) where
  program_eq := h.program_eq
  store_eq := by
    simp only [Machine.advance]
    rw [h.store_eq, hcur]
  pc_eq := hnext
  loops_eq := rfl

/-- **The two machines make the same step**, if they stand at the same
instruction and from where control goes find the same one next. It fails in
both or in none, with the same kind of fault. -/
lemma Renumbers.step (hopen : keep '[' = true) (hclose : keep ']' = true)
    (h : b.Renumbers keep m) (hcur : b.current? = m.current?)
    (hnext : ∀ c, m.control = .ok c →
      b.program.nextInstruction (m.program.rank keep c.pc)
        = m.program.rank keep (m.program.nextInstruction c.pc)) :
    b.step.1 = m.step.1.map (Fault.renumber (m.program.rank keep)) ∧
      b.step.2.Renumbers keep m.step.2 := by
  have hcontrol := h.control hopen hclose hcur
  obtain ⟨c, hc, hstep⟩ | ⟨f, hf, hstep⟩ := m.step_cases
  · rw [hc] at hcontrol
    rw [step_of_control_ok hcontrol, hstep]
    exact ⟨rfl, h.advance hcur (hnext c hc)⟩
  · rw [hf] at hcontrol
    rw [step_of_control_error hcontrol, hstep]
    exact ⟨rfl, h.program_eq, h.store_eq, h.pc_eq, h.loops_eq⟩

/-! ### Steps over comments -/

/-- A step never ends at a comment: it ends at an instruction or behind the
text, and where it fails it stays at its bracket. -/
lemma settled_step (m : Machine) :
    m.step.2.program.Settled m.step.2.pc := by
  rw [step_program]
  obtain ⟨c, -, hstep⟩ | ⟨⟨pc, kind⟩, hf, hstep⟩ := m.step_cases
  · rw [hstep]
    exact m.program.settled_nextInstruction c.pc
  · rw [hstep]
    have hbracket := (standsAt_of_control hf).2
    cases kind with
    | unmatchedOpen => exact Program.settled_of_charAt? (i := .loopOpen) hbracket
    | unmatchedClose =>
        exact Program.settled_of_charAt? (i := .loopClose) hbracket

/-- The machine `b` is in the text without comments where `m` is in the whole
text, and `m` does not rest on a comment. -/
structure Mirrors (b m : Machine) : Prop where
  program_eq : b.program = m.program.select recognised
  store_eq : b.store = m.store
  pc_eq : b.pc = m.program.rank recognised m.pc
  loops_eq : b.loops = m.loops.map (m.program.rank recognised)
  halted_eq : b.halted = m.halted
  aligned : m.Aligned
  settled : m.program.Settled m.pc

lemma Mirrors.current?_eq (h : b.Mirrors m) : b.current? = m.current? := by
  rw [current?, h.program_eq, h.pc_eq, h.settled.instructionAt?_select]
  rfl

lemma Mirrors.renumbers (h : b.Mirrors m) : b.Renumbers recognised m :=
  ⟨h.program_eq, h.store_eq, h.pc_eq, h.loops_eq⟩

/-- Control never stands at a comment when it advances. -/
lemma settled_of_control (halign : m.Aligned)
    (hsettled : m.program.Settled m.pc) {c : Control}
    (hc : m.control = .ok c) : m.program.Settled c.pc := by
  rcases halign.pc_of_control hc with hstay | hopen | hclose
  · rw [hstay]
    exact hsettled
  · exact Program.settled_of_charAt? (i := .loopOpen) hopen
  · exact Program.settled_of_charAt? (i := .loopClose) hclose

/-- **One step keeps the two machines together**: it fails in both or in
none, with the same kind of fault. -/
lemma Mirrors.step (h : b.Mirrors m) :
    b.step.1 = m.step.1.map (Fault.renumber (m.program.rank recognised)) ∧
      b.step.2.Mirrors m.step.2 := by
  have hnext : ∀ c, m.control = .ok c →
      b.program.nextInstruction (m.program.rank recognised c.pc)
        = m.program.rank recognised (m.program.nextInstruction c.pc) := by
    intro c hc
    rw [h.program_eq]
    exact (settled_of_control h.aligned h.settled hc).rank_nextInstruction.symm
  obtain ⟨hfault, hprogram, hstore, hpc, hloops⟩ :=
    h.renumbers.step rfl rfl h.current?_eq hnext
  have hthere := settled_step m
  have hend : b.program.size ≤ b.step.2.pc ↔
      m.program.size ≤ m.step.2.pc := by
    rw [hpc, h.program_eq]
    rw [step_program] at hthere ⊢
    exact hthere.size_select_le_iff
  refine ⟨hfault, hprogram, hstore, hpc, hloops, ?_, h.aligned.step, hthere⟩
  rw [step_halted, step_halted, h.halted_eq, hfault, Option.isSome_map,
    decide_eq_decide.mpr hend]

lemma Mirrors.after (h : b.Mirrors m) (n : Nat) :
    (after n b).Mirrors (after n m) := by
  induction n generalizing b m with
  | zero => exact h
  | succ n ih => exact ih h.step.2

/-! ### From the start -/

/-- A text that does not begin with a comment has its first instruction at
its beginning. -/
lemma mirrors_load {code : String} (input : String)
    (h : (Program.ofString code).Settled 0) :
    (load (withoutComments code) input).Mirrors (load code input) where
  program_eq := Program.ofString_select recognised code
  store_eq := rfl
  pc_eq := rfl
  loops_eq := rfl
  halted_eq := rfl
  aligned := aligned_load code input
  settled := h

/-- The first step on a comment goes to the first instruction and does
nothing else. -/
lemma step_load_of_comment {code : String} (input : String)
    (hcomment : (Program.ofString code).instructionAt? 0 = none) :
    (load code input).step =
      (none, { load code input with
        pc := (Program.ofString code).nextInstruction 0
        halted := decide ((Program.ofString code).size
          ≤ (Program.ofString code).nextInstruction 0) }) :=
  step_of_silent (m := load code input) (Or.inl hcomment)

/-- The first instruction of a text that has one lies within it, and none
stands before it. -/
lemma mirrors_step_load_of_comment {code : String} (input : String)
    (hcode : ∃ c ∈ code.toList, recognised c = true)
    (hcomment : (Program.ofString code).instructionAt? 0 = none) :
    (load (withoutComments code) input).Mirrors
      (load code input).step.2 := by
  have hnumber : (Program.ofString code).rank recognised
      ((Program.ofString code).nextInstruction 0) = 0 :=
    Program.rank_nextInstruction_zero hcomment
  have hthere := (Program.ofString code).settled_nextInstruction 0
  have hwithin : ¬ (Program.ofString code).size
      ≤ (Program.ofString code).nextInstruction 0 := by
    rw [← hthere.size_select_le_iff, hnumber, Nat.le_zero, ← Ne,
      ← Nat.pos_iff_ne_zero, Program.size_select, Program.rank,
      List.countP_pos_iff]
    simpa [Program.ofString, Program.size] using hcode
  have haligned := (aligned_load code input).step
  rw [step_load_of_comment input hcomment] at haligned ⊢
  exact {
    program_eq := Program.ofString_select recognised code
    store_eq := rfl
    pc_eq := hnumber.symm
    loops_eq := rfl
    halted_eq := (decide_eq_false hwithin).symm
    aligned := haligned
    settled := hthere }

/-- The first character of a text that has instructions is a comment exactly
if no instruction stands there. -/
lemma beginsWithComment_eq {code : String}
    (hcode : ∃ c ∈ code.toList, recognised c = true) :
    beginsWithComment code
      = ((Program.ofString code).instructionAt? 0).isNone := by
  obtain ⟨c, hc, -⟩ := hcode
  have hne : code ≠ "" := by
    rintro rfl
    exact absurd hc (by simp)
  rw [Bool.eq_iff_iff, Option.isNone_iff_eq_none,
    Program.instructionAt?_zero_eq_none_iff, or_iff_right hne]

/-- **Comments are transparent.** If a text has an instruction at all, the
machine of the whole text and the machine of the text without comments make
the same steps, once the first has left a comment at the beginning behind.
After each of them they have the same data and the same halted flag, and
their positions correspond: where the one is at a position, the other is at
the number of instructions before it. A step fails in both or in none, with
the same kind of fault. -/
theorem comments_are_transparent {code : String} (input : String)
    (hcode : ∃ c ∈ code.toList, recognised c = true) (n : Nat) :
    let ρ := (Program.ofString code).rank recognised
    let lead := if beginsWithComment code then 1 else 0
    let m := after (n + lead) (load code input)
    let b := after n (load (withoutComments code) input)
    (b.store = m.store ∧ b.halted = m.halted ∧
        b.pc = ρ m.pc ∧ b.loops = m.loops.map ρ) ∧
      b.step.1 = m.step.1.map (Fault.renumber ρ) ∧
      (beginsWithComment code = true → (load code input).step.1 = none) := by
  intro ρ lead m b
  have hlead : (load (withoutComments code) input).Mirrors
        (after lead (load code input)) ∧
      (beginsWithComment code = true →
        (load code input).step.1 = none) := by
    simp only [lead, beginsWithComment_eq hcode]
    cases hfirst : (Program.ofString code).instructionAt? 0 with
    | none =>
        refine ⟨mirrors_step_load_of_comment input hcode hfirst, fun _ => ?_⟩
        rw [step_load_of_comment input hfirst]
    | some i =>
        refine ⟨mirrors_load input fun _ => ?_, fun h => absurd h (by simp)⟩
        rw [hfirst]
        rfl
  have hmirrors : b.Mirrors m := by
    have h := hlead.1.after n
    rwa [← after_add, Nat.add_comm] at h
  have hprogram : m.program = Program.ofString code := after_program _ _
  have hρ : m.program.rank recognised = ρ := by rw [hprogram]
  refine ⟨⟨hmirrors.store_eq, hmirrors.halted_eq, ?_, ?_⟩, ?_, hlead.2⟩
  · rw [hmirrors.pc_eq, hρ]
  · rw [hmirrors.loops_eq, hρ]
  · rw [hmirrors.step.1, hρ]

/-- After its loop the last bracket of `a+[b-c]d+e]` fails at position ten,
and that of `+[-]+]` at five, one step earlier. -/
theorem comments_are_transparent_fault :
    let code := "a+[b-c]d+e]"
    ((∃ c ∈ code.toList, recognised c = true) ∧
        beginsWithComment code = true) ∧
      (after 6 (load code "")).step.1 = some ⟨10, .unmatchedClose⟩ ∧
      (after 5 (load (withoutComments code) "")).step.1
        = some ⟨5, .unmatchedClose⟩ := by
  intro code
  have hcode : ∃ c ∈ code.toList, recognised c = true :=
    ⟨'+', by decide, rfl⟩
  have hfault : (after 6 (load code "")).step.1
      = some ⟨10, .unmatchedClose⟩ := by decide
  obtain ⟨-, hstep, -⟩ := comments_are_transparent "" hcode 5
  have hlead : 5 + (if beginsWithComment code then 1 else 0) = 6 := by decide
  rw [hlead, hfault] at hstep
  exact ⟨⟨hcode, by decide⟩, hfault, hstep.trans (by decide)⟩

end Machine

end TapeDebugger
