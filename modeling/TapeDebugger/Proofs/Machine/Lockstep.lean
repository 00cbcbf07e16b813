/-
Machines that read alike run alike.

* `Console.byteAt`: the byte at a place of an input, zero behind its end;
* `Console.Feeds`: a relation between inputs that reading preserves;
* `Store.printed`: what an instruction adds to the output;
* `Machine.InStep`: two machines that differ at most in their outputs, their
  halted flags and, within such a relation, in their inputs;
* `Machine.InStep.step` and `Machine.InStep.after`: they make the same steps
  and stay together;
* `Machine.InStep.outputs_grow`: they print the same;
* `Machine.only_bytes_matter`: of an input a program sees the bytes, followed
  by zeros without end.

A read at the end of the input leaves the input as it is, so one of two
inputs may be used up long before the other.
-/
import Mathlib.Tactic
import TapeDebugger.Proofs.Machine.Runs

namespace TapeDebugger

/-! ### Inputs -/

namespace Console

/-- The byte at a place of an input: that of the character there, and zero
behind the end. -/
def byteAt (input : List Char) (i : Nat) : UInt8 :=
  (input[i]?.map byteOf).getD 0

lemma byteAt_tail (input : List Char) (i : Nat) :
    byteAt input.tail i = byteAt input (i + 1) := by
  simp [byteAt]

/-- A read takes the first byte and leaves the rest. -/
lemma read_eq (c : Console) :
    c.read = (byteAt c.pending 0, { c with pending := c.pending.tail }) := by
  obtain ⟨pending, written⟩ := c
  cases pending with
  | nil => rfl
  | cons next rest => rfl

/-- A relation between inputs that reading preserves: the same byte comes
next, and what is left is related again. -/
def Feeds (R : List Char → List Char → Prop) : Prop :=
  ∀ u v, R u v → byteAt u 0 = byteAt v 0 ∧ R u.tail v.tail

/-- The two inputs have the same bytes, zeros behind their ends included. -/
def SameBytes (u v : List Char) : Prop :=
  ∀ i, byteAt u i = byteAt v i

lemma feeds_eq : Feeds (· = ·) := by
  rintro u v rfl
  exact ⟨rfl, rfl⟩

lemma feeds_sameBytes : Feeds SameBytes := by
  intro u v h
  refine ⟨h 0, fun i => ?_⟩
  rw [byteAt_tail, byteAt_tail]
  exact h (i + 1)

/-- NUL characters at the end of an input add nothing to it. -/
lemma sameBytes_append_nul (u : List Char) (k : Nat) :
    SameBytes u (u ++ List.replicate k '\x00') := by
  intro i
  rw [byteAt, byteAt, List.getElem?_append]
  split_ifs with hi
  · rfl
  · rw [List.getElem?_eq_none (by omega), List.getElem?_replicate]
    split_ifs <;> rfl

end Console

/-! ### Stores -/

namespace Store

variable {R : List Char → List Char → Prop} {s t : Store}

/-- What an instruction adds to the output. -/
def printed (s : Store) : Option Instruction → String
  | some .output => String.singleton (Console.charOf s.cell)
  | _ => ""

lemma written_execute (s : Store) (i? : Option Instruction) :
    (s.execute i?).console.written = s.console.written ++ s.printed i? := by
  cases i? with
  | none => simp [execute, printed]
  | some i => cases i <;> simp [execute, apply, printed, Console.write, Console.read_eq]

lemma execute_of_isLoop (s : Store) {i : Instruction}
    (h : i.isLoop = true) : s.execute (some i) = s := by
  cases i with
  | loopOpen => rfl
  | loopClose => rfl
  | _ => exact absurd h (by simp [Instruction.isLoop])

/-- The two stores agree but for the output, and their inputs are related. -/
structure InStep (R : List Char → List Char → Prop) (s t : Store) :
    Prop where
  tape_eq : s.tape = t.tape
  pointer_eq : s.pointer = t.pointer
  pending : R s.console.pending t.console.pending

lemma InStep.cell_eq (h : s.InStep R t) : s.cell = t.cell := by
  rw [cell, cell, h.tape_eq, h.pointer_eq]

lemma InStep.printed_eq (h : s.InStep R t) (i? : Option Instruction) :
    s.printed i? = t.printed i? := by
  unfold printed
  rw [h.cell_eq]

/-- An instruction has the same effect on both stores: the byte that it reads
is the same. -/
lemma InStep.execute (hR : Console.Feeds R) (h : s.InStep R t)
    (i? : Option Instruction) : (s.execute i?).InStep R (t.execute i?) := by
  obtain ⟨htape, hpointer, hpending⟩ := h
  cases i? with
  | none => exact ⟨htape, hpointer, hpending⟩
  | some i =>
      cases i with
      | moveRight => exact ⟨htape, congrArg Address.right hpointer, hpending⟩
      | moveLeft => exact ⟨htape, congrArg Address.left hpointer, hpending⟩
      | increment =>
          exact ⟨congrArg₂ Tape.increment htape hpointer, hpointer, hpending⟩
      | decrement =>
          exact ⟨congrArg₂ Tape.decrement htape hpointer, hpointer, hpending⟩
      | input =>
          obtain ⟨hbyte, hrest⟩ := hR _ _ hpending
          simp only [Store.execute, apply, Console.read_eq]
          exact ⟨by rw [htape, hpointer, hbyte], hpointer, hrest⟩
      | _ => exact ⟨htape, hpointer, hpending⟩

end Store

/-! ### Machines -/

namespace Machine

variable {R : List Char → List Char → Prop} {m m' : Machine}

/-- The two machines agree but for their outputs and halted flags, and their
inputs are related. -/
structure InStep (R : List Char → List Char → Prop) (m m' : Machine) :
    Prop where
  program_eq : m.program = m'.program
  store : m.store.InStep R m'.store
  pc_eq : m.pc = m'.pc
  loops_eq : m.loops = m'.loops

lemma InStep.current?_eq (h : m.InStep R m') : m.current? = m'.current? := by
  rw [current?, current?, h.program_eq, h.pc_eq]

/-- Control looks at nothing in which the two machines differ. -/
lemma InStep.control_eq (h : m.InStep R m') : m.control = m'.control := by
  have hcell : m.cell = m'.cell := h.store.cell_eq
  simp only [control, h.current?_eq, hcell, h.program_eq, h.pc_eq, h.loops_eq]

/-- **Two machines in step make the same step**: it fails in both or in none,
and they are in step after it. -/
lemma InStep.step (hR : Console.Feeds R) (h : m.InStep R m') :
    m.step.1 = m'.step.1 ∧ m.step.2.InStep R m'.step.2 := by
  have hcontrol := h.control_eq
  obtain ⟨c, hc, hstep⟩ | ⟨f, hf, hstep⟩ := m.step_cases
  · rw [hstep, step_of_control_ok (hcontrol.symm.trans hc)]
    refine ⟨rfl, h.program_eq, ?_, ?_, rfl⟩
    · simp only [advance, h.current?_eq]
      exact h.store.execute hR m'.current?
    · simp only [advance, h.program_eq]
  · rw [hstep, step_of_control_error (hcontrol.symm.trans hf)]
    exact ⟨rfl, h.program_eq, h.store, h.pc_eq, h.loops_eq⟩

lemma InStep.after (hR : Console.Feeds R) (h : m.InStep R m') (n : Nat) :
    (after n m).InStep R (after n m') := by
  induction n with
  | zero => exact h
  | succ n ih =>
      rw [after_succ, after_succ]
      exact (ih.step hR).2

/-! ### Outputs and flags -/

/-- A step has the effect of its instruction on the data, also if it fails:
brackets have none. -/
lemma store_step (m : Machine) :
    m.step.2.store = m.store.execute m.current? := by
  obtain ⟨c, -, hstep⟩ | ⟨f, hf, hstep⟩ := m.step_cases
  · rw [hstep]
    rfl
  · have hbracket : ∃ i, m.current? = some i ∧ i.isLoop = true := by
      by_contra hnone
      simp only [not_exists, not_and, Bool.not_eq_true] at hnone
      rw [control_of_not_loop hnone] at hf
      exact absurd hf (by simp)
    obtain ⟨i, hi, hloop⟩ := hbracket
    rw [hstep, hi, Store.execute_of_isLoop _ hloop]
    rfl

/-- A step adds to the output what its instruction prints. -/
lemma output_step (m : Machine) :
    m.step.2.output = m.output ++ m.store.printed m.current? := by
  rw [output, store_step]
  exact m.store.written_execute m.current?

/-- Two machines in step print the same. -/
lemma InStep.outputs_grow (hR : Console.Feeds R) (h : m.InStep R m')
    (n : Nat) :
    ∃ w, (Machine.after n m).output = m.output ++ w ∧
      (Machine.after n m').output = m'.output ++ w := by
  induction n with
  | zero => exact ⟨"", by simp⟩
  | succ n ih =>
      obtain ⟨w, hw, hw'⟩ := ih
      have hn := h.after hR n
      refine ⟨w ++ (Machine.after n m).store.printed
        (Machine.after n m).current?, ?_, ?_⟩
      · rw [after_succ, output_step, hw, String.append_assoc]
      · rw [after_succ, output_step, hw', String.append_assoc,
          hn.current?_eq, hn.store.printed_eq]

/-- Two machines in step are halted together, if they were so before. -/
lemma InStep.halted_eq (hR : Console.Feeds R) (h : m.InStep R m')
    (hhalted : m.halted = m'.halted) (n : Nat) :
    (Machine.after n m).halted = (Machine.after n m').halted := by
  induction n with
  | zero => exact hhalted
  | succ n ih =>
      have hn := h.after hR n
      obtain ⟨hfault, hnext⟩ := hn.step hR
      rw [after_succ, after_succ, step_halted, step_halted, ih, hfault,
        hn.program_eq, hnext.pc_eq]

/-! ### Only bytes matter -/

/-- The two machines have the same data but for the input that is left, the
same state of control and the same halted flag. -/
structure LooksLike (m m' : Machine) : Prop where
  tape_eq : m.store.tape = m'.store.tape
  pointer_eq : m.store.pointer = m'.store.pointer
  pc_eq : m.pc = m'.pc
  loops_eq : m.loops = m'.loops
  output_eq : m.output = m'.output
  halted_eq : m.halted = m'.halted

lemma inStep_load (code : String) {u v : String}
    (h : R u.toList v.toList) : (load code u).InStep R (load code v) :=
  ⟨rfl, ⟨rfl, rfl, h⟩, rfl, rfl⟩

/-- Two runs of a program on inputs with the same bytes look alike. -/
lemma looksLike_of_sameBytes (code : String) {u v : String}
    (h : Console.SameBytes u.toList v.toList) (n : Nat) :
    (after n (load code u)).LooksLike (after n (load code v)) ∧
      (after n (load code u)).step.1 = (after n (load code v)).step.1 := by
  have hstart := inStep_load code h
  have hn := hstart.after Console.feeds_sameBytes n
  obtain ⟨w, hu, hv⟩ := hstart.outputs_grow Console.feeds_sameBytes n
  refine ⟨?_, (hn.step Console.feeds_sameBytes).1⟩
  exact {
    tape_eq := hn.store.tape_eq
    pointer_eq := hn.store.pointer_eq
    pc_eq := hn.pc_eq
    loops_eq := hn.loops_eq
    output_eq := hu.trans hv.symm
    halted_eq := hstart.halted_eq Console.feeds_sameBytes rfl n }

/-- **Of its input a program sees the bytes, followed by zeros.** Two inputs
with the same bytes at all places, where those behind the end count as zero,
give runs that look alike after every number of steps, and each step has the
same result. In particular the end of an input cannot be told from NUL
characters. -/
theorem only_bytes_matter (code u : String) (n : Nat) :
    (∀ v : String,
      (∀ i, Console.byteAt u.toList i = Console.byteAt v.toList i) →
        (after n (load code u)).LooksLike (after n (load code v)) ∧
          (after n (load code u)).step.1 = (after n (load code v)).step.1) ∧
      ∀ k, let v := u ++ String.ofList (List.replicate k '\x00')
        (after n (load code u)).LooksLike (after n (load code v)) ∧
          (after n (load code u)).step.1
            = (after n (load code v)).step.1 := by
  refine ⟨fun v h => looksLike_of_sameBytes code h n, fun k => ?_⟩
  refine looksLike_of_sameBytes code ?_ n
  rw [String.toList_append, String.toList_ofList]
  exact Console.sameBytes_append_nul u.toList k

/-- The letters `A` and `Ł` differ above their lowest byte, and a NUL behind
the second is left to read when the first input is used up. -/
theorem only_bytes_matter_padded :
    let m := after 4 (load ",>,." "A")
    let m' := after 4 (load ",>,." "Ł\x00")
    ((∀ i, Console.byteAt "A".toList i = Console.byteAt "Ł\x00".toList i) ∧
      (after 1 (load ",>,." "A")).remainingInput
        ≠ (after 1 (load ",>,." "Ł\x00")).remainingInput) ∧
      m.LooksLike m' := by
  intro m m'
  have hbytes : ∀ i,
      Console.byteAt "A".toList i = Console.byteAt "Ł\x00".toList i := by
    intro i
    match i with
    | 0 => rfl
    | 1 => rfl
    | i + 2 => rfl
  obtain ⟨hlike, -⟩ := (only_bytes_matter ",>,." "A" 4).1 "Ł\x00" hbytes
  exact ⟨⟨hbytes, by decide⟩, hlike⟩

end Machine

end TapeDebugger
