/-
The meaning of structured programs, in numbers.

* `Data`: cells, pointer, the input not yet read and the output, without any
  representation: cells are numbers, the pointer is a number;
* `Data.perform`: what an operation does to the data;
* `Block.Runs`: the big-step meaning of a block, defined by the usual rules;
  a block that does not terminate has no meaning;
* `Block.RunsIn`: the same with the number of rules used, apart from the one
  for an empty block;
* `Store.data`: the data that a store represents;
* `Store.data_apply`: an instruction does to the store what its operation
  does to the data.
-/
import Mathlib.Tactic
import TapeDebugger.Store
import TapeDebugger.Proofs.Structured.Block

namespace TapeDebugger

/-! ### Data -/

/-- The data that a structured program works on. -/
structure Data where
  /-- The value of each cell. -/
  cells : Nat → Nat
  /-- The number of the current cell. -/
  pointer : Nat
  /-- The characters not yet read. -/
  input : List Char
  /-- The characters written so far. -/
  output : List Char

namespace Data

/-- The data at the start: all cells are zero and the pointer is at the first
one. -/
def ofInput (input : String) : Data :=
  ⟨fun _ => 0, 0, input.toList, []⟩

/-- The value of the current cell. -/
def current (d : Data) : Nat :=
  d.cells d.pointer

/-- Sets the current cell. -/
def put (d : Data) (value : Nat) : Data :=
  { d with cells := Function.update d.cells d.pointer value }

/-- The effect of an operation. The pointer stays within 0 and 29999, cells
count modulo 256, and at the end of the input a zero is read. -/
def perform (d : Data) : Operation → Data
  | .moveRight => { d with pointer := min (d.pointer + 1) 29999 }
  | .moveLeft => { d with pointer := d.pointer - 1 }
  | .increment => d.put ((d.current + 1) % 256)
  | .decrement => d.put ((d.current + 255) % 256)
  | .output => { d with output := d.output ++ [Char.ofNat d.current] }
  | .input =>
      match d.input with
      | [] => d.put 0
      | c :: rest => { d.put (c.toNat % 256) with input := rest }

end Data

/-! ### Big steps -/

namespace Block

/-- The block takes the data from one state to another: operations take
effect in order, and a loop repeats its body while the current cell is not
zero. -/
inductive Runs : Block → Data → Data → Prop
  | done (d : Data) : Runs .done d d
  | operation {op : Operation} {rest : Block} {d d' : Data}
      (hrest : Runs rest (d.perform op) d') : Runs (.operation op rest) d d'
  | skip {body rest : Block} {d d' : Data} (hzero : d.current = 0)
      (hrest : Runs rest d d') : Runs (.loop body rest) d d'
  | again {body rest : Block} {d d₁ d' : Data} (hcell : d.current ≠ 0)
      (hbody : Runs body d d₁) (hloop : Runs (.loop body rest) d₁ d') :
      Runs (.loop body rest) d d'

/-- The same, with the number of operations and of tests at a loop. -/
inductive RunsIn : Nat → Block → Data → Data → Prop
  | done (d : Data) : RunsIn 0 .done d d
  | operation {n : Nat} {op : Operation} {rest : Block} {d d' : Data}
      (hrest : RunsIn n rest (d.perform op) d') :
      RunsIn (n + 1) (.operation op rest) d d'
  | skip {n : Nat} {body rest : Block} {d d' : Data} (hzero : d.current = 0)
      (hrest : RunsIn n rest d d') : RunsIn (n + 1) (.loop body rest) d d'
  | again {n k : Nat} {body rest : Block} {d d₁ d' : Data}
      (hcell : d.current ≠ 0) (hbody : RunsIn n body d d₁)
      (hloop : RunsIn k (.loop body rest) d₁ d') :
      RunsIn (n + k + 1) (.loop body rest) d d'

/-- The number only counts; it is there whenever the block runs. -/
lemma runs_iff_exists_runsIn {b : Block} {d d' : Data} :
    b.Runs d d' ↔ ∃ n, b.RunsIn n d d' := by
  constructor
  · intro h
    induction h with
    | done d => exact ⟨0, .done d⟩
    | operation _ ih =>
        obtain ⟨n, hn⟩ := ih
        exact ⟨n + 1, .operation hn⟩
    | skip hzero _ ih =>
        obtain ⟨n, hn⟩ := ih
        exact ⟨n + 1, .skip hzero hn⟩
    | again hcell _ _ ihbody ihloop =>
        obtain ⟨n, hn⟩ := ihbody
        obtain ⟨k, hk⟩ := ihloop
        exact ⟨n + k + 1, .again hcell hn hk⟩
  · rintro ⟨n, h⟩
    induction h with
    | done d => exact .done d
    | operation _ ih => exact .operation ih
    | skip hzero _ ih => exact .skip hzero ih
    | again hcell _ _ ihbody ihloop => exact .again hcell ihbody ihloop

variable {n : Nat} {body rest : Block} {d d' : Data}

lemma runsIn_done_iff : done.RunsIn n d d' ↔ n = 0 ∧ d = d' := by
  constructor
  · rintro ⟨⟩
    exact ⟨rfl, rfl⟩
  · rintro ⟨rfl, rfl⟩
    exact .done d

lemma runsIn_operation_iff {op : Operation} :
    (operation op rest).RunsIn n d d' ↔
      ∃ k, n = k + 1 ∧ rest.RunsIn k (d.perform op) d' := by
  constructor
  · intro h
    cases h with
    | operation hrest => exact ⟨_, rfl, hrest⟩
  · rintro ⟨k, rfl, hrest⟩
    exact .operation hrest

/-- On a zero cell a loop does what follows it. -/
lemma runsIn_loop_of_zero_iff (hzero : d.current = 0) :
    (loop body rest).RunsIn n d d' ↔ ∃ k, n = k + 1 ∧ rest.RunsIn k d d' := by
  constructor
  · intro h
    cases h with
    | skip _ hrest => exact ⟨_, rfl, hrest⟩
    | again hcell _ _ => exact absurd hzero hcell
  · rintro ⟨k, rfl, hrest⟩
    exact .skip hzero hrest

/-- On any other cell a loop does its body and then the same again. -/
lemma runsIn_loop_of_ne_zero_iff (hcell : d.current ≠ 0) :
    (loop body rest).RunsIn n d d' ↔
      ∃ n₁ n₂ d₁, n = n₁ + n₂ + 1 ∧ body.RunsIn n₁ d d₁ ∧
        (loop body rest).RunsIn n₂ d₁ d' := by
  constructor
  · intro h
    cases h with
    | skip hzero _ => exact absurd hzero hcell
    | again _ hbody hloop => exact ⟨_, _, _, rfl, hbody, hloop⟩
  · rintro ⟨n₁, n₂, d₁, rfl, hbody, hloop⟩
    exact .again hcell hbody hloop

end Block

/-! ### The data of a store -/

/-- On the tape, the address to the right is one higher, up to the last. -/
lemma Tape.rightOf_eq_min {n : Nat} (h : n < Tape.size) :
    Tape.rightOf n = min (n + 1) 29999 := by
  rw [Tape.size] at h
  rw [Tape.rightOf, Tape.lastAddress, Tape.size]
  split <;> omega

namespace Store

/-- The data that a store represents. Beyond the tape there are only
zeros. -/
def data (s : Store) : Data where
  cells := fun a => if h : a < Tape.size then (s.tape.read ⟨a, h⟩).toNat else 0
  pointer := s.pointer
  input := s.console.pending
  output := s.console.written.toList

lemma data_ofInput (input : String) :
    (ofInput input).data = Data.ofInput input := by
  simp [data, ofInput, Data.ofInput, Console.ofInput, Address.first]

lemma data_current (s : Store) : s.data.current = s.cell.toNat := by
  simp [Data.current, data, cell]

/-- The current cell of the data is zero if that of the store is. -/
lemma data_current_eq_zero_iff {s : Store} :
    s.data.current = 0 ↔ s.cell = 0 := by
  rw [data_current, ← UInt8.toNat_inj]
  rfl

/-- Writing the current cell of the tape sets it in the data. -/
lemma data_write (s : Store) (value : UInt8) :
    { s with tape := s.tape.write s.pointer value }.data
      = s.data.put value.toNat := by
  have hcells : { s with tape := s.tape.write s.pointer value }.data.cells
      = Function.update s.data.cells s.data.pointer value.toNat := by
    funext a
    by_cases ha : a = s.data.pointer
    · subst ha
      simp [data]
    · rw [Function.update_of_ne ha]
      by_cases h : a < Tape.size
      · have hne : s.pointer ≠ ⟨a, h⟩ := fun he => ha (congrArg Fin.val he).symm
        simp only [data, h, dite_true, Tape.read_write_of_ne _ _ hne]
      · simp only [data, h, dite_false]
  rw [Data.put, ← hcells]
  rfl

/-- An instruction does to the store what its operation does to the data. -/
lemma data_apply (s : Store) (op : Operation) :
    (s.apply op.instruction).data = s.data.perform op := by
  cases op with
  | moveRight =>
      have hright : s.pointer.right.val = min (s.pointer.val + 1) 29999 :=
        Tape.rightOf_eq_min s.pointer.isLt
      simp only [Operation.instruction, apply, Data.perform, data, hright]
  | moveLeft => rfl
  | increment =>
      have h : (s.cell + 1).toNat = (s.data.current + 1) % 256 := by
        rw [data_current, UInt8.toNat_add]
        rfl
      rw [Data.perform, ← h]
      exact data_write s (s.cell + 1)
  | decrement =>
      have h : (s.cell - 1).toNat = (s.data.current + 255) % 256 := by
        rw [data_current, UInt8.toNat_sub, Nat.add_comm]
        rfl
      rw [Data.perform, ← h]
      exact data_write s (s.cell - 1)
  | output =>
      have h : Char.ofNat s.data.current = Console.charOf s.cell := by
        rw [data_current, Console.charOf]
      rw [Data.perform, h]
      simp only [Operation.instruction, apply, data, Console.write,
        String.toList_push]
  | input =>
      cases hin : s.console.pending with
      | nil =>
          have hread : s.console.read = (0, s.console) := by
            rw [Console.read, hin]
          have hperform : s.data.perform .input = s.data.put 0 := by
            simp only [Data.perform, data, hin]
          rw [hperform]
          simp only [Operation.instruction, apply, hread]
          exact data_write s 0
      | cons c rest =>
          have hread : s.console.read
              = (Console.byteOf c, { s.console with pending := rest }) := by
            rw [Console.read, hin]
          have hbyte : (Console.byteOf c).toNat = c.toNat % 256 := by
            rw [Console.byteOf, UInt8.toNat_ofNat']
          have hperform : s.data.perform .input
              = { s.data.put (c.toNat % 256) with input := rest } := by
            simp only [Data.perform, data, hin]
          rw [hperform, ← hbyte, ← data_write]
          simp only [Operation.instruction, apply, hread]
          rfl

/-- What is silent leaves the store alone. -/
lemma execute_of_silent {s : Store} {i? : Option Instruction}
    (h : Lexeme.ofInstruction? i? = .silent) : s.execute i? = s := by
  cases i? with
  | none => rfl
  | some i =>
      cases i <;> simp only [Lexeme.ofInstruction?, reduceCtorEq] at h
      rfl

lemma execute_of_operation {s : Store} {i? : Option Instruction}
    {op : Operation} (h : Lexeme.ofInstruction? i? = .operation op) :
    s.execute i? = s.apply op.instruction := by
  cases i? with
  | none => simp only [Lexeme.ofInstruction?, reduceCtorEq] at h
  | some i =>
      cases i <;>
        simp only [Lexeme.ofInstruction?, Lexeme.operation.injEq,
          reduceCtorEq] at h <;>
        rw [← h] <;> rfl

end Store

end TapeDebugger
