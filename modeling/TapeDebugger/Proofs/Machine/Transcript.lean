/-
What a run reads and prints, told by its steps.

* `Machine.stepsOf`: the numbers of the steps that execute an instruction;
* `Machine.getElem?_stepsOf`: how many came before the one at a given place;
* `Store.pending_execute` and `Store.cell_execute_input`: what one instruction
  takes from the input, and where it puts it;
* `Machine.pending_after`: a run takes one character for each `,`, as long as
  there are any;
* `Machine.toList_output_after`: it prints one character for each `.`;
* `Machine.input_output_ledger`: both from the start, with the byte that each
  `,` stores, and between any two moments of a run.

It does not matter whether a step fails: no bracket reads or prints.
-/
import Mathlib.Tactic
import TapeDebugger.Proofs.Machine.Lockstep

namespace TapeDebugger

/-! ### Characters and bytes -/

namespace Console

lemma toNat_charOf (byte : UInt8) : (charOf byte).toNat = byte.toNat := by
  have hlt := byte.toNat_lt
  have hvalid : byte.toNat.isValidChar := Or.inl (by omega)
  rw [charOf, Char.ofNat, dif_pos hvalid]
  rfl

lemma toNat_byteOf (c : Char) : (byteOf c).toNat = c.toNat % 256 := by
  rw [byteOf, UInt8.toNat_ofNat']

lemma byteAt_drop (input : List Char) (j i : Nat) :
    byteAt (input.drop j) i = byteAt input (j + i) := by
  rw [byteAt, byteAt, List.getElem?_drop]

/-- The byte at a place is the low half of the character's code, and zero
where there is no character. -/
lemma toNat_byteAt (input : List Char) (i : Nat) :
    (byteAt input i).toNat =
      match input[i]? with
      | some c => c.toNat % 256
      | none => 0 := by
  rw [byteAt]
  cases input[i]? with
  | some c => exact toNat_byteOf c
  | none => rfl

end Console

/-! ### One instruction -/

namespace Store

/-- Only a `,` takes anything from the input: its first character, if there is
one. -/
lemma pending_execute (s : Store) (i? : Option Instruction) :
    (s.execute i?).console.pending =
      if i? = some .input then s.console.pending.tail
      else s.console.pending := by
  cases i? with
  | none => rfl
  | some i =>
      cases i with
      | input => rw [if_pos rfl, execute, apply, Console.read_eq]
      | _ => rfl

/-- A `,` stores the byte that comes next. -/
lemma cell_execute_input (s : Store) :
    (s.execute (some .input)).cell = Console.byteAt s.console.pending 0 := by
  rw [execute, apply, Console.read_eq, cell]
  exact Tape.read_write_self s.tape s.pointer _

lemma toList_printed (s : Store) (i? : Option Instruction) :
    (s.printed i?).toList =
      if i? = some .output then [Console.charOf s.cell] else [] := by
  cases i? with
  | none => rfl
  | some i =>
      cases i with
      | output => exact String.toList_singleton _
      | _ => rfl

end Store

namespace Machine

variable {m : Machine} {i : Instruction} {j k n : Nat}

/-! ### The steps of an instruction -/

/-- The numbers of the steps, among the first `n`, that execute the given
instruction, in order. -/
def stepsOf (m : Machine) (i : Instruction) (n : Nat) : List Nat :=
  (List.range n).filter fun j => (after j m).current? = some i

lemma stepsOf_succ (m : Machine) (i : Instruction) (n : Nat) :
    m.stepsOf i (n + 1) = m.stepsOf i n ++
      if (after n m).current? = some i then [n] else [] := by
  rw [stepsOf, List.range_succ, List.filter_append, stepsOf,
    List.filter_singleton]
  split_ifs <;> simp_all

/-- The step at a place among those of an instruction executes it, and the
place is the number of earlier ones. -/
lemma getElem?_stepsOf (h : (m.stepsOf i n)[j]? = some k) :
    (after k m).current? = some i ∧ (m.stepsOf i k).length = j := by
  induction n with
  | zero => exact absurd h (by simp [stepsOf])
  | succ n ih =>
      rw [stepsOf_succ] at h
      rcases Nat.lt_or_ge j (m.stepsOf i n).length with hlt | hge
      · rw [List.getElem?_append_left hlt] at h
        exact ih h
      · rw [List.getElem?_append_right hge] at h
        split_ifs at h with hcur
        · obtain ⟨hplace, hk⟩ := List.getElem?_eq_some_iff.mp h
          have hzero : j - (m.stepsOf i n).length = 0 := by
            simpa using hplace
          obtain rfl : n = k := by simpa [hzero] using hk
          exact ⟨hcur, by omega⟩
        · exact absurd h (by simp)

lemma length_stepsOf_le (m : Machine) (i : Instruction) (n : Nat) :
    (m.stepsOf i n).length ≤ n := by
  have h := List.length_filter_le
    (fun j => decide ((after j m).current? = some i)) (List.range n)
  rwa [List.length_range] at h

/-! ### Many steps -/

/-- **A run takes one character for each `,`**, as long as there are any. -/
lemma pending_after (m : Machine) (n : Nat) :
    (after n m).store.console.pending
      = m.store.console.pending.drop (m.stepsOf .input n).length := by
  induction n with
  | zero => rfl
  | succ n ih =>
      rw [after_succ, store_step, Store.pending_execute, ih, stepsOf_succ]
      split_ifs with hcur
      · rw [List.length_append, List.length_singleton, List.tail_drop]
      · rw [List.append_nil]

/-- **A run prints one character for each `.`**: that of the current cell. -/
lemma toList_output_after (m : Machine) (n : Nat) :
    (after n m).output.toList = m.output.toList ++
      (m.stepsOf .output n).map fun j => Console.charOf (after j m).cell := by
  induction n with
  | zero => simp [stepsOf]
  | succ n ih =>
      rw [after_succ, output_step, String.toList_append, ih,
        Store.toList_printed, stepsOf_succ]
      split_ifs with hcur
      · rw [List.map_append, List.append_assoc]
        rfl
      · rw [List.append_nil, List.append_nil]

/-- The step that executes the `,` with number `j` stores the byte at place
`j` of the input. -/
lemma cell_after_read (h : (m.stepsOf .input n)[j]? = some k) :
    (after (k + 1) m).cell = Console.byteAt m.store.console.pending j := by
  obtain ⟨hcur, hplace⟩ := getElem?_stepsOf h
  rw [after_succ, cell, store_step, hcur, Store.cell_execute_input,
    pending_after, hplace, Console.byteAt_drop, Nat.add_zero]

/-- **The ledger of input and output.** After any number of steps from the
start, the input that is left is the given one without its first characters,
one for each `,` that was executed, as far as there were any. The output has
one character for each `.`, whose code is the value that the current cell had
then, so none has a code above 255. The `,` with number `j`, counted from
zero, has stored the low eight bits of the character at place `j` of the
input, or zero if there is none. Between two moments of a run the output
grows at its end, and the input loses characters at its front, at most one
for each step. -/
theorem input_output_ledger (code input : String) (n : Nat) :
    let start := load code input
    let m := after n start
    let reads := start.stepsOf .input n
    let prints := start.stepsOf .output n
    m.remainingInput.toList
        = input.toList.drop (min reads.length input.length) ∧
      (m.output.toList.map Char.toNat
          = prints.map (fun k => (after k start).cell.toNat) ∧
        ∀ c ∈ m.output.toList, c.toNat ≤ 255) ∧
      (∀ j k : Nat, reads[j]? = some k →
        (after (k + 1) start).cell.toNat =
          match input.toList[j]? with
          | some c => c.toNat % 256
          | none => 0) ∧
      ∀ k ≤ n, ∃ written taken,
        m.output = (after k start).output ++ written ∧
          (after k start).remainingInput = taken ++ m.remainingInput ∧
          taken.length ≤ n - k := by
  intro start m reads prints
  have hpending : m.store.console.pending = input.toList.drop reads.length :=
    pending_after start n
  have hcodes : m.output.toList.map Char.toNat
      = prints.map fun k => (after k start).cell.toNat := by
    rw [toList_output_after, show start.output.toList = [] from rfl,
      List.nil_append, List.map_map]
    exact List.map_congr_left fun k _ => Console.toNat_charOf _
  refine ⟨?_, ⟨hcodes, fun c hc => ?_⟩, fun j k hread => ?_,
    fun k hk => ?_⟩
  · rw [remainingInput, Console.remaining, String.toList_ofList, hpending,
      ← String.length_toList, ← List.drop_eq_drop_min]
  · have hcode : c.toNat ∈ prints.map fun k => (after k start).cell.toNat :=
      hcodes ▸ List.mem_map_of_mem hc
    obtain ⟨k, -, hk⟩ := List.mem_map.mp hcode
    have := (after k start).cell.toNat_lt
    omega
  · rw [cell_after_read hread, Console.toNat_byteAt]
    rfl
  · obtain ⟨steps, rfl⟩ := Nat.exists_eq_add_of_le hk
    have hm : m = after steps (after k start) := after_add k steps start
    refine ⟨String.ofList (((after k start).stepsOf .output steps).map
        fun j => Console.charOf (after j (after k start)).cell),
      String.ofList ((after k start).store.console.pending.take
        ((after k start).stepsOf .input steps).length), ?_, ?_, ?_⟩
    · apply String.toList_injective
      rw [hm, toList_output_after, String.toList_append, String.toList_ofList]
    · apply String.toList_injective
      rw [hm, String.toList_append, String.toList_ofList, remainingInput,
        remainingInput, Console.remaining, Console.remaining,
        pending_after (after k start) steps, String.toList_ofList,
        String.toList_ofList, List.take_append_drop]
    · have hle := (after k start).length_stepsOf_le .input steps
      rw [String.length_ofList, List.length_take]
      omega

/-- The loop of `+[,.]` reads twice from an input of one letter, `Ł`: first the
low byte of its code, then a zero, and it prints both. -/
theorem input_output_ledger_exhausted :
    let start := load "+[,.]" "Ł"
    ((start.stepsOf .input 7)[0]? = some 2 ∧
        (start.stepsOf .input 7)[1]? = some 5) ∧
      (after 3 start).cell.toNat = 65 ∧
      (after 6 start).cell.toNat = 0 ∧
      (after 7 start).output.toList.map Char.toNat = [65, 0] ∧
      (after 7 start).remainingInput.toList = [] := by
  intro start
  obtain ⟨hleft, ⟨hcodes, -⟩, hstored, -⟩ :=
    input_output_ledger "+[,.]" "Ł" 7
  have hfirst : (start.stepsOf .input 7)[0]? = some 2 := by decide
  have hsecond : (start.stepsOf .input 7)[1]? = some 5 := by decide
  exact ⟨⟨hfirst, hsecond⟩, hstored 0 2 hfirst, hstored 1 5 hsecond,
    hcodes.trans (by decide), hleft.trans (by decide)⟩

end Machine

end TapeDebugger
