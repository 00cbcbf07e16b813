/-
The instruction set of the tape language:

* `Instruction`: the nine instructions;
* `Instruction.ofChar?`: the instruction a character stands for, if any; all
  other characters are comments;
* `Instruction.toChar`: the character an instruction is written as;
* `Instruction.ofChar?_toChar` and `Instruction.toChar_of_ofChar?`: the two
  are inverse to one another.
-/

namespace TapeDebugger

/-- One instruction of the tape language. -/
inductive Instruction where
  /-- `>` moves the pointer one cell to the right. -/
  | moveRight
  /-- `<` moves the pointer one cell to the left. -/
  | moveLeft
  /-- `+` adds one to the current cell. -/
  | increment
  /-- `-` subtracts one from the current cell. -/
  | decrement
  /-- `.` writes the current cell. -/
  | output
  /-- `,` reads into the current cell. -/
  | input
  /-- `[` enters a loop, or skips it on a zero cell. -/
  | loopOpen
  /-- `]` repeats a loop, or leaves it on a zero cell. -/
  | loopClose
  /-- `*` computes nothing and stops the runs that look for it. -/
  | breakpoint
  deriving DecidableEq, Repr

namespace Instruction

/-- The character of a breakpoint marker. -/
def marker : Char := '*'

/-- The instruction that a character stands for; every character outside the
instruction set is a comment. -/
def ofChar? : Char → Option Instruction
  | '>' => some moveRight
  | '<' => some moveLeft
  | '+' => some increment
  | '-' => some decrement
  | '.' => some output
  | ',' => some input
  | '[' => some loopOpen
  | ']' => some loopClose
  | '*' => some breakpoint
  | _ => none

/-- The character that an instruction is written as. -/
def toChar : Instruction → Char
  | moveRight => '>'
  | moveLeft => '<'
  | increment => '+'
  | decrement => '-'
  | output => '.'
  | input => ','
  | loopOpen => '['
  | loopClose => ']'
  | breakpoint => marker

/-- Whether the instruction is one of the two loop brackets. -/
def isLoop : Instruction → Bool
  | loopOpen | loopClose => true
  | _ => false

@[simp]
theorem ofChar?_toChar (i : Instruction) : ofChar? i.toChar = some i := by
  cases i <;> rfl

theorem toChar_of_ofChar? {c : Char} {i : Instruction}
    (h : ofChar? c = some i) : i.toChar = c := by
  unfold ofChar? at h
  split at h <;> cases h <;> rfl

end Instruction

end TapeDebugger
