/-
Program texts, addressed by character position:

* `Program`: a sequence of characters, comments included;
* `Program.instructionAt?`: the instruction at a position, if any;
* `Program.nextInstruction`: where execution goes on after a position;
* `Program.closing?`: the bracket at which the loop opened at a position
  ends.

Both searches recurse on the number of characters that are left to look at.
-/
import TapeDebugger.Instruction

namespace TapeDebugger

/-- A program text. Positions count characters from zero. -/
structure Program where
  /-- The characters in order, comments included. -/
  chars : Array Char
  deriving DecidableEq, Repr

namespace Program

/-- The program with the given text. -/
def ofString (text : String) : Program :=
  ⟨text.toList.toArray⟩

/-- The program without characters. -/
def empty : Program :=
  ⟨#[]⟩

/-- The number of characters. -/
def size (p : Program) : Nat :=
  p.chars.size

/-- Whether there are no characters. -/
def isEmpty (p : Program) : Bool :=
  p.chars.isEmpty

/-- The text of the program. -/
def text (p : Program) : String :=
  String.ofList p.chars.toList

/-- The character at a position, `none` past the end. -/
def charAt? (p : Program) (pos : Nat) : Option Char :=
  p.chars[pos]?

/-- The instruction at a position, `none` at a comment and past the end. -/
def instructionAt? (p : Program) (pos : Nat) : Option Instruction :=
  (p.charAt? pos).bind Instruction.ofChar?

/-! ### The next instruction -/

/-- The first instruction among the `left` characters from `pos` on, or the
position behind them. -/
def seek (p : Program) (pos : Nat) : (left : Nat) → Nat
  | 0 => pos
  | left + 1 =>
      if (p.instructionAt? pos).isSome then pos else p.seek (pos + 1) left

/-- The position of the first instruction strictly after `pos`, or the size
of the program if there is none. -/
def nextInstruction (p : Program) (pos : Nat) : Nat :=
  min (p.seek (pos + 1) (p.size - (pos + 1))) p.size

/-! ### The closing bracket -/

/-- Scans the `left` characters from `pos` on, with `depth` loops open, for
the position at which none is open. A closing bracket with no loop open ends
the scan without a result. -/
def closingFrom (p : Program) (depth pos : Nat) : (left : Nat) → Option Nat
  | 0 => none
  | left + 1 =>
      match p.charAt? pos with
      | some '[' => p.closingFrom (depth + 1) (pos + 1) left
      | some ']' =>
          match depth with
          | 0 => none
          | 1 => some pos
          | outer + 2 => p.closingFrom (outer + 1) (pos + 1) left
      | _ =>
          if depth = 0 then some pos else p.closingFrom depth (pos + 1) left

/-- The position of the bracket that closes the loop opened at `pos`. The
count starts at `pos` with no loop open, so a position that holds no bracket
is its own answer. -/
def closing? (p : Program) (pos : Nat) : Option Nat :=
  p.closingFrom 0 pos (p.size - pos)

end Program

end TapeDebugger
