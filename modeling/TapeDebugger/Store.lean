/-
The data that a program works on:

* `Store`: the tape, the pointer into it, and the console;
* `Store.apply`: the effect of one instruction on the data;
* `Store.execute`: the same, where a comment may stand for an instruction.

Loop brackets and breakpoints have no effect on the data; they belong to the
control of a machine.
-/
import TapeDebugger.Instruction
import TapeDebugger.Tape
import TapeDebugger.Console

namespace TapeDebugger

/-- The tape, the pointer into it, and the console. -/
structure Store where
  tape : Tape
  pointer : Address
  console : Console
  deriving DecidableEq

namespace Store

/-- A blank tape, the pointer at its first cell, and the given input. -/
def ofInput (input : String) : Store :=
  ⟨Tape.blank, Address.first, Console.ofInput input⟩

/-- The cell under the pointer. -/
def cell (s : Store) : UInt8 :=
  s.tape.read s.pointer

/-- The effect of one instruction on the data. -/
def apply (s : Store) : Instruction → Store
  | .moveRight => { s with pointer := s.pointer.right }
  | .moveLeft => { s with pointer := s.pointer.left }
  | .increment => { s with tape := s.tape.increment s.pointer }
  | .decrement => { s with tape := s.tape.decrement s.pointer }
  | .output =>
      let byte := s.cell
      { s with console := s.console.write byte }
  | .input =>
      let (byte, console) := s.console.read
      { s with tape := s.tape.write s.pointer byte, console }
  | .loopOpen | .loopClose | .breakpoint => s

/-- The effect of what stands at a position; a comment changes nothing. -/
def execute (s : Store) : Option Instruction → Store
  | some i => s.apply i
  | none => s

end Store

end TapeDebugger
