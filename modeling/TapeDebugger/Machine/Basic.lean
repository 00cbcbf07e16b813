/-
The machine that executes a program one instruction at a time:

* `Machine`: a program, the data it works on, and the state of control;
* `Fault`: a jump that was taken and has no target;
* `Machine.control`: where control stands after the current instruction, or
  the fault that it raises;
* `Machine.step`: one step, with the fault if there was one.

Control is decided before the data change. A fault therefore leaves the data
as they were, and the tape is never shared while it is written.
-/
import TapeDebugger.Program.Basic
import TapeDebugger.Store

namespace TapeDebugger

/-! ### Faults -/

/-- The bracket whose partner a jump did not find. -/
inductive FaultKind where
  /-- A `[` on a zero cell with no matching `]` behind it. -/
  | unmatchedOpen
  /-- A `]` on a cell other than zero with no loop entered. -/
  | unmatchedClose
  deriving DecidableEq, Repr

/-- A jump without a target. -/
structure Fault where
  /-- The position of the bracket. -/
  pc : Nat
  kind : FaultKind
  deriving DecidableEq, Repr

/-- The report of a fault. -/
def Fault.message (f : Fault) : String :=
  match f.kind with
  | .unmatchedOpen =>
      "Malformed program: '[' at " ++ toString f.pc ++ " has no matching ']'"
  | .unmatchedClose =>
      "Malformed program: ']' at " ++ toString f.pc ++ " has no open loop"

/-! ### The machine -/

/-- The whole state of one run. -/
structure Machine where
  program : Program
  store : Store
  /-- The position of the next instruction; the size of the program at the
  end. -/
  pc : Nat
  /-- The positions of the `[` of all loops entered, innermost first. -/
  loops : List Nat
  halted : Bool
  deriving DecidableEq

namespace Machine

/-- A fresh machine for a program text and an input text. -/
def load (code input : String) : Machine where
  program := Program.ofString code
  store := Store.ofInput input
  pc := 0
  loops := []
  halted := false

/-- A halted machine with nothing loaded. -/
def unloaded : Machine :=
  { load "" "" with halted := true }

/-- The instruction at the program counter, if there is one. -/
def current? (m : Machine) : Option Instruction :=
  m.program.instructionAt? m.pc

/-- The cell under the pointer. -/
def cell (m : Machine) : UInt8 :=
  m.store.cell

/-- The number of loops entered. -/
def depth (m : Machine) : Nat :=
  m.loops.length

/-- The output so far. -/
def output (m : Machine) : String :=
  m.store.console.written

/-- The input not yet read. -/
def remainingInput (m : Machine) : String :=
  m.store.console.remaining

/-- Whether the program counter rests on a breakpoint marker. -/
def atBreakpoint (m : Machine) : Bool :=
  m.program.charAt? m.pc == some Instruction.marker

/-- Sets the halted flag and keeps all else for inspection. -/
def halt (m : Machine) : Machine :=
  { m with halted := true }

/-! ### One step -/

/-- The state of control: a position and the loops entered. -/
structure Control where
  pc : Nat
  loops : List Nat
  deriving DecidableEq, Repr

/-- Where control stands after the current instruction, before it advances
to the next one. A `[` on a zero cell jumps to its `]`, and otherwise enters
the loop; a `]` on a zero cell leaves the innermost loop, if any, and
otherwise jumps to the `[` of that loop, which stays entered. -/
def control (m : Machine) : Except Fault Control :=
  match m.current? with
  | some .loopOpen =>
      if m.cell = 0 then
        match m.program.closing? m.pc with
        | some close => .ok ⟨close, m.loops⟩
        | none => .error ⟨m.pc, .unmatchedOpen⟩
      else .ok ⟨m.pc, m.pc :: m.loops⟩
  | some .loopClose =>
      if m.cell = 0 then .ok ⟨m.pc, m.loops.tail⟩
      else
        match m.loops with
        | opened :: _ => .ok ⟨opened, m.loops⟩
        | [] => .error ⟨m.pc, .unmatchedClose⟩
  | _ => .ok ⟨m.pc, m.loops⟩

/-- The machine whose data are those after the current instruction, and
whose control has advanced from `c` to the next instruction. It is halted
once no instruction is left. -/
def advance (m : Machine) (c : Control) : Machine :=
  let here := m.current?
  let next := m.program.nextInstruction c.pc
  let ended := decide (m.program.size ≤ next)
  { m with
    store := m.store.execute here
    pc := next
    loops := c.loops
    halted := m.halted || ended }

/-- Executes the instruction at the program counter and advances to the next
one. A fault only halts the machine. The halted flag is not looked at. -/
def step (m : Machine) : Option Fault × Machine :=
  match m.control with
  | .error fault => (some fault, m.halt)
  | .ok c => (none, m.advance c)

end Machine

end TapeDebugger
