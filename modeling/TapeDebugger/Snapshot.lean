/-
Copies of what a session shows:

* `Snapshot`: the memory, the pointer, the program counter, the output and
  the run state at one moment;
* `Snapshot.sameMachine`: whether two of them differ at most in the run
  state.
-/
import TapeDebugger.Session.Basic

namespace TapeDebugger

/-- What a session shows at one moment. -/
structure Snapshot where
  memory : Array UInt8
  pointer : Nat
  pc : Nat
  output : String
  state : RunState
  deriving DecidableEq

namespace Snapshot

/-- Whether the session was halted. -/
def isHalted (s : Snapshot) : Bool :=
  s.state == .halted

/-- The cell under the pointer, `none` if the pointer is outside the
memory. -/
def cell? (s : Snapshot) : Option UInt8 :=
  s.memory[s.pointer]?

/-- Whether two snapshots agree in all but the run state. -/
def sameMachine (s t : Snapshot) : Bool :=
  s.memory == t.memory && s.pointer == t.pointer && s.pc == t.pc
    && s.output == t.output

/-- The cells that are not zero, as runs of equal neighbours. -/
def runs (s : Snapshot) : List CellRun :=
  CellRun.ofCells s.memory

end Snapshot

/-- What the session shows now. -/
def Session.snapshot (s : Session) : Snapshot where
  memory := s.machine.store.tape.cells.toArray
  pointer := s.machine.store.pointer
  pc := s.machine.pc
  output := s.machine.output
  state := s.runState

end TapeDebugger
