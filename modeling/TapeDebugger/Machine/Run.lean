/-
Several steps of a machine at once:

* `Machine.after`: the machine after a number of steps, whatever they
  return;
* `Machine.burst`: steps until a bound, a fault or, if asked, a halt;
* `Machine.countedBatch`: the steps of one tick of a timed run, which end
  early at a fault, a halt or, in one mode, a breakpoint marker;
* `Machine.batch`: how such a batch ended, and the machine after it.
-/
import TapeDebugger.Machine.Basic

namespace TapeDebugger

/-- What a timed run stops at. -/
inductive RunMode where
  /-- Only at the end of the program. -/
  | continuous
  /-- Also where the program counter reaches a breakpoint marker. -/
  | breakpoint
  deriving DecidableEq, Repr

/-- How one batch of a timed run ended. -/
inductive Outcome where
  /-- All steps of the batch were made and the run goes on. -/
  | yielded
  /-- The program ran to its end. -/
  | finished
  /-- The program counter reached a breakpoint marker. -/
  | breakpoint
  /-- A jump had no target. -/
  | faulted (fault : Fault)
  deriving DecidableEq, Repr

namespace Machine

/-- The machine after `n` steps, those that fail included. -/
def after : (n : Nat) → Machine → Machine
  | 0, m => m
  | n + 1, m => after n m.step.2

/-- The result of a burst of steps. -/
structure Burst where
  /-- The number of steps made, a failing one included. -/
  steps : Nat
  /-- The fault of the last step, if it failed. -/
  fault? : Option Fault
  machine : Machine

/-- Makes up to `bound` further steps after `made` earlier ones, and no more
after a fault. With `heedHalt` it also makes none on a halted machine. -/
def burstFrom (heedHalt : Bool) (made : Nat) :
    (bound : Nat) → Machine → Burst
  | 0, m => ⟨made, none, m⟩
  | bound + 1, m =>
      if heedHalt && m.halted then ⟨made, none, m⟩
      else
        match m.step with
        | (some fault, m) => ⟨made + 1, some fault, m⟩
        | (none, m) => burstFrom heedHalt (made + 1) bound m

/-- Makes up to `bound` steps, and no more after a fault. With `heedHalt` it
also makes none on a halted machine. -/
def burst (heedHalt : Bool) (bound : Nat) (m : Machine) : Burst :=
  burstFrom heedHalt 0 bound m

/-- The result of a batch of steps. -/
structure Batch where
  /-- The number of steps made, a failing one included. -/
  steps : Nat
  /-- Why no further step was made. -/
  outcome : Outcome
  machine : Machine

/-- Makes up to `bound` further steps after `made` earlier ones of the same
batch. The first of them is made in any case. -/
def batchFrom (mode : RunMode) (made : Nat) :
    (bound : Nat) → Machine → Batch
  | 0, m => ⟨made, .yielded, m⟩
  | bound + 1, m =>
      match m.step with
      | (some fault, m) => ⟨made + 1, .faulted fault, m⟩
      | (none, m) =>
          if m.halted then ⟨made + 1, .finished, m⟩
          else if mode = .breakpoint ∧ m.atBreakpoint then
            ⟨made + 1, .breakpoint, m⟩
          else batchFrom mode (made + 1) bound m

/-- Makes up to `bound` steps and says how many it made and why it stopped.
The first step is made in any case. -/
def countedBatch (mode : RunMode) (bound : Nat) (m : Machine) : Batch :=
  batchFrom mode 0 bound m

/-- Makes up to `bound` steps and says why it stopped. -/
def batch (mode : RunMode) (bound : Nat) (m : Machine) : Outcome × Machine :=
  let b := countedBatch mode bound m
  (b.outcome, b.machine)

end Machine

end TapeDebugger
