/-
A debugging session: one machine, the timing of its runs, and the observers
that are told about every change.

* `Config`: the interval between batches and the size of a batch;
* `RunState`: halted, paused or running, as the observers see it;
* `Rejection` and `SessionError`: why an operation is refused or fails;
* `Session`: the state, with `Session.start`, `Session.step`,
  `Session.stepMany`, `Session.runToEnd`, `Session.runToBreakpoint`,
  `Session.pause`, `Session.stop` and `Session.poll`.

An operation that is refused changes nothing. Runs never block: they only
set a deadline, and each `Session.poll` at or after it executes one batch.
-/
import TapeDebugger.Schedule
import TapeDebugger.Observers

namespace TapeDebugger

/-! ### Configuration -/

/-- The tuning of timed runs. -/
structure Config where
  /-- The time between two batches. -/
  interval : Time
  /-- The most steps of one batch. With zero, no batch makes progress. -/
  batchSize : Nat
  deriving DecidableEq

namespace Config

/-- The interval of a session that is not told otherwise. -/
def defaultInterval : Time := Time.ofMillis 100

/-- The batch size of a session that is not told otherwise. -/
def defaultBatchSize : Nat := 10000000

/-- Ten million steps every tenth of a second. -/
def standard : Config :=
  ⟨defaultInterval, defaultBatchSize⟩

/-- Sets the time between two batches. -/
def withInterval (c : Config) (interval : Time) : Config :=
  { c with interval }

/-- Sets the batch size; zero counts as one. -/
def withBatchSize (c : Config) (n : Nat) : Config :=
  { c with batchSize := max n 1 }

theorem batchSize_withBatchSize_pos (c : Config) (n : Nat) :
    0 < (c.withBatchSize n).batchSize :=
  Nat.lt_of_lt_of_le Nat.one_pos (Nat.le_max_right ..)

end Config

/-! ### States and errors -/

/-- What a session is doing. -/
inductive RunState where
  /-- Nothing is loaded, or the run has ended. -/
  | halted
  /-- A run is loaded and can go on. -/
  | paused
  /-- A timed run is active. -/
  | running (mode : RunMode)
  deriving DecidableEq, Repr

/-- Why an operation is refused. -/
inductive Rejection where
  /-- A timed run is active. -/
  | busy (operation : String)
  /-- There is no run that could go on. -/
  | halted (operation : String)
  /-- A run is still loaded. -/
  | alreadyLoaded
  /-- There is no timed run to pause. -/
  | notRunning
  deriving DecidableEq, Repr

/-- The report of a refusal. -/
def Rejection.message : Rejection → String
  | busy operation => "Cannot " ++ operation ++ " while a run is in progress"
  | halted operation => "Cannot " ++ operation ++ ": program is halted"
  | alreadyLoaded =>
      "Cannot start: a program is already loaded (stop it first)"
  | notRunning => "Cannot pause: nothing is running"

/-- Why an operation did not succeed. -/
inductive SessionError where
  /-- A jump had no target, and the machine is halted. -/
  | fault (fault : Fault)
  /-- The operation was refused, and nothing has changed. -/
  | rejected (rejection : Rejection)
  deriving DecidableEq, Repr

namespace SessionError

/-- The report of an error. -/
def message : SessionError → String
  | fault f => f.message
  | rejected r => r.message

/-- The position of the instruction that failed, if one did. -/
def pc? : SessionError → Option Nat
  | fault f => some f.pc
  | rejected _ => none

/-- Whether the operation was refused. -/
def isRejection : SessionError → Bool
  | fault _ => false
  | rejected _ => true

end SessionError

/-! ### The session -/

/-- The state of a debugging session. Handlers are known by numbers. -/
structure Session where
  machine : Machine
  schedule : Schedule
  config : Config
  observers : Observers Nat
  /-- The fault that ended the present run, if one did. -/
  lastFault : Option Fault

namespace Session

/-- A new session with nothing loaded. -/
def new (config : Config) : Session where
  machine := .unloaded
  schedule := .idle config.interval
  config := config
  observers := .none
  lastFault := none

/-- What the session is doing. -/
def runState (s : Session) : RunState :=
  match s.schedule.active with
  | some mode => .running mode
  | none => if s.machine.halted then .halted else .paused

/-- The character at the program counter, `none` at the end. -/
def currentChar? (s : Session) : Option Char :=
  s.machine.program.charAt? s.machine.pc

/-- The time from `now` to the next batch, `none` if no run is active. -/
def untilNext (s : Session) (now : Time) : Option Time :=
  s.schedule.untilNext now

/-- Tells the observers that the session has changed. -/
def notify (s : Session) : Session :=
  { s with observers := s.observers.emit .update }

/-- Why an operation that needs a paused run is refused, if it is. -/
def refusal? (s : Session) (operation : String) : Option Rejection :=
  if s.schedule.isActive then some (.busy operation)
  else if s.machine.halted then some (.halted operation)
  else none

/-! ### Operations -/

/-- Loads a program and its input in place of a run that has ended. -/
def start (s : Session) (code input : String) :
    Except SessionError Unit × Session :=
  if s.schedule.isActive then (.error (.rejected (.busy "start")), s)
  else if s.machine.halted then
    (.ok (), { s with
      machine := .load code input, lastFault := none }.notify)
  else (.error (.rejected .alreadyLoaded), s)

/-- Executes one instruction. -/
def step (s : Session) : Except SessionError Unit × Session :=
  match s.refusal? "step" with
  | some r => (.error (.rejected r), s)
  | none =>
      match s.machine.step with
      | (none, machine) => (.ok (), { s with machine }.notify)
      | (some f, machine) =>
          (.error (.fault f), { s with machine, lastFault := some f }.notify)

/-- Executes up to `count` instructions, stops at the end of the program and
gives the number executed. The observers are told once. -/
def stepMany (s : Session) (count : Nat) :
    Except SessionError Nat × Session :=
  match s.refusal? "step" with
  | some r => (.error (.rejected r), s)
  | none =>
      match s.machine.burst true count with
      | ⟨steps, none, machine⟩ => (.ok steps, { s with machine }.notify)
      | ⟨_, some f, machine⟩ =>
          (.error (.fault f), { s with machine, lastFault := some f }.notify)

/-- Begins a timed run; nothing is executed before the first poll that is
due. -/
def arm (s : Session) (mode : RunMode) (operation : String) (now : Time) :
    Except SessionError Unit × Session :=
  match s.refusal? operation with
  | some r => (.error (.rejected r), s)
  | none => (.ok (), { s with schedule := s.schedule.arm mode now })

/-- Begins a timed run to the end of the program. -/
def runToEnd (s : Session) (now : Time) :
    Except SessionError Unit × Session :=
  s.arm .continuous "run" now

/-- Begins a timed run that also stops at the next breakpoint marker. -/
def runToBreakpoint (s : Session) (now : Time) :
    Except SessionError Unit × Session :=
  s.arm .breakpoint "run to breakpoint" now

/-- Ends the timed run; it can go on later. -/
def pause (s : Session) : Except SessionError Unit × Session :=
  if s.schedule.isActive then
    (.ok (), { s with schedule := s.schedule.cancel }.notify)
  else (.error (.rejected .notRunning), s)

/-- Ends the run for good and keeps its state for inspection. The observers
are told in any case. -/
def stop (s : Session) : Session :=
  { s with
    schedule := s.schedule.cancel, machine := s.machine.halt }.notify

/-- Executes one batch in the given mode. The run goes on only if the batch
was not cut short. The observers are told about every batch, except one in
breakpoint mode after which the run goes on. -/
def runBatch (s : Session) (mode : RunMode) : Outcome × Session :=
  match s.machine.batch mode s.config.batchSize with
  | (.yielded, machine) =>
      let s := { s with machine }
      (.yielded, match mode with
        | .continuous => s.notify
        | .breakpoint => s)
  | (.faulted f, machine) =>
      (.faulted f, { s with
        machine
        schedule := s.schedule.cancel
        lastFault := some f }.notify)
  | (outcome, machine) =>
      (outcome, { s with machine, schedule := s.schedule.cancel }.notify)

/-- Executes the batch that is due, `none` if none is. -/
def poll (s : Session) (now : Time) : Option Outcome × Session :=
  match s.schedule.takeDue now with
  | (none, _) => (none, s)
  | (some mode, schedule) =>
      let (outcome, s) := { s with schedule }.runBatch mode
      (some outcome, s)

end Session

end TapeDebugger
