/-
The debugger that a user works with: a session, the texts it is started on,
and what the screen shows of it.

* `Key`: the keys of the keyboard;
* `Focus`: the pane that the arrow keys scroll;
* `Debugger`: the state;
* `Debugger.press`: handles a key;
* `Debugger.tick`: executes the batch that is due and takes note of updates;
* `Debugger.highlight`: the character of the program that is marked.

A run or step key loads the program first if nothing is loaded, provided
that its brackets balance.
-/
import TapeDebugger.Program.Balance
import TapeDebugger.Session.Basic
import TapeDebugger.Pane.Program
import TapeDebugger.Pane.Memory

namespace TapeDebugger

/-- A key. -/
inductive Key where
  | char (c : Char)
  | left
  | right
  | up
  | down
  | pageUp
  | pageDown
  | home
  | «end»
  | escape
  | tab
  | backTab
  | enter
  | backspace
  | delete
  | insert
  | function (number : Nat)
  deriving DecidableEq, Repr

/-- The pane that the arrow keys scroll. -/
inductive Focus where
  | memory
  | output
  deriving DecidableEq, Repr

/-- The other pane. -/
def Focus.next : Focus → Focus
  | memory => output
  | output => memory

/-- A debugger. -/
structure Debugger where
  session : Session
  /-- The number of the debugger's own inbox. -/
  inbox : Nat
  /-- The program text of the next start. -/
  source : String
  /-- The input text of the next start. -/
  input : String
  focus : Focus
  /-- The address at which the memory dump begins. -/
  memoryOffset : Nat
  /-- The first line of the program shown. -/
  programScroll : Nat
  /-- The first line of the output shown. -/
  outputScroll : Nat
  /-- Where the last bracket check failed, if it did. -/
  errorIndex : Option Nat
  /-- Whether the user has asked to leave. -/
  quit : Bool
  /-- The message of the status bar. -/
  status : String
  /-- Whether the screen no longer shows the state. -/
  outdated : Bool
  /-- When the space key was last heeded, `none` if that is long ago. -/
  lastSpace : Option Time

namespace Debugger

/-- The scroll offset that stands for the end of a text, whatever its
length. -/
def scrollEnd : Nat := UInt64.size - 1

/-- The cells that a page key moves the memory dump by. -/
def pageCells : Nat := rowsPerPage * cellsPerRow

/-- The time within which a second press of the space key is ignored. -/
def spaceRest : Time := Time.ofMillis 200

/-- A debugger for a program text and an input text. -/
def new (session : Session) (source input : String) : Debugger :=
  let (inbox, observers) := session.observers.subscribe
  { session := { session with observers }
    inbox
    source
    input
    focus := .memory
    memoryOffset := 0
    programScroll := 0
    outputScroll := 0
    errorIndex := none
    quit := false
    status := "Ready!"
    outdated := true
    lastSpace := none }

/-- The character of the program that is marked: that of a failed bracket
check, else that of a fault, else the next instruction of a run that is not
over. -/
def highlight (d : Debugger) : Highlight :=
  match d.errorIndex, d.session.lastFault with
  | some index, _ => .error index
  | none, some fault => .error fault.pc
  | none, none =>
      if d.session.machine.halted then .none
      else .counter d.session.machine.pc

/-- Whether the status bar shows an error. -/
def hasError (d : Debugger) : Bool :=
  d.errorIndex.isSome || d.session.lastFault.isSome

/-- The input that is not yet read: that of the next start, if nothing is
loaded. -/
def pendingInput (d : Debugger) : String :=
  if d.session.machine.halted then d.input
  else d.session.machine.remainingInput

/-! ### Ticks -/

/-- The message about the outcome of a batch, after which the program
counter is `pc`. -/
def outcomeMessage (pc : Nat) : Outcome → String
  | .yielded => "Running..."
  | .finished => "Program finished"
  | .breakpoint => "Breakpoint at " ++ toString pc
  | .faulted fault => "Error: " ++ fault.message

/-- Executes the batch that is due, if one is, and takes the updates out of
the inbox. The screen is outdated if there were any. -/
def tick (d : Debugger) (now : Time) : Debugger :=
  let (outcome?, session) := d.session.poll now
  let (events?, observers) := session.observers.drain d.inbox
  let session := { session with observers }
  let outdated := d.outdated || !(events?.getD []).isEmpty
  match outcome? with
  | some outcome =>
      { d with
        session
        outdated
        status := outcomeMessage session.machine.pc outcome
        outputScroll := scrollEnd }
  | none => { d with session, outdated }

/-! ### Runs and steps -/

/-- Loads the program if nothing is loaded. It fails if the brackets of the
program do not balance. -/
def ensureStarted (d : Debugger) : Bool × Debugger :=
  if d.session.machine.halted then
    match imbalance? d.source with
    | some e =>
        (false, { d with errorIndex := some e.index, status := e.message })
    | none =>
        let d :=
          { d with errorIndex := none, programScroll := 0, outputScroll := 0 }
        match d.session.start d.source d.input with
        | (.ok (), session) => (true, { d with session })
        | (.error e, session) =>
            (false, { d with session, status := "Error: " ++ e.message })
  else (true, d)

/-- The message about a run that was asked for. -/
def runMessage (success : String) : Except SessionError Unit → String
  | .ok () => success
  | .error e => "Cannot run: " ++ e.message

/-- Runs to the end of the program. -/
def runToEnd (d : Debugger) (now : Time) : Debugger :=
  match d.ensureStarted with
  | (false, d) => d
  | (true, d) =>
      let (result, session) := d.session.runToEnd now
      { d with session, status := runMessage "Running..." result }

/-- Runs to the next breakpoint marker. -/
def runToBreakpoint (d : Debugger) (now : Time) : Debugger :=
  match d.ensureStarted with
  | (false, d) => d
  | (true, d) =>
      let (result, session) := d.session.runToBreakpoint now
      { d with
        session, status := runMessage "Running to breakpoint..." result }

/-- The message about steps that were asked for. -/
def stepMessage (halted : Bool) : Except SessionError Nat → String
  | .ok steps =>
      if halted then
        "Stepped " ++ toString steps ++ " step(s), program finished"
      else "Stepped forward " ++ toString steps ++ " step(s)"
  | .error e => "Error: " ++ e.message

/-- Makes up to `count` steps and shows the end of the output. -/
def step (d : Debugger) (count : Nat) : Debugger :=
  match d.ensureStarted with
  | (false, d) => d
  | (true, d) =>
      let (result, session) := d.session.stepMany count
      { d with
        session
        status := stepMessage session.machine.halted result
        outputScroll := scrollEnd }

/-- Pauses the run. -/
def pause (d : Debugger) : Debugger :=
  match d.session.pause with
  | (.ok (), session) =>
      { d with
        session, status := "Paused at " ++ toString session.machine.pc }
  | (.error e, session) => { d with session, status := e.message }

/-- Stops the run. -/
def stop (d : Debugger) : Debugger :=
  { d with session := d.session.stop, status := "Stopped" }

/-- Pauses a run that is active and otherwise runs to the end, unless the
space key was heeded a moment ago. -/
def toggle (d : Debugger) (now : Time) : Debugger :=
  let ready :=
    match d.lastSpace with
    | some last => decide (spaceRest ≤ now - last)
    | none => true
  if ready then
    let d := { d with lastSpace := some now }
    if d.session.schedule.isActive then d.pause else d.runToEnd now
  else d

/-! ### Scrolling -/

/-- Moves the memory dump towards the first cell. -/
def memoryBack (d : Debugger) (cells : Nat) : Debugger :=
  { d with memoryOffset := min (d.memoryOffset - cells) Tape.lastAddress }

/-- Moves the memory dump towards the last cell. -/
def memoryForward (d : Debugger) (cells : Nat) : Debugger :=
  { d with memoryOffset := min (d.memoryOffset + cells) Tape.lastAddress }

/-- Scrolls the pane with the focus up by one line. -/
def scrollUp (d : Debugger) : Debugger :=
  match d.focus with
  | .memory => d.memoryBack cellsPerRow
  | .output => { d with outputScroll := d.outputScroll - 1 }

/-- Scrolls the pane with the focus down by one line. -/
def scrollDown (d : Debugger) : Debugger :=
  match d.focus with
  | .memory => d.memoryForward cellsPerRow
  | .output =>
      { d with outputScroll := min (d.outputScroll + 1) scrollEnd }

/-! ### Keys -/

/-- The value of a digit from one to nine. -/
def stepDigit? (c : Char) : Option Nat :=
  if '1' ≤ c ∧ c ≤ '9' then some (c.toNat - '0'.toNat) else none

/-- Handles a character key. -/
def pressChar (d : Debugger) (now : Time) (c : Char) : Debugger :=
  match c with
  | 'q' | 'Q' => { d with quit := true }
  | 'r' => d.runToEnd now
  | 'b' => d.runToBreakpoint now
  | 's' => d.step 1
  | 'p' => d.pause
  | ' ' => d.toggle now
  | 'x' => d.stop
  | _ =>
      match stepDigit? c with
      | some count => d.step count
      | none => d

/-- Handles a key at the time `now`. -/
def press (d : Debugger) (now : Time) : Key → Debugger
  | .char c => d.pressChar now c
  | .right => d.step 1
  | .escape => d.stop
  | .tab => { d with focus := d.focus.next }
  | .up => d.scrollUp
  | .down => d.scrollDown
  | .pageUp => d.memoryBack pageCells
  | .pageDown => d.memoryForward pageCells
  | .home => { d with memoryOffset := 0 }
  | .end => { d with memoryOffset := d.session.machine.store.pointer }
  | _ => d

end Debugger

end TapeDebugger
