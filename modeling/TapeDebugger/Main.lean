/-
The command line of the debugger:

* `main`: reads the options and the files they name, and then either runs
  the program without a screen or lets the user work with the debugger.

The debugger reads its keys from standard input, line by line, and draws a
frame after each line.
-/
import TapeDebugger.CommandLine.Headless
import TapeDebugger.Debugger.Frame

namespace TapeDebugger

/-! ### Files -/

/-- What a path leads to. A directory can be opened but not read, and only an
error in opening names the path. -/
def readEntry (path : String) : IO FileEntry := do
  try
    return .file (← IO.FS.readBinFile path)
  catch
    | .noFileOrDirectory .. => return .missing
    | .inappropriateType (some _) .. => return .behindFile
    | .invalidArgument .. => return .nameTooLong
    | _ => return .directory

/-- The time since the start of a process, in nanoseconds. -/
def clock : IO Time := IO.monoNanosNow

/-! ### Runs without a screen -/

/-- Prints what a call has to say and gives its exit code. -/
def finish (r : Report) : IO UInt32 := do
  IO.eprint r.log
  let stdout ← IO.getStdout
  stdout.putStr r.output
  stdout.flush
  return UInt32.ofNat r.exitCode

/-- Sleeps until each batch is due and polls, until the run has ended. -/
partial def driveHeadless (h : Headless) : IO UInt32 := do
  match h.session.untilNext (← clock) with
  | none => finish h.report
  | some wait =>
      IO.sleep (UInt32.ofNat ((wait + Time.perMilli - 1) / Time.perMilli))
      match h.poll (← clock) with
      | .error report => finish report
      | .ok h => driveHeadless h

/-! ### Runs with a screen -/

/-- The size of the frames. -/
def frameSize : Nat × Nat := (100, 30)

/-- Draws the debugger if the screen is outdated. -/
def showFrame (d : Debugger) : IO Debugger := do
  let (screen, drawn) := d.frame frameSize.1 frameSize.2
  if d.outdated then
    for row in screen.rows do
      IO.println (String.ofList (row.flatMap (·.symbol)))
  return drawn

/-- Ticks as often as batches are due, until the run has ended or the batch
after next is. -/
partial def settle (d : Debugger) : IO Debugger := do
  match d.session.untilNext (← clock) with
  | none => return d.tick (← clock)
  | some wait =>
      IO.sleep (UInt32.ofNat ((wait + Time.perMilli - 1) / Time.perMilli))
      settle (d.tick (← clock))

/-- Lets the user work with the debugger. -/
partial def interact (d : Debugger) : IO Unit := do
  let d ← showFrame d
  unless d.quit do
    let line ← (← IO.getStdin).getLine
    unless line.isEmpty do
      let now ← clock
      let keys := line.toList.filter (· != '\n')
      let d := keys.foldl (fun d c => d.press now (.char c)) d
      let d ← settle d
      interact { d with outdated := true }

/-- What a wrong command line is answered with. -/
def usage : String :=
  "Usage: FILE [--input TEXT | --input-file PATH] "
    ++ "[--headless] [--tick-ms N] [--batch-size N]"

end TapeDebugger

open TapeDebugger in
/-- Runs the debugger on the arguments of the command line. -/
def main (arguments : List String) : IO UInt32 := do
  match Options.parse arguments with
  | none =>
      IO.eprintln usage
      return UInt32.ofNat usageExitCode
  | some options =>
      let file ← readEntry options.file
      let inputFile ← match options.inputFile with
        | some path => readEntry path
        | none => pure .missing
      let lookup path := if path = options.file then file else inputFile
      match options.load lookup with
      | .error report => finish report
      | .ok invocation =>
          if options.headless then
            match Headless.start options.config invocation (← clock) with
            | .error report => finish report
            | .ok h => driveHeadless h
          else
            IO.eprint invocation.log
            interact (Debugger.new (Session.new options.config)
              invocation.source invocation.input)
            return 0
