/-
The operations of a session as data:

* `Command`: an operation with its arguments;
* `Reply`: what it answers;
* `Session.perform`: carries out a command at a given time;
* `Session.perform?`: the same, unless it would set a deadline beyond the
  latest time.
-/
import TapeDebugger.Session.Basic

namespace TapeDebugger

/-- An operation on a session. -/
inductive Command where
  | start (code input : String)
  | step
  | stepMany (count : Nat)
  | runToEnd
  | runToBreakpoint
  | pause
  | stop
  | poll
  deriving DecidableEq, Repr

/-- The answer to a command. -/
inductive Reply where
  /-- The operation succeeded. -/
  | done
  /-- So many instructions were executed. -/
  | stepped (count : Nat)
  /-- The outcome of the batch that was due, if one was. -/
  | polled (outcome? : Option Outcome)
  /-- The operation was refused or failed. -/
  | failed (error : SessionError)
  deriving DecidableEq, Repr

/-- The reply to an operation that has nothing to report. -/
def Reply.ofExcept : Except SessionError Unit → Reply
  | .ok () => .done
  | .error e => .failed e

/-- The reply to an operation that counts the instructions executed. -/
def Reply.ofCount : Except SessionError Nat → Reply
  | .ok n => .stepped n
  | .error e => .failed e

namespace Session

/-- Carries out a command at the time `now`. -/
def perform (now : Time) (s : Session) : Command → Reply × Session
  | .start code input => (s.start code input).map Reply.ofExcept id
  | .step => s.step.map Reply.ofExcept id
  | .stepMany count => (s.stepMany count).map Reply.ofCount id
  | .runToEnd => (s.runToEnd now).map Reply.ofExcept id
  | .runToBreakpoint => (s.runToBreakpoint now).map Reply.ofExcept id
  | .pause => s.pause.map Reply.ofExcept id
  | .stop => (.done, s.stop)
  | .poll => (s.poll now).map Reply.polled id

/-- Whether a command at the time `now` would set a deadline that cannot be
told. Only an accepted run and a batch that is due set one. -/
def overruns (now : Time) (s : Session) : Command → Bool
  | .runToEnd | .runToBreakpoint =>
      decide (s.runState = .paused) && !s.schedule.fits now
  | .poll => s.schedule.isDue now && !s.schedule.fits now
  | _ => false

/-- Carries out a command, unless it would set a deadline that cannot be
told. -/
def perform? (now : Time) (s : Session) (c : Command) :
    Option (Reply × Session) :=
  if s.overruns now c then none else some (s.perform now c)

/-- Polls every `span` from `now` on while a run is active, at most `bound`
times. Gives the outcomes in order, and the time and session after the last
poll; `none` stands for a time that cannot be told. -/
def pollEvery (span : Time) :
    (bound : Nat) → Time → Session →
      List (Option Outcome) × Option (Time × Session)
  | 0, now, s => ([], some (now, s))
  | bound + 1, now, s =>
      if s.schedule.isActive then
        match Time.add? now span with
        | none => ([], none)
        | some now =>
            if s.overruns now .poll then ([], none)
            else
              let (outcome?, s) := s.poll now
              let (outcomes, last) := pollEvery span bound now s
              (outcome? :: outcomes, last)
      else ([], some (now, s))

end Session

end TapeDebugger
