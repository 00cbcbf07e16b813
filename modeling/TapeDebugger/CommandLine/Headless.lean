/-
A run without a screen:

* `SessionError.inspect`: the text of an error that ends the call;
* `Headless`: a session whose run is driven to its end, and what was printed;
* `Headless.start`: checks the program and begins the run;
* `Headless.heed` and `Headless.poll`: what one poll does;
* `Headless.report`: what the call prints in the end;
* `Headless.drive`: polls each time a batch is due until the run has ended;
* `Headless.run` and `Headless.outcomes`: what such a run prints, and what its
  polls gave.
-/
import TapeDebugger.CommandLine.Invocation
import TapeDebugger.Program.Balance

namespace TapeDebugger

/-! ### Errors that end the call -/

/-- The name of a fault. -/
def FaultKind.inspect : FaultKind → String
  | unmatchedOpen => "UnmatchedOpen"
  | unmatchedClose => "UnmatchedClose"

/-- The name of a refusal, with the operation that is refused. -/
def Rejection.inspect : Rejection → String
  | busy operation =>
      "BatchActive \x7b operation: \"" ++ operation ++ "\" \x7d"
  | halted operation =>
      "Halted \x7b operation: \"" ++ operation ++ "\" \x7d"
  | alreadyLoaded => "AlreadyLoaded"
  | notRunning => "NotRunning"

/-- The name of an error, with its parts: what the call prints where it has no
report of its own. -/
def SessionError.inspect : SessionError → String
  | fault f =>
      "MalformedProgram \x7b pc: " ++ toString f.pc ++ ", kind: "
        ++ f.kind.inspect ++ " \x7d"
  | rejected r => r.inspect

/-! ### Runs -/

/-- A run without a screen. -/
structure Headless where
  session : Session
  log : String

namespace Headless

/-- Begins a run to the end of the program at the time `now`. A program
whose brackets do not balance is not loaded. -/
def start (config : Config) (i : Invocation) (now : Time) :
    Except Report Headless :=
  match imbalance? i.source with
  | some e => .error (.failure i.log e.message)
  | none =>
      match (Session.new config).start i.source i.input with
      | (.error e, _) => .error (.failure i.log e.inspect)
      | (.ok (), session) =>
          match session.runToEnd now with
          | (.error e, _) => .error (.failure i.log e.inspect)
          | (.ok (), session) => .ok ⟨session, i.log⟩

/-- What the result of a poll does: a fault ends the call. -/
def heed (h : Headless) :
    Option Outcome × Session → Except Report Headless
  | (some (.faulted fault), _) =>
      .error ⟨1, "", h.log ++ "Runtime error: " ++ fault.message ++ "\n"⟩
  | (some .finished, session) =>
      .ok ⟨session, h.log ++ "Execution completed successfully.\n"⟩
  | (_, session) => .ok ⟨session, h.log⟩

/-- What a poll at the time `now` does. -/
def poll (h : Headless) (now : Time) : Except Report Headless :=
  h.heed (h.session.poll now)

/-- What the call prints once the run has ended. -/
def report (h : Headless) : Report :=
  ⟨0, h.session.machine.output, h.log⟩

/-- How a run went. -/
structure Course where
  /-- The outcomes of the polls, the last one first; `none` stands for a poll
  at which no batch was due. -/
  polled : List (Option Outcome)
  /-- What the call prints, `none` if the run has not ended. -/
  report? : Option Report

/-- Waits for each batch and polls, until no run is active. The wait before
poll number `i` takes `late i` longer than asked for. At most `bound` polls
are made, after earlier ones with the outcomes `polled`. -/
def drive (late : Nat → Time) (polled : List (Option Outcome)) :
    (bound i : Nat) → (now : Time) → Headless → Course
  | bound, i, now, h =>
      match h.session.untilNext now with
      | none => ⟨polled, some h.report⟩
      | some wait =>
          match bound with
          | 0 => ⟨polled, none⟩
          | bound + 1 =>
              let now := now + wait + late i
              let result := h.session.poll now
              match h.heed result with
              | .error report => ⟨result.1 :: polled, some report⟩
              | .ok h => drive late (result.1 :: polled) bound (i + 1) now h

/-- What the call prints; `none` means that the run had not ended after
`bound` polls. -/
def run (late : Nat → Time) (bound i : Nat) (now : Time) (h : Headless) :
    Option Report :=
  (drive late [] bound i now h).report?

/-- The outcomes of the polls that a run makes, in order. -/
def outcomes (late : Nat → Time) (bound i : Nat) (now : Time)
    (h : Headless) : List (Option Outcome) :=
  (drive late [] bound i now h).polled.reverse

end Headless

end TapeDebugger
