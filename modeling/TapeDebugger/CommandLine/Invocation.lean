/-
What a call of the program does before a run begins:

* `FileEntry`: what a path leads to;
* `Report`: what the call prints and its exit code;
* `Invocation`: the texts that a run needs;
* `Options.load`: reads them, or ends the call with a report.
-/
import TapeDebugger.CommandLine.Options

namespace TapeDebugger

/-- What a path leads to. -/
inductive FileEntry where
  | missing
  /-- Nothing, since the path goes on behind a file. -/
  | behindFile
  /-- Nothing, since a name of the path is too long for a file. -/
  | nameTooLong
  | directory
  | file (content : ByteArray)

/-- Whether the path leads to something. -/
def FileEntry.isPresent : FileEntry → Bool
  | directory | file _ => true
  | _ => false

/-- Why a text cannot be read. -/
inductive ReadError where
  | notFound
  | notDirectory
  | isDirectory
  | nameTooLong
  | invalidText
  deriving DecidableEq, Repr

/-- The report of a text that cannot be read. -/
def ReadError.message : ReadError → String
  | notFound =>
      "Os \x7b code: 2, kind: NotFound, "
        ++ "message: \"No such file or directory\" \x7d"
  | notDirectory =>
      "Os \x7b code: 20, kind: NotADirectory, "
        ++ "message: \"Not a directory\" \x7d"
  | isDirectory =>
      "Os \x7b code: 21, kind: IsADirectory, "
        ++ "message: \"Is a directory\" \x7d"
  | nameTooLong =>
      "Os \x7b code: 36, kind: InvalidFilename, "
        ++ "message: \"File name too long\" \x7d"
  | invalidText =>
      "Error \x7b kind: InvalidData, "
        ++ "message: \"stream did not contain valid UTF-8\" \x7d"

/-- The text that a path leads to. -/
def FileEntry.read : FileEntry → Except ReadError String
  | missing => .error .notFound
  | behindFile => .error .notDirectory
  | nameTooLong => .error .nameTooLong
  | directory => .error .isDirectory
  | file content =>
      match String.fromUTF8? content with
      | some text => .ok text
      | none => .error .invalidText

/-- What a call prints, and its exit code. -/
structure Report where
  exitCode : Nat
  output : String
  log : String
  deriving DecidableEq, Repr

/-- The exit code of a wrong command line. -/
def usageExitCode : Nat := 2

/-- A call that has ended early: `log` was printed, then the error. -/
def Report.failure (log message : String) : Report :=
  ⟨1, "", log ++ "Error: " ++ message ++ "\n"⟩

/-- The texts that a run needs, and what was printed while they were
read. -/
structure Invocation where
  source : String
  input : String
  log : String
  deriving DecidableEq, Repr

/-- The input text: what the command line gives, or what a file holds, or
nothing. -/
def Options.readInput (o : Options) (lookup : String → FileEntry) :
    Except ReadError String :=
  match o.input, o.inputFile with
  | some text, _ => .ok text
  | none, some path => (lookup path).read
  | none, none => .ok ""

/-- Reads the program and its input. The first text that cannot be read ends
the call. -/
def Options.load (o : Options) (lookup : String → FileEntry) :
    Except Report Invocation :=
  let entry := lookup o.file
  if entry.isPresent then
    let log := "Loading " ++ o.file ++ "...\n"
    match entry.read, o.readInput lookup with
    | .error e, _ => .error (.failure log e.message)
    | .ok _, .error e => .error (.failure log e.message)
    | .ok source, .ok input => .ok ⟨source, input, log⟩
  else .error (.failure "" ("File '" ++ o.file ++ "' not found"))

end TapeDebugger
