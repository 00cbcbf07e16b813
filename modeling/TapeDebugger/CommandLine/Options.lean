/-
The options of the command line:

* `Options`: what the command line asks for;
* `Options.parse`: reads the arguments, `none` for a wrong command line.

An option is written `--name value` or `--name=value`. In the first form the
value must not begin with a hyphen, unless it is a single one. No option may
be given twice, and `--` ends the options.
-/
import TapeDebugger.Session.Basic

namespace TapeDebugger

/-- What the command line asks for. -/
structure Options where
  /-- The path of the program. -/
  file : String
  /-- The input text, if it is given. -/
  input : Option String
  /-- The path of the input, if it is given. -/
  inputFile : Option String
  /-- Whether to run without a screen. -/
  headless : Bool
  config : Config

namespace Options

/-! ### Values -/

/-- The largest number that an option takes. -/
def maxNumber : Nat := UInt64.size - 1

/-- A number in decimal digits, which a plus sign may precede. -/
def number? (text : String) : Option Nat :=
  let digits :=
    match text.toList with
    | '+' :: rest => rest
    | chars => chars
  if digits.isEmpty || !digits.all Char.isDigit then none
  else
    let n := digits.foldl (fun n c => 10 * n + (c.toNat - '0'.toNat)) 0
    if n ≤ maxNumber then some n else none

/-- A path, which must not be empty. -/
def path? (text : String) : Option String :=
  if text.isEmpty then none else some text

/-! ### Arguments -/

/-- The options read so far. -/
structure Draft where
  file : Option String := none
  input : Option String := none
  inputFile : Option String := none
  headless : Bool := false
  tick : Option Nat := none
  batchSize : Option Nat := none

namespace Draft

/-- Adds an argument that is no option. -/
def addFile (d : Draft) (text : String) : Option Draft := do
  let file ← path? text
  if d.file.isSome then none else some { d with file := some file }

/-- Adds the value of the option with the given name. -/
def addValue (d : Draft) (name value : String) : Option Draft :=
  match name with
  | "input" =>
      if d.input.isSome then none else some { d with input := some value }
  | "input-file" => do
      let path ← path? value
      if d.inputFile.isSome then none
      else some { d with inputFile := some path }
  | "tick-ms" => do
      let n ← number? value
      if d.tick.isSome then none else some { d with tick := some n }
  | "batch-size" => do
      let n ← number? value
      if d.batchSize.isSome then none
      else some { d with batchSize := some n }
  | _ => none

/-- Adds the flag `--headless`. -/
def addHeadless (d : Draft) : Option Draft :=
  if d.headless then none else some { d with headless := true }

end Draft

/-- The form of an argument before `--`. -/
inductive Argument where
  /-- The `--` that ends the options. -/
  | separator
  /-- The option `--name`. -/
  | long (name : String)
  /-- The option `--name=value`. -/
  | longWith (name value : String)
  /-- Anything else that begins with a hyphen. -/
  | short
  /-- An argument that is no option. -/
  | plain
  deriving DecidableEq, Repr

/-- The form of an argument. A single hyphen is no option. -/
def Argument.ofString (text : String) : Argument :=
  match text.toList with
  | ['-', '-'] => .separator
  | '-' :: '-' :: rest =>
      match rest.span (· != '=') with
      | (name, _ :: value) =>
          .longWith (String.ofList name) (String.ofList value)
      | (name, []) => .long (String.ofList name)
  | '-' :: _ :: _ => .short
  | _ => .plain

/-- Reads the arguments one after the other. -/
def readArguments : Draft → List String → Option Draft
  | d, [] => some d
  | d, text :: rest =>
      match Argument.ofString text with
      | .separator => rest.foldlM Draft.addFile d
      | .plain => do readArguments (← d.addFile text) rest
      | .longWith name value => do
          readArguments (← d.addValue name value) rest
      | .long "headless" => do readArguments (← d.addHeadless) rest
      | .long name =>
          match rest with
          | [] => none
          | value :: rest =>
              match Argument.ofString value with
              | .plain => do readArguments (← d.addValue name value) rest
              | _ => none
      | .short => none

/-- The options of a command line, `none` if it is wrong. The input and its
path exclude each other. -/
def parse (arguments : List String) : Option Options := do
  let d ← readArguments {} arguments
  let file ← d.file
  if d.input.isSome && d.inputFile.isSome then none
  else
    let interval :=
      (d.tick.map Time.ofMillis).getD Config.defaultInterval
    let batchSize := d.batchSize.getD Config.defaultBatchSize
    some {
      file
      input := d.input
      inputFile := d.inputFile
      headless := d.headless
      config :=
        (Config.standard.withInterval interval).withBatchSize batchSize }

end Options

end TapeDebugger
