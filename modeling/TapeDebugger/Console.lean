/-
What a program reads and writes:

* `Console`: the input not yet read and the output written so far;
* `Console.read`: takes the next input character as a byte;
* `Console.write`: appends a byte to the output as a character.
-/

namespace TapeDebugger

/-- The input and output of one run. -/
structure Console where
  /-- The input not yet read, next character first. -/
  pending : List Char
  /-- The output so far. -/
  written : String
  deriving DecidableEq, Repr

namespace Console

/-- A console with the given input and no output. -/
def ofInput (input : String) : Console :=
  ⟨input.toList, ""⟩

/-- The input not yet read, as text. -/
def remaining (c : Console) : String :=
  String.ofList c.pending

/-- The byte of an input character: the low eight bits of its code. -/
def byteOf (c : Char) : UInt8 :=
  UInt8.ofNat c.toNat

/-- The output character of a byte, in the range U+0000 to U+00FF. -/
def charOf (byte : UInt8) : Char :=
  Char.ofNat byte.toNat

/-- Takes the next input character as a byte. At the end of the input the
byte is zero, as often as one reads. -/
def read (c : Console) : UInt8 × Console :=
  match c.pending with
  | [] => (0, c)
  | next :: rest => (byteOf next, { c with pending := rest })

/-- Appends a byte to the output. -/
def write (c : Console) (byte : UInt8) : Console :=
  { c with written := c.written.push (charOf byte) }

end Console

end TapeDebugger
