/-
Times in nanoseconds:

* `Time`: a point of a clock that starts at zero, or the span between two;
* `Time.latest`: the last time that a clock can show;
* `Time.add?`: the sum of two times, unless it lies beyond `Time.latest`.

The difference of two times is that of natural numbers, so it is zero where
the second is later.
-/

namespace TapeDebugger

/-- A time in nanoseconds. -/
abbrev Time := Nat

namespace Time

/-- The nanoseconds of one second. -/
def perSecond : Nat := 1000000000

/-- The nanoseconds of one millisecond. -/
def perMilli : Nat := 1000000

/-- A number of milliseconds. -/
def ofMillis (n : Nat) : Time := n * perMilli

/-- A number of seconds and the nanoseconds beyond them. -/
def ofSeconds (seconds nanos : Nat) : Time := seconds * perSecond + nanos

/-- The last time that can be told: the seconds fill 64 bits, and the
nanoseconds beyond them stay below one second. -/
def latest : Time := ofSeconds (UInt64.size - 1) (perSecond - 1)

/-- Whether a time can be told. -/
def tellable (t : Time) : Bool := t ≤ latest

/-- The sum of two times, `none` beyond the latest one. -/
def add? (t span : Time) : Option Time :=
  if tellable (t + span) then some (t + span) else none

end Time

end TapeDebugger
