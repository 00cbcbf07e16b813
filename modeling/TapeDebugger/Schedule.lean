/-
The timing of a run that is executed in batches:

* `Schedule`: the mode of the active run, if any, and when its next batch is
  due;
* `Schedule.arm` and `Schedule.cancel`: begin and end a run;
* `Schedule.takeDue`: takes the batch that is due, if one is, and puts the
  next one a whole interval later;
* `Schedule.untilNext`: how long the next batch is away.

The time is an argument of each operation. A deadline must not lie beyond
the latest time; `Schedule.fits` says when it does not.
-/
import TapeDebugger.Time
import TapeDebugger.Machine.Run

namespace TapeDebugger

/-- The timing of a batched run. -/
structure Schedule where
  /-- The mode of the active run, `none` while idle. -/
  active : Option RunMode
  /-- When the next batch is due, if a run is active. -/
  deadline : Time
  /-- The time between two batches. -/
  interval : Time
  deriving DecidableEq, Repr

namespace Schedule

/-- An idle schedule. -/
def idle (interval : Time) : Schedule :=
  ⟨none, 0, interval⟩

/-- Whether a run is active. -/
def isActive (s : Schedule) : Bool :=
  s.active.isSome

/-- Begins a run whose first batch is due one interval from `now`. -/
def arm (s : Schedule) (mode : RunMode) (now : Time) : Schedule :=
  { s with active := some mode, deadline := now + s.interval }

/-- Ends the run, if one is active. -/
def cancel (s : Schedule) : Schedule :=
  { s with active := none }

/-- Whether a batch is due at `now`. -/
def isDue (s : Schedule) (now : Time) : Bool :=
  s.isActive && s.deadline ≤ now

/-- The mode of the batch due at `now`, `none` if none is due. Taking a
batch puts the next one a whole interval after `now`, however late `now`
is. -/
def takeDue (s : Schedule) (now : Time) : Option RunMode × Schedule :=
  if s.isDue now then (s.active, { s with deadline := now + s.interval })
  else (none, s)

/-- The time from `now` to the next batch, zero if it is overdue and `none`
while idle. -/
def untilNext (s : Schedule) (now : Time) : Option Time :=
  s.active.map fun _ => s.deadline - now

/-! ### Deadlines that can be told -/

/-- Whether the deadline one interval after `now` can be told. -/
def fits (s : Schedule) (now : Time) : Bool :=
  Time.tellable (now + s.interval)

/-- Begins a run, unless its deadline cannot be told. -/
def arm? (s : Schedule) (mode : RunMode) (now : Time) : Option Schedule :=
  if s.fits now then some (s.arm mode now) else none

/-- Takes the batch that is due, unless the next deadline cannot be told. -/
def takeDue? (s : Schedule) (now : Time) :
    Option (Option RunMode × Schedule) :=
  if s.isDue now && !s.fits now then none else some (s.takeDue now)

end Schedule

end TapeDebugger
