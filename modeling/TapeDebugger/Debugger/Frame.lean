/-
The debugger on the screen:

* `Debugger.view`: all panes and the status bar, each on its area;
* `Debugger.frame`: draws them, but only if the screen is outdated.

The status bar takes the last row. Of the rest, the memory dump takes the
right 55 percent; the left column holds the program, the input and the
output, which take 60, 15 and 25 percent of the height.
-/
import TapeDebugger.Debugger.Basic
import TapeDebugger.Pane.Terminal
import TapeDebugger.Pane.Status

namespace TapeDebugger

namespace Debugger

/-- The panes and the status bar on an area. Showing them may move the
scroll offsets of the program and of the output. -/
def view (d : Debugger) (area : Area) : List Placement × Debugger :=
  let panes := area.aboveLast
  let left := panes.columnsBetween 0 45
  let machine := d.session.machine
  let (programScroll, program) :=
    ProgramPane.view (left.rowsBetween 0 60) d.source d.highlight
      d.programScroll
  let input := InputPane.view (left.rowsBetween 60 75) d.pendingInput
  let (outputScroll, output) :=
    OutputPane.view (left.rowsBetween 75 100) machine.output
      (d.focus == .output) d.outputScroll
  let memory :=
    MemoryPane.view (panes.columnsBetween 45 100)
      machine.store.tape.cells.toArray machine.store.pointer d.memoryOffset
      (d.focus == .memory)
  let bar :=
    StatusBar.view area.lastRow d.status d.session.runState machine.pc
      d.hasError
  (program :: input :: output :: memory :: bar,
    { d with programScroll, outputScroll })

/-- Draws the debugger on a blank screen if the screen is outdated, and
nothing otherwise. -/
def frame (d : Debugger) (width height : Nat) : Screen × Debugger :=
  let blank := Screen.blank width height
  if d.outdated then
    let (placements, d) := d.view blank.area
    (blank.draw placements, { d with outdated := false })
  else (blank, d)

end Debugger

end TapeDebugger
