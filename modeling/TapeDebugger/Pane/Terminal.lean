/-
The panes of what a program reads and writes:

* `InputPane.view`: the pane of the input that is not yet read;
* `OutputPane.window`: the scroll offset and the lines of the output that are
  shown;
* `OutputPane.view`: the pane of the output and its new scroll offset.
-/
import TapeDebugger.Pane.Palette
import TapeDebugger.Screen.Basic

namespace TapeDebugger

namespace InputPane

/-- The pane on an area. -/
def view (area : Area) (input : String) : Placement :=
  let chars := input.toList
  let panel : Panel := {
    border := some ⟨" Input ", borderStyle false⟩
    base := .ofColor (if chars.isEmpty then Palette.comment else Palette.text)
    lines :=
      if chars.isEmpty then [.ofChars "(empty)".toList]
      else (textLines chars).map Line.ofChars }
  ⟨panel, area⟩

end InputPane

namespace OutputPane

/-- A line of output with a point for each control character. -/
def printable (chars : List Char) : List Char :=
  chars.map fun c => if isControl c then '.' else c

/-- The lines of an output, which a line feed divides. -/
def lines (output : String) : List (List Char) :=
  (splitLines output.toList).map printable

/-- The scroll offset, cut to the last one that still fills a window of
`visible` lines, and the lines of that window. -/
def window (lines : List (List Char)) (visible scroll : Nat) :
    Nat × List (List Char) :=
  let scroll := min scroll (lines.length - visible)
  (scroll, (lines.drop scroll).take visible)

/-- The pane on an area, and its new scroll offset, which an empty output
leaves as it is. -/
def view (area : Area) (output : String) (focused : Bool) (scroll : Nat) :
    Nat × Placement :=
  let border : Border := ⟨" Output ", borderStyle focused⟩
  if output.isEmpty then
    let panel : Panel := {
      border := some border
      base := .ofColor Palette.comment
      lines := [.ofChars "(no output)".toList] }
    (scroll, ⟨panel, area⟩)
  else
    let (scroll, shown) :=
      window (lines output) (visibleLines area.height) scroll
    let panel : Panel := {
      border := some border
      base := .ofColor Palette.text
      indent := 1
      lines := shown.map Line.ofChars }
    (scroll, ⟨panel, area⟩)

end OutputPane

end TapeDebugger
