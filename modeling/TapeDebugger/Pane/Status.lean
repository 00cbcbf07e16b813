/-
The status bar:

* `StatusBar.badge`: the state of the run in a word and a colour;
* `StatusBar.report`: the left half, with the badge, the program counter and
  a message;
* `StatusBar.hints`: the right half, with the keys;
* `StatusBar.view`: both halves on an area.
-/
import TapeDebugger.Pane.Palette
import TapeDebugger.Screen.Basic
import TapeDebugger.Session.Basic

namespace TapeDebugger

namespace StatusBar

/-- The state of the run in a word and a colour; an error goes before
everything else. -/
def badge (state : RunState) (hasError : Bool) : String × Color :=
  if hasError then (" Error ", Palette.error)
  else
    match state with
    | .halted => (" Idle ", Palette.comment)
    | .paused => (" Paused ", Palette.secondary)
    | .running .continuous => (" Running ", Palette.success)
    | .running .breakpoint => (" Running to * ", Palette.success)

/-- Text of the given colour on the background of the bar. -/
def onBar (fg : Color) (bold : Bool) : Style where
  fg := some fg
  bg := some Palette.bar
  bold := bold

/-- The left half of the bar. -/
def report (message : String) (state : RunState) (pc : Nat)
    (hasError : Bool) : Line :=
  let (word, color) := badge state hasError
  [.ofString word { fg := some .black, bg := some color, bold := true },
    .ofString (" PC " ++ toString pc ++ " ") (onBar Palette.primary false),
    .ofString " | " (onBar Palette.comment false),
    .ofString (" " ++ message ++ " ")
      (onBar (if hasError then Palette.error else Palette.text) false)]

/-- The keys and what they do. -/
def keys : List (String × String) :=
  [("r", "run"), ("b", "to *"), ("s", "step"), ("1-9", "step n"),
    ("p", "pause"), ("x", "stop"), ("q", "quit")]

/-- The right half of the bar. -/
def hints : Line :=
  keys.flatMap fun (key, action) =>
    [.ofString (" " ++ key) (onBar Palette.borderFocused true),
      .ofString (" " ++ action ++ " ") (onBar Palette.comment false)]

/-- The two halves of the bar on an area. -/
def view (area : Area) (message : String) (state : RunState) (pc : Nat)
    (hasError : Bool) : List Placement :=
  let base : Style := { bg := some Palette.bar }
  let left : Panel := { base, lines := [report message state pc hasError] }
  let right : Panel := { base, alignment := .right, lines := [hints] }
  [⟨left, area.columnsBetween 0 50⟩, ⟨right, area.columnsBetween 50 100⟩]

end StatusBar

end TapeDebugger
