/-
The colours of the debugger's screen:

* `Palette`: one colour for each role;
* `borderStyle`: the border of a pane, with or without the focus;
* `pointerStyle`: the mark of the cell or character that is current.
-/
import TapeDebugger.Screen.Style

namespace TapeDebugger

namespace Palette

/-- Ordinary text. -/
def text : Color := .rgb 205 214 244

/-- The program counter of the status bar. -/
def primary : Color := .rgb 137 180 250

/-- The badge of a paused run. -/
def secondary : Color := .rgb 250 179 135

/-- Comments, zero cells and other text in the background. -/
def comment : Color := .rgb 108 112 134

/-- The badge of an active run. -/
def success : Color := .rgb 166 227 161

/-- Errors. -/
def error : Color := .rgb 243 139 168

/-- Loop brackets. -/
def bracket : Color := .rgb 137 180 250

/-- Breakpoint markers. -/
def breakpoint : Color := .rgb 245 194 231

/-- The border of a pane with the focus, and the keys of the status bar. -/
def borderFocused : Color := .rgb 249 226 175

/-- The border of a pane without the focus. -/
def borderNormal : Color := .rgb 108 112 134

/-- The background of the status bar. -/
def bar : Color := .rgb 50 50 70

/-- The background of what is current. -/
def pointer : Color := .rgb 249 226 175

/-- The addresses of the memory dump. -/
def address : Color := .rgb 148 226 213

end Palette

/-- The border of a pane. -/
def borderStyle (focused : Bool) : Style :=
  if focused then { fg := some Palette.borderFocused, bold := true }
  else .ofColor Palette.borderNormal

/-- The mark of the current cell or character. -/
def pointerStyle : Style where
  fg := some .black
  bg := some Palette.pointer
  bold := true

end TapeDebugger
