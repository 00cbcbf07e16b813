/-
The program pane:

* `sum?` and `difference?`: arithmetic on numbers of 64 binary digits, which
  fails where a result is not one;
* `Highlight`: the character that is marked, if any;
* `ProgramPane.charStyle`: the colours of instructions and comments;
* `ProgramPane.Typeset`: the program set in lines, character by character;
* `ProgramPane.styledLines`: the program as styled lines, and the line of the
  highlight;
* `ProgramPane.scrollTo`: the first line shown, so that the highlight is on
  the screen;
* `ProgramPane.scrollTo?`: the same line worked out in this arithmetic;
* `ProgramPane.view`: the pane and its new scroll offset.

Positions count across line feeds, as the machine's do.
-/
import TapeDebugger.Instruction
import TapeDebugger.Pane.Palette
import TapeDebugger.Screen.Basic

namespace TapeDebugger

/-! ### Numbers of 64 binary digits -/

/-- The sum of two numbers, `none` if it has more than 64 binary
digits. -/
def sum? (a b : Nat) : Option Nat :=
  if a + b < UInt64.size then some (a + b) else none

/-- The difference of two numbers, `none` if it is negative. -/
def difference? (a b : Nat) : Option Nat :=
  if b ≤ a then some (a - b) else none

/-! ### The highlight -/

/-- The character of the program that is marked. -/
inductive Highlight where
  | none
  /-- The next instruction. -/
  | counter (index : Nat)
  /-- The place of an error. -/
  | error (index : Nat)
  deriving DecidableEq, Repr

namespace Highlight

/-- The position that is marked. -/
def index? : Highlight → Option Nat
  | none => .none
  | counter i | error i => some i

/-- The style of the mark. -/
def style : Highlight → Style
  | error _ => { fg := some .black, bg := some Palette.error }
  | _ => pointerStyle

end Highlight

namespace ProgramPane

/-- The style of a character that is not marked. -/
def charStyle (c : Char) : Style :=
  match Instruction.ofChar? c with
  | some .breakpoint => { fg := some Palette.breakpoint, bold := true }
  | some i => .ofColor (if i.isLoop then Palette.bracket else Palette.text)
  | none => .ofColor Palette.comment

/-- The style of the character `c` at position `pos`. -/
def styleAt (h : Highlight) (pos : Nat) (c : Char) : Style :=
  if h.index? = some pos then h.style else charStyle c

/-! ### Setting a program in lines -/

/-- The lines of a program up to some character. The line begun consists of
`spans` and, behind them, of the characters of `run`. Lines, spans and
characters are in reverse order. -/
structure Typeset where
  lines : List Line := []
  spans : List Span := []
  /-- The characters that are not yet in a span. -/
  run : List Char := []
  /-- The style of the run, or of an earlier one if there is none. -/
  style : Style := .plain
  /-- The line of the highlight, once it is reached. -/
  marked? : Option Nat := none

namespace Typeset

/-- The spans of the line begun, the run among them. -/
def closed (t : Typeset) : List Span :=
  if t.run.isEmpty then t.spans else ⟨t.run.reverse, t.style⟩ :: t.spans

/-- The line of the highlight, if it is reached at position `pos` or was
before. -/
def mark? (h : Highlight) (pos : Nat) (t : Typeset) : Option Nat :=
  if h.index? = some pos then some t.lines.length else t.marked?

/-- Ends the line at a line feed. A marked line feed shows as a marked space
at the end of its line. -/
def endLine (h : Highlight) (pos : Nat) (t : Typeset) : Typeset :=
  let spans :=
    if h.index? = some pos then ⟨[' '], h.style⟩ :: t.closed else t.closed
  { t with
    lines := spans.reverse :: t.lines
    spans := []
    run := []
    marked? := t.mark? h pos }

/-- Adds a character to the line, and to the run if it has its style. -/
def addChar (h : Highlight) (pos : Nat) (c : Char) (t : Typeset) : Typeset :=
  let style := styleAt h pos c
  let continued :=
    if style = t.style then t else { t with spans := t.closed, run := [] }
  { continued with
    run := c :: continued.run
    style
    marked? := t.mark? h pos }

/-- Adds the character `c` at position `pos`. -/
def add (h : Highlight) (t : Typeset) : Char × Nat → Typeset
  | (c, pos) => if c = '\n' then t.endLine h pos else t.addChar h pos c

/-- All lines, the one begun among them. -/
def finished (t : Typeset) : List Line :=
  (t.closed.reverse :: t.lines).reverse

end Typeset

/-- The program as styled lines, and the line of the highlight, which is
`none` if the highlight is outside the program. -/
def styledLines (source : String) (h : Highlight) :
    List Line × Option Nat :=
  let t := source.toList.zipIdx.foldl (Typeset.add h) {}
  (t.finished, t.marked?)

/-! ### The pane -/

/-- The first of `count` lines that is shown in a window of `visible` lines:
`scroll` moved as little as brings the highlighted line into the window, and
never beyond the last line. -/
def scrollTo (count visible : Nat) (line? : Option Nat) (scroll : Nat) :
    Nat :=
  let moved :=
    match line? with
    | some line =>
        if line < scroll then line
        else if scroll + visible ≤ line then line + 1 - visible
        else scroll
    | none => scroll
  min moved (count - 1)

/-- The offset `scrollTo`, `none` if a number on the way to it is not one of
64 binary digits. -/
def scrollTo? (count visible : Nat) (line? : Option Nat) (scroll : Nat) :
    Option Nat := do
  let moved ←
    match line? with
    | some line =>
        if line < scroll then some line
        else do
          let stop ← sum? scroll visible
          if stop ≤ line then
            let next ← sum? line 1
            difference? next visible
          else some scroll
    | none => some scroll
  return min moved (count - 1)

/-- The pane on an area, and its new scroll offset. -/
def view (area : Area) (source : String) (h : Highlight) (scroll : Nat) :
    Nat × Placement :=
  let (lines, line?) := styledLines source h
  let visible := visibleLines area.height
  let scroll := scrollTo lines.length visible line? scroll
  let panel : Panel := {
    border := some ⟨" Program ", borderStyle true⟩
    lines := (lines.drop scroll).take visible }
  (scroll, ⟨panel, area⟩)

end ProgramPane

end TapeDebugger
