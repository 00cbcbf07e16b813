/-
The screen and what is put on it:

* `Screen`: a size and a symbol with its style at every place;
* `Screen.paint`: changes the places of an area;
* `Screen.rows`: what the screen shows;
* `Panel`: lines of text with an optional border and title;
* `Placement`: a panel and the area that it is meant for;
* `Screen.draw`: puts panels on the screen;
* `Screen.draw?`: the same, if no symbol of a line falls off the screen.

A panel first lays its base style over the whole area, then draws the border
around the part that lies on the screen, and then writes its lines from the
top of what is left inside the area.
-/
import TapeDebugger.Screen.Line
import TapeDebugger.Screen.Area

namespace TapeDebugger

/-! ### The screen -/

/-- Whether the symbol of a place takes more than one column. -/
def Cell.isWide (c : Cell) : Bool :=
  1 < symbolColumns c.symbol

/-- A screen of the given size. What `cell` says of places beyond the size
is not shown. -/
structure Screen where
  width : Nat
  height : Nat
  /-- The place in the given column and row. -/
  cell : (x y : Nat) → Cell

namespace Screen

/-- The empty screen of a size, which is limited. -/
def blank (width height : Nat) : Screen :=
  let a := Area.limited ⟨0, 0, width, height⟩
  ⟨a.width, a.height, fun _ _ => .blank⟩

/-- The whole screen. -/
def area (s : Screen) : Area :=
  ⟨0, 0, s.width, s.height⟩

/-- Changes each place of an area by a function of its column and row within
the area. -/
def paint (s : Screen) (a : Area) (f : (x y : Nat) → Cell → Cell) :
    Screen :=
  { s with
    cell := fun x y =>
      if a.contains x y then f (x - a.x) (y - a.y) (s.cell x y)
      else s.cell x y }

/-- Makes the marks of each row on an area. -/
def write (s : Screen) (a : Area) (rows : Array (Array Mark)) : Screen :=
  s.paint a fun x y c =>
    match rows[y]? with
    | some row => (row[x]?.getD .keep).on c
    | none => c

/-- Whether the symbol of the place before a given one, which in the first
column is the last one of the row above, takes more than one column. -/
def covered (s : Screen) : (x y : Nat) → Bool
  | 0, 0 => false
  | 0, y + 1 => (s.cell (s.width - 1) y).isWide
  | x + 1, y => (s.cell x y).isWide

/-- What a place shows. A wide symbol covers the place after its own, which
shows nothing of what it holds. -/
def shown (s : Screen) (x y : Nat) : Cell :=
  if s.covered x y then .blank else s.cell x y

/-- What the screen shows, row by row. -/
def rows (s : Screen) : List (List Cell) :=
  (List.range s.height).map fun y =>
    (List.range s.width).map fun x => s.shown x y

end Screen

/-! ### Borders -/

/-- A border with its title. -/
structure Border where
  title : String
  style : Style
  deriving DecidableEq, Repr

/-- The border character at a place of an area of the given size, `none`
inside. Where sides coincide the upper one wins, then the left one. -/
def borderChar (width height x y : Nat) : Option Char :=
  if y = 0 then
    some (if x = 0 then '┌' else if x + 1 = width then '┐' else '─')
  else if y + 1 = height then
    some (if x = 0 then '└' else if x + 1 = width then '┘' else '─')
  else if x = 0 ∨ x + 1 = width then some '│'
  else none

/-- The character of the title at a place of the top row: the title starts
in the second column and ends before the last. -/
def titleChar (title : Array Char) (width x y : Nat) : Option Char :=
  if y = 0 ∧ 0 < x ∧ x + 1 < width then title[x - 1]? else none

/-- Draws a border and its title around the part of an area that lies on the
screen. -/
def Border.draw (b : Border) (a : Area) (s : Screen) : Screen :=
  let a := a.inter s.area
  let title := b.title.toList.toArray
  s.paint a fun x y c =>
    let char? :=
      (titleChar title a.width x y).or (borderChar a.width a.height x y)
    match char? with
    | some char => ⟨[char], c.style.overlay b.style⟩
    | none => c

/-! ### Panels -/

/-- The lines that fit between the borders of an area of the given height;
a window of them holds at least one. -/
def visibleLines (height : Nat) : Nat :=
  max (height - 2) 1

/-- Lines of text in an area. -/
structure Panel where
  border : Option Border := none
  /-- The style of the whole area. -/
  base : Style := .plain
  /-- The columns left free inside the border on the left. -/
  indent : Nat := 0
  alignment : Alignment := .left
  lines : List Line

namespace Panel

/-- The part of an area that is left for the lines. -/
def inner (p : Panel) (a : Area) : Area :=
  match p.border with
  | some _ => a.inset.indent p.indent
  | none => a.indent p.indent

/-- The marks of the lines, from the top of what is left for them. -/
def marks (p : Panel) (a : Area) : List (List Mark) :=
  let inside := p.inner a
  (p.lines.take inside.height).map fun l => l.marks inside.width p.alignment

end Panel

/-! ### Placements -/

/-- A panel and the area that it is meant for, which need not lie on the
screen. -/
structure Placement where
  panel : Panel
  area : Area

namespace Placement

/-- What the panel leaves for its lines. -/
def inside (p : Placement) : Area :=
  p.panel.inner p.area

/-- Lays the base style of the panel over an area. -/
def paintBase (p : Placement) (a : Area) (s : Screen) : Screen :=
  s.paint a fun _ _ c => { c with style := c.style.overlay p.panel.base }

/-- Draws the panel on the screen. What falls off the screen is lost. -/
def draw (p : Placement) (s : Screen) : Screen :=
  let s := p.paintBase p.area s
  let s :=
    match p.panel.border with
    | some b => b.draw p.area s
    | none => s
  let s := p.paintBase p.inside s
  let rows := (p.panel.marks p.area).map List.toArray
  s.write p.inside rows.toArray

/-- Whether every symbol of the lines falls on a screen that takes up the
given area. -/
def fits (p : Placement) (screen : Area) : Bool :=
  (p.panel.marks p.area).zipIdx.all fun (row, y) =>
    row.zipIdx.all fun (mark, x) =>
      mark == .keep || screen.contains (p.inside.x + x) (p.inside.y + y)

end Placement

namespace Screen

/-- Draws panels one after the other. -/
def draw (s : Screen) (l : List Placement) : Screen :=
  l.foldl (fun s p => p.draw s) s

/-- Draws panels one after the other, provided that all their lines fit. -/
def draw? (s : Screen) (l : List Placement) : Option Screen :=
  if l.all fun p => p.fits s.area then some (s.draw l) else none

end Screen

end TapeDebugger
