/-
Rectangles of the screen:

* `Area`: a corner and a size; it may be empty;
* `Area.inter`: the common part of two;
* `Area.limited`: shrunk to no more places than a screen can have;
* `Area.inset` and `Area.indent`: less a margin on all sides or on the left;
* `Area.columnsBetween` and `Area.rowsBetween`: the part between two
  percentages of the width or the height;
* `Area.aboveLast` and `Area.lastRow`: the bottom row split off.
-/
import TapeDebugger.Binary

namespace TapeDebugger

/-- A rectangle of the screen. -/
structure Area where
  x : Nat
  y : Nat
  width : Nat
  height : Nat
  deriving DecidableEq, Repr

namespace Area

/-- Whether a place lies in the area. -/
def contains (a : Area) (x y : Nat) : Bool :=
  a.x ≤ x && x < a.x + a.width && a.y ≤ y && y < a.y + a.height

/-- The common part of two areas. -/
def inter (a b : Area) : Area where
  x := max a.x b.x
  y := max a.y b.y
  width := min (a.x + a.width) (b.x + b.width) - max a.x b.x
  height := min (a.y + a.height) (b.y + b.height) - max a.y b.y

/-- The area less one place on each side. -/
def inset (a : Area) : Area :=
  ⟨a.x + 1, a.y + 1, a.width - 2, a.height - 2⟩

/-- The area less some columns on the left. -/
def indent (a : Area) (n : Nat) : Area :=
  { a with x := a.x + n, width := a.width - n }

/-! ### The largest size -/

/-- The largest number of places of a screen or of an area. -/
def maxPlaces : Nat := 65535

/-- The area, shrunk in both directions in proportion if it has more places
than a screen can have. The size of the largest area of the same shape is
worked out in numbers of 53 binary digits and then rounded down. -/
def limited (a : Area) : Area :=
  if a.width * a.height ≤ maxPlaces then a
  else
    let shape := Binary.quotient a.width a.height
    let square :=
      Binary.quotient (maxPlaces <<< shape.scale) shape.mantissa
    let height := square.root
    { a with width := (height.mul shape).floor, height := height.floor }

/-! ### Shares -/

/-- Where columns and rows end: no area that is shared out goes beyond. -/
def farEnd : Nat := 65535

/-- The part of a size that lies before the far end, counted from `start`. -/
def sizeBeforeEnd (start size : Nat) : Nat :=
  min size (farEnd - start)

/-- A percentage of a size, a half rounded up. -/
def share (size percent : Nat) : Nat :=
  (2 * size * percent + 100) / 200

/-- The columns between two percentages of the width. -/
def columnsBetween (a : Area) (lo hi : Nat) : Area :=
  let size := sizeBeforeEnd a.x a.width
  { a with
    x := a.x + share size lo
    width := share size hi - share size lo }

/-- The rows between two percentages of the height. -/
def rowsBetween (a : Area) (lo hi : Nat) : Area :=
  let size := sizeBeforeEnd a.y a.height
  { a with
    y := a.y + share size lo
    height := share size hi - share size lo }

/-- All rows but the last. -/
def aboveLast (a : Area) : Area :=
  { a with height := a.height - 1 }

/-- The last row, if there is one. -/
def lastRow (a : Area) : Area :=
  { a with y := a.y + (a.height - 1), height := min a.height 1 }

end Area

end TapeDebugger
