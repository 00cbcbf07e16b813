/-
Lines of styled text and how they fall into columns:

* `Span` and `Line`: stretches of text in one style, and a row of them;
* `Line.symbols`: the symbols of a line, each with its style;
* `Mark`: what a line leaves in one column;
* `Line.marks`: the columns of a line that is cut to a width.
-/
import TapeDebugger.Screen.Style
import TapeDebugger.Text.Columns

namespace TapeDebugger

/-! ### Spans and lines -/

/-- A stretch of text in one style. -/
structure Span where
  chars : List Char
  style : Style
  deriving DecidableEq, Repr

namespace Span

/-- The span of a text. -/
def ofString (text : String) (style : Style) : Span :=
  ⟨text.toList, style⟩

/-- The symbols of a span, each with its style. A mark does not combine with
a character of another span. -/
def symbols (s : Span) : List (List Char × Style) :=
  (clusters s.chars).map fun symbol => (symbol, s.style)

end Span

/-- A line of text. -/
abbrev Line := List Span

/-- The symbols of a line, each with its style. -/
def Line.symbols (l : Line) : List (List Char × Style) :=
  l.flatMap Span.symbols

/-- The line of a text in a style that leaves everything open. -/
def Line.ofChars (chars : List Char) : Line :=
  [⟨chars, .plain⟩]

/-! ### Lines of plain text -/

/-- Puts an element in front of the first of some lists. -/
def consFirst {α : Type} (a : α) : List (List α) → List (List α)
  | [] => [[a]]
  | first :: others => (a :: first) :: others

/-- The pieces of a text between its line feeds. -/
def splitLines (chars : List Char) : List (List Char) :=
  chars.foldr
    (fun c pieces => if c = '\n' then [] :: pieces else consFirst c pieces)
    [[]]

/-- Takes a carriage return off the end. -/
def dropReturn (chars : List Char) : List Char :=
  if chars.getLast? = some '\r' then chars.dropLast else chars

/-- The lines of a text, each ended by a line feed, before which a carriage
return is not part of the line. What follows the last line feed is a line if
it is not empty. -/
def textLines (chars : List Char) : List (List Char) :=
  let pieces := splitLines chars
  let ended := pieces.dropLast.map dropReturn
  match pieces.getLast? with
  | some (c :: rest) => ended ++ [c :: rest]
  | _ => ended

/-! ### Columns -/

/-- What a line leaves in one column. -/
inductive Mark where
  /-- The place stays as it was. -/
  | keep
  /-- A symbol, its style laid over that of the place. -/
  | glyph (symbol : List Char) (style : Style)
  deriving DecidableEq, Repr

/-- The place after a mark was made on it. -/
def Mark.on (cell : Cell) : Mark → Cell
  | keep => cell
  | glyph symbol style => ⟨symbol, cell.style.overlay style⟩

/-- The side of a panel that its lines keep to. -/
inductive Alignment where
  | left
  | right
  deriving DecidableEq, Repr

/-- The marks of symbols in the `room` that is left of `width` columns. A
symbol leaves its mark in the first of its columns. The marks end before the
first symbol that does not fit; a symbol wider than the whole width is left
out, as is one without columns. -/
def fill (width : Nat) : (room : Nat) → List (List Char × Style) → List Mark
  | _, [] => []
  | room, (symbol, style) :: rest =>
      let n := symbolColumns symbol
      if n = 0 ∨ width < n then fill width room rest
      else if room < n then []
      else
        .glyph symbol style ::
          (List.replicate (n - 1) .keep ++ fill width (room - n) rest)

/-- The columns of a line that is cut to a width and then, if it is to keep
to the right, moved there. -/
def Line.marks (width : Nat) (alignment : Alignment) (l : Line) :
    List Mark :=
  let marks := fill width width l.symbols
  match alignment with
  | .left => marks
  | .right => List.replicate (width - marks.length) .keep ++ marks

end TapeDebugger
