/-
The memory pane:

* `DumpRow` and `dumpRows`: the memory in rows of eight cells from a row
  boundary on;
* `MemoryPane.rowLine`: a row as an address, the cells in decimal, and the
  same cells as text;
* `MemoryPane.view`: the pane, with the cell under the pointer marked.

A row reads `00008: 072 105 000 000 000 000 000 000 Hi......`.
-/
import TapeDebugger.Pane.Palette
import TapeDebugger.Screen.Basic

namespace TapeDebugger

/-! ### Rows of the dump -/

/-- The cells of one row. -/
def cellsPerRow : Nat := 8

/-- The rows of one page. -/
def rowsPerPage : Nat := 64

/-- One row of the memory dump. -/
structure DumpRow where
  /-- The address of the first cell. -/
  address : Nat
  cells : List UInt8
  deriving DecidableEq, Repr

/-- Up to `rows` rows from an address on; the last one may be short. -/
def dumpFrom (memory : Array UInt8) : (rows address : Nat) → List DumpRow
  | 0, _ => []
  | rows + 1, address =>
      if address < memory.size then
        ⟨address, (memory.extract address (address + cellsPerRow)).toList⟩
          :: dumpFrom memory rows (address + cellsPerRow)
      else []

/-- The address of the first row shown: the offset rounded down to a row
boundary, and no further than the end of the memory. -/
def dumpStart (size offset : Nat) : Nat :=
  min (offset / cellsPerRow * cellsPerRow) size

/-- Up to `rows` rows from the row boundary at or below `offset` on. -/
def dumpRows (memory : Array UInt8) (offset rows : Nat) : List DumpRow :=
  dumpFrom memory rows (dumpStart memory.size offset)

/-- A number in decimal, filled up with zeros to a width. -/
def padNumber (n width : Nat) : List Char :=
  let digits := Nat.toDigits 10 n
  List.replicate (width - digits.length) '0' ++ digits

/-- A cell as a character, with a point for control characters. -/
def cellChar (cell : UInt8) : Char :=
  let c := Char.ofNat cell.toNat
  if isControl c then '.' else c

/-! ### The pane -/

namespace MemoryPane

/-- The style of a cell that is not under the pointer, in decimal. -/
def valueStyle (cell : UInt8) : Style :=
  .ofColor (if cell = 0 then Palette.comment else Palette.text)

/-- The style of the cell at an address, which is `other` except under the
pointer. -/
def markedStyle (pointer address : Nat) (other : Style) : Style :=
  if address = pointer then pointerStyle else other

/-- The cells from an address on in decimal, each followed by a space. -/
def valueSpans (pointer : Nat) : (address : Nat) → List UInt8 → List Span
  | _, [] => []
  | address, cell :: rest =>
      ⟨padNumber cell.toNat 3, markedStyle pointer address (valueStyle cell)⟩
        :: ⟨[' '], .plain⟩ :: valueSpans pointer (address + 1) rest

/-- The cells from an address on as text. -/
def charSpans (pointer : Nat) : (address : Nat) → List UInt8 → List Span
  | _, [] => []
  | address, cell :: rest =>
      ⟨[cellChar cell], markedStyle pointer address (.ofColor Palette.text)⟩
        :: charSpans pointer (address + 1) rest

/-- One row of the dump as a line. -/
def rowLine (pointer : Nat) (row : DumpRow) : Line :=
  ⟨padNumber row.address 5 ++ [':', ' '], .ofColor Palette.address⟩
    :: (valueSpans pointer row.address row.cells
      ++ charSpans pointer row.address row.cells)

/-- The title, with the pointer and the cell under it. A pointer outside the
memory shows a zero. -/
def title (memory : Array UInt8) (pointer : Nat) : String :=
  " Memory (ptr " ++ toString pointer ++ " = "
    ++ toString (memory[pointer]?.getD 0).toNat ++ ") "

/-- The pane on an area. -/
def view (area : Area) (memory : Array UInt8) (pointer offset : Nat)
    (focused : Bool) : Placement :=
  let rows := dumpRows memory offset (min rowsPerPage (area.height - 2))
  let panel : Panel := {
    border := some ⟨title memory pointer, borderStyle focused⟩
    lines := rows.map (rowLine pointer) }
  ⟨panel, area⟩

end MemoryPane

end TapeDebugger
