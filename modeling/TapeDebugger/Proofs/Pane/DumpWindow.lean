/-
Which cells the memory dump shows.

* `flatMap_cells_dumpFrom`: the rows, one after the other, are a part of the
  memory;
* `length_dumpFrom`: how many rows there are;
* `DumpRow.addresses`, `flatMap_addresses_dumpFrom`: the addresses of their
  cells go up one by one, so that no cell is in them twice;
* `exists_first_row`: the row of the offset comes first;
* `Debugger.memoryPane`, `Debugger.memoryRows`: the memory pane of a debugger
  and the rows in it;
* `Debugger.dump_rows_cover_window`: what follows for every memory, and for
  the pane of every debugger.

The number of cells on the tape is a multiple of eight, and no key moves the
offset beyond the last of them, so that a row begins at or before the offset.
-/
import Mathlib.Tactic
import Mathlib.Algebra.Order.Floor.Div
import TapeDebugger.Proofs.Machine.Safety
import TapeDebugger.Proofs.Debugger.Looking
import TapeDebugger.Proofs.Pane.MemoryDump

namespace TapeDebugger

variable {memory : Array UInt8} {offset rows r : Nat} {row : DumpRow}

/-! ### The cells of the rows -/

/-- The cells between two addresses, as far as the memory goes. -/
lemma toList_extract_min (memory : Array UInt8) (address count : Nat) :
    (memory.extract address (min (address + count) memory.size)).toList =
      (memory.toList.drop address).take count := by
  rw [Array.toList_extract, List.extract_eq_take_drop, List.take_eq_take_iff,
    List.length_drop, Array.length_toList]
  omega

/-- The rows from an address on hold the cells from there on, eight in each,
as far as the memory goes. -/
lemma flatMap_cells_dumpFrom (memory : Array UInt8) (rows address : Nat) :
    (dumpFrom memory rows address).flatMap DumpRow.cells =
      (memory.toList.drop address).take (cellsPerRow * rows) := by
  induction rows generalizing address with
  | zero => rfl
  | succ rows ih =>
      rw [dumpFrom]
      split_ifs with hin
      · rw [List.flatMap_cons, ih, Nat.mul_succ, Nat.add_comm (cellsPerRow * _),
          List.take_add, List.drop_drop, Array.toList_extract,
          List.extract_eq_take_drop, Nat.add_sub_cancel_left]
      · have hnone : memory.toList.drop address = [] :=
          List.drop_eq_nil_of_le (by simpa using hin)
        rw [hnone]
        rfl

/-- There are as many rows as the cells from the address on need, unless there
is no room for them. -/
lemma length_dumpFrom (memory : Array UInt8) (rows address : Nat) :
    (dumpFrom memory rows address).length =
      min rows ((memory.size - address) ⌈/⌉ cellsPerRow) := by
  refine eq_of_forall_ge_iff fun r => ?_
  have hpos : 0 < cellsPerRow := by decide
  rw [← List.getElem?_eq_none_iff, getElem?_dumpFrom, min_le_iff,
    ceilDiv_le_iff_le_mul hpos, ite_eq_right_iff]
  simp only [reduceCtorEq, imp_false]
  omega

/-- A row that another one follows is full. -/
lemma length_cells_of_lt
    (h : (dumpRows memory offset rows)[r]? = some row)
    (hr : r + 1 < (dumpRows memory offset rows).length) :
    row.cells.length = cellsPerRow := by
  obtain ⟨-, haddress, -, hlength, -⟩ := of_getElem?_dumpRows h
  obtain ⟨-, hnext, hin, -⟩ :=
    of_getElem?_dumpRows (List.getElem?_eq_getElem hr)
  rw [Nat.mul_succ] at hnext
  omega

/-- The cells of a row are those of the memory from its address on. -/
lemma cells_eq_extract (h : (dumpRows memory offset rows)[r]? = some row) :
    row.cells = (memory.extract row.address
      (row.address + row.cells.length)).toList := by
  obtain ⟨-, -, -, hlength, -⟩ := of_getElem?_dumpRows h
  have hcells : row.cells =
      (memory.extract row.address (row.address + cellsPerRow)).toList := by
    rw [dumpRows, getElem?_dumpFrom] at h
    split_ifs at h
    rw [← Option.some.inj h]
  rw [hlength]
  refine hcells.trans ?_
  simp only [Array.toList_extract, List.extract_eq_take_drop,
    Nat.add_sub_cancel_left]
  rw [List.take_eq_take_iff, List.length_drop, Array.length_toList]
  omega

/-- The addresses of the cells of a row. -/
def DumpRow.addresses (row : DumpRow) : List Nat :=
  List.range' row.address row.cells.length

/-- The addresses go up one by one. -/
lemma flatMap_addresses_dumpFrom (memory : Array UInt8) (rows address : Nat) :
    (dumpFrom memory rows address).flatMap DumpRow.addresses =
      List.range' address
        (min (cellsPerRow * rows) (memory.size - address)) := by
  induction rows generalizing address with
  | zero => simp [dumpFrom]
  | succ rows ih =>
      rw [dumpFrom, Nat.mul_succ]
      split_ifs with hin
      · have hlength : (memory.extract address
            (address + cellsPerRow)).toList.length
              = min cellsPerRow (memory.size - address) := by simp
        rw [List.flatMap_cons, ih, DumpRow.addresses, hlength]
        obtain hshort | hfull :=
          Nat.lt_or_ge (memory.size - address) cellsPerRow
        · have hrest : memory.size - (address + cellsPerRow) = 0 := by omega
          rw [hrest, Nat.min_zero, List.range'_zero, List.append_nil,
            min_eq_right hshort.le, min_eq_right (by omega)]
        · rw [min_eq_left hfull, List.range'_append_1]
          congr 1
          omega
      · have hnone : memory.size - address = 0 := by omega
        rw [hnone, Nat.min_zero]
        rfl

/-- The first row is that of the offset, if the offset is in the memory. -/
lemma exists_first_row (hin : offset < memory.size) (hrows : 0 < rows) :
    ∃ row, (dumpRows memory offset rows)[0]? = some row ∧
      row.address ≤ offset ∧ offset < row.address + row.cells.length ∧
      row.cells[offset - row.address]? = memory[offset]? := by
  have hstart : dumpStart memory.size offset = offset / 8 * 8 := by
    rw [dumpStart, cellsPerRow]
    omega
  have hfirst : dumpStart memory.size offset + cellsPerRow * 0 < memory.size := by
    omega
  obtain ⟨row, hrow⟩ : ∃ row, (dumpRows memory offset rows)[0]? = some row := by
    rw [dumpRows, getElem?_dumpFrom, if_pos ⟨hrows, hfirst⟩]
    exact ⟨_, rfl⟩
  obtain ⟨-, haddress, -, hlength, hcells⟩ := of_getElem?_dumpRows hrow
  have height : cellsPerRow = 8 := rfl
  have hlow : row.address ≤ offset := by omega
  have hhigh : offset - row.address < row.cells.length := by omega
  refine ⟨row, hrow, hlow, by omega, ?_⟩
  rw [hcells _ hhigh, Nat.add_sub_cancel' hlow]

namespace Debugger

open MemoryPane (rowLine)

variable {d : Debugger} {screen : Area}

/-! ### The pane of a debugger -/

/-- The memory pane of a debugger on a screen. -/
def memoryPane (d : Debugger) (screen : Area) : Placement :=
  MemoryPane.view (screen.aboveLast.columnsBetween 45 100)
    d.session.machine.store.tape.cells.toArray d.session.machine.store.pointer
    d.memoryOffset (d.focus == .memory)

/-- The rows of the dump for which the pane has room. -/
def memoryRows (d : Debugger) (screen : Area) : List DumpRow :=
  dumpRows d.session.machine.store.tape.cells.toArray d.memoryOffset
    (min rowsPerPage (d.memoryPane screen).inside.height)

lemma memoryPane_mem_view (d : Debugger) (screen : Area) :
    d.memoryPane screen ∈ (d.view screen).1 := by
  simp [view, memoryPane]

/-- All of them are drawn. -/
lemma marks_memoryPane (d : Debugger) (screen : Area) :
    let pane := d.memoryPane screen
    pane.panel.marks pane.area =
      (d.memoryRows screen).map fun row =>
        (rowLine d.session.machine.store.pointer row).marks pane.inside.width
          .left := by
  intro pane
  have hroom : (d.memoryRows screen).length ≤ pane.inside.height := by
    rw [memoryRows, dumpRows, length_dumpFrom]
    exact (min_le_left _ _).trans (min_le_right _ _)
  have hlines : pane.panel.lines = (d.memoryRows screen).map
      (rowLine d.session.machine.store.pointer) := rfl
  rw [Panel.marks, hlines, ← List.map_take]
  show (((d.memoryRows screen).take pane.inside.height).map _).map _ = _
  rw [List.take_of_length_le hroom, List.map_map]
  rfl

/-- Where the offset is at a cell of the tape, the pane shows its row first, if
it has a row at all. -/
lemma exists_first_memoryRow (h : d.memoryOffset ≤ Tape.lastAddress)
    (hroom : 0 < (d.memoryPane screen).inside.height) :
    ∃ row, (d.memoryRows screen)[0]? = some row ∧
      row.address ≤ d.memoryOffset ∧
      d.memoryOffset < row.address + row.cells.length ∧
      row.cells[d.memoryOffset - row.address]? =
        d.session.machine.store.tape.cells.toArray[d.memoryOffset]? := by
  have hsize : d.session.machine.store.tape.cells.toArray.size = Tape.size :=
    Vector.size_toArray _
  have hlast : Tape.lastAddress < Tape.size := by decide
  have hpage : 0 < rowsPerPage := by decide
  exact exists_first_row (by omega) (by omega)

/-- The addresses of rows of the tape are multiples of eight. -/
lemma dvd_address_of_mem_memoryRows {row : DumpRow}
    (h : row ∈ d.memoryRows screen) : 8 ∣ row.address ∧ row.address < 30000 := by
  obtain ⟨r, hr⟩ := List.mem_iff_getElem?.mp h
  obtain ⟨-, haddress, hin, -⟩ := of_getElem?_dumpRows hr
  rw [Vector.size_toArray] at haddress hin
  have hsize : Tape.size = 30000 := rfl
  rw [dumpStart, cellsPerRow] at haddress
  omega

lemma nodup_addresses_memoryRows (d : Debugger) (screen : Area) :
    ((d.memoryRows screen).flatMap DumpRow.addresses).Nodup := by
  rw [memoryRows, dumpRows, flatMap_addresses_dumpFrom]
  exact List.nodup_range' 1

/-- **The rows of the dump cover the window exactly.** For every memory, offset
and number of rows: the cells of the rows, one after the other, are those of
the memory from the start on, which is the offset rounded down to a multiple of
eight; there are as many rows as these cells need, or as there is room for; the
rows begin eight addresses apart, and each of them but the last has eight
cells.

Whatever keys, ticks and frames reach a debugger: all rows of its memory pane
are drawn, and if there is room for a row, there is one. They begin at
multiples of eight on the tape, and no cell is shown twice. After a press of
the end key the first row has the cell under the pointer. -/
theorem dump_rows_cover_window :
    (∀ (memory : Array UInt8) (offset maxRows : Nat),
      let start := min (8 * (offset / 8)) memory.size
      let rows := dumpRows memory offset maxRows
      rows.flatMap DumpRow.cells =
          (memory.extract start
            (min (start + 8 * maxRows) memory.size)).toList ∧
        rows.length = min maxRows ((memory.size - start) ⌈/⌉ 8) ∧
        ∀ r row, rows[r]? = some row →
          let m := row.cells.length
          row.address = start + 8 * r ∧
            row.cells =
              (memory.extract row.address (row.address + m)).toList ∧
            (1 ≤ m ∧ m ≤ 8) ∧ (r + 1 < rows.length → m = 8)) ∧
      ∀ (session : Session) (source input : String) (signals : List Signal)
        (screen : Area),
        let d := (new session source input).reactAll signals
        let pane := d.memoryPane screen
        let rows := d.memoryRows screen
        (pane ∈ (d.view screen).1 ∧
            pane.panel.marks pane.area =
              rows.map fun row =>
                (rowLine d.session.machine.store.pointer row).marks
                  pane.inside.width .left) ∧
          (0 < pane.inside.height → rows ≠ []) ∧
          (∀ row ∈ rows, 8 ∣ row.address ∧ row.address < 30000) ∧
          (rows.flatMap DumpRow.addresses).Nodup ∧
          ∀ now,
            let d' := d.press now .end
            let pointer : Nat := d'.session.machine.store.pointer
            0 < (d'.memoryPane screen).inside.height →
              ∃ row, (d'.memoryRows screen)[0]? = some row ∧
                row.address ≤ pointer ∧
                pointer < row.address + row.cells.length ∧
                row.cells[pointer - row.address]?
                  = some d'.session.machine.cell := by
  constructor
  · intro memory offset maxRows start rows
    have hstart : start = dumpStart memory.size offset := by
      rw [dumpStart, cellsPerRow, Nat.mul_comm]
    refine ⟨?_, ?_, fun r row hrow => ?_⟩
    · rw [toList_extract_min, hstart]
      exact flatMap_cells_dumpFrom memory maxRows _
    · rw [hstart]
      exact length_dumpFrom memory maxRows _
    · obtain ⟨-, haddress, hin, hlength, -⟩ := of_getElem?_dumpRows hrow
      have height : cellsPerRow = 8 := rfl
      rw [hstart]
      exact ⟨haddress, cells_eq_extract hrow, by omega,
        length_cells_of_lt hrow⟩
  · intro session source input signals screen d pane rows
    have hoffset : d.memoryOffset ≤ Tape.lastAddress :=
      memoryOffset_reactAll_le (Nat.zero_le _) signals
    refine ⟨⟨d.memoryPane_mem_view screen, d.marks_memoryPane screen⟩,
      fun hroom => ?_, fun row => dvd_address_of_mem_memoryRows,
      d.nodup_addresses_memoryRows screen, ?_⟩
    · obtain ⟨row, hrow, -⟩ := exists_first_memoryRow hoffset hroom
      exact List.ne_nil_of_mem (List.mem_of_getElem? hrow)
    · intro now d' pointer hroom
      have hoffset' : d'.memoryOffset ≤ Tape.lastAddress :=
        memoryOffset_press_le hoffset now .end
      obtain ⟨row, hrow, hlow, hhigh, hcell⟩ :=
        exists_first_memoryRow hoffset' hroom
      exact ⟨row, hrow, hlow, hhigh,
        hcell.trans (Machine.getElem?_pointer d'.session.machine.store)⟩

/-- Of twenty cells the rows at offset 13 are a full one at 8 and one of four
cells at 16. With the pointer at cell 9 the end key leads to a first row that
begins at or before this cell. -/
theorem dump_rows_cover_window_short :
    let cells := Array.replicate 20 1
    let screen : Area := ⟨0, 0, 80, 24⟩
    let signals : List Signal :=
      [.press 1 (.char '9'), .press 2 .pageDown, .press 3 .down]
    let d := (new (.new .standard) ">>>>>>>>>+" "").reactAll signals
    let d' := d.press 4 .end
    ((dumpRows cells 13 9)[1]? = some ⟨16, [1, 1, 1, 1]⟩ ∧
        (dumpRows cells 13 9).length = 2 ∧
        (DumpRow.mk 16 [1, 1, 1, 1]).address = 8 + 8 * 1) ∧
      (d.memoryOffset = 520 ∧ 0 < (d.memoryPane screen).inside.height ∧
        d.memoryRows screen ≠ []) ∧
      0 < (d'.memoryPane screen).inside.height ∧
      ∃ row, (d'.memoryRows screen)[0]? = some row ∧ row.address ≤ 9 ∧
        9 < row.address + row.cells.length := by
  intro cells screen signals d d'
  obtain ⟨hdump, hpane⟩ := dump_rows_cover_window
  obtain ⟨-, hlength, hrows⟩ := hdump cells 13 9
  have hrow : (dumpRows cells 13 9)[1]? = some ⟨16, [1, 1, 1, 1]⟩ := by decide
  obtain ⟨haddress, -⟩ := hrows 1 _ hrow
  obtain ⟨-, hshown, -, -, hend⟩ :=
    hpane (.new .standard) ">>>>>>>>>+" "" signals screen
  have hroom : 0 < (d.memoryPane screen).inside.height := by decide
  have hroom' : 0 < (d'.memoryPane screen).inside.height := by decide
  have hpointer : (d'.session.machine.store.pointer : Nat) = 9 := by decide
  obtain ⟨row, hfirst, hlow, hhigh, -⟩ := hend 4 hroom'
  rw [hpointer] at hlow hhigh
  exact ⟨⟨hrow, hlength.trans (by decide), haddress⟩,
    ⟨by decide, hroom, hshown hroom⟩, hroom', row, hfirst, hlow, hhigh⟩

end Debugger

end TapeDebugger
