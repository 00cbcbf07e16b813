/-
The columns of the memory pane.

* `getElem?_dumpFrom`: a row of the dump;
* `MemoryPane.paneRows` and `MemoryPane.glyph?`: the rows in the pane, and
  their characters by row and column;
* `MemoryPane.shown_inside`: what is shown inside the border;
* `MemoryPane.style_eq_pointerStyle_iff`: the places in the style of the
  pointer;
* `MemoryPane.dump_columns`: where the cells are shown, and where the mark of
  the pointer is.

No character of a row takes two columns, so that no place is covered by the
one before it. But a soft hyphen takes none, and what is behind it stands a
column too far to the left.
-/
import TapeDebugger.Proofs.Pane.DumpRow
import TapeDebugger.Proofs.Screen.Drawing

namespace TapeDebugger

/-! ### Rows of the dump -/

lemma getElem?_dumpFrom (memory : Array UInt8) (rows address r : Nat) :
    (dumpFrom memory rows address)[r]? =
      if r < rows ∧ address + cellsPerRow * r < memory.size then
        let start := address + cellsPerRow * r
        some ⟨start, (memory.extract start (start + cellsPerRow)).toList⟩
      else none := by
  induction rows generalizing address r with
  | zero => rfl
  | succ rows ih =>
      rw [dumpFrom]
      cases r with
      | zero => split_ifs with hin hr <;> first | rfl | omega
      | succ r =>
          have hstart : address + cellsPerRow + cellsPerRow * r
              = address + cellsPerRow * (r + 1) := by ring
          by_cases hin : address < memory.size
          · rw [if_pos hin, List.getElem?_cons_succ, ih, hstart]
            simp only [Nat.add_lt_add_iff_right]
          · rw [if_neg hin, if_neg (by omega)]
            rfl

/-- A row of the dump holds cells of the memory, as many as are left up to
eight. -/
lemma of_getElem?_dumpRows {memory : Array UInt8} {offset rows r : Nat}
    {row : DumpRow} (h : (dumpRows memory offset rows)[r]? = some row) :
    r < rows ∧ row.address = dumpStart memory.size offset + cellsPerRow * r ∧
      row.address < memory.size ∧
      row.cells.length = min cellsPerRow (memory.size - row.address) ∧
      ∀ i < row.cells.length, row.cells[i]? = memory[row.address + i]? := by
  rw [dumpRows, getElem?_dumpFrom] at h
  split_ifs at h with hr
  obtain rfl := Option.some.inj h
  refine ⟨hr.1, rfl, hr.2, by simp, fun i hi => ?_⟩
  have hlt : i < cellsPerRow := by
    simp at hi
    exact hi.1
  simp [List.getElem?_take_of_lt hlt]

namespace MemoryPane

/-! ### The pane -/

variable {area : Area} {memory : Array UInt8} {offset r k : Nat}
  {row : DumpRow} {s : Screen}

/-- The rows of the dump for which the pane has room. -/
def paneRows (area : Area) (memory : Array UInt8) (offset : Nat) :
    List DumpRow :=
  dumpRows memory offset (min rowsPerPage (area.height - 2))

/-- The character in a row and a column inside the border. -/
def glyph? (area : Area) (memory : Array UInt8) (pointer offset r k : Nat) :
    Option (Char × Style) :=
  (paneRows area memory offset)[r]?.bind fun row =>
    (rowLine pointer row).visibleGlyphs[k]?

/-- A row that is drawn has a place on the screen and a short address. -/
lemma of_getElem?_paneRows (hsize : memory.size ≤ 100000)
    (h : (paneRows area memory offset)[r]? = some row) :
    r < area.height - 2 ∧ row.address < 100000 ∧ row.cells.length ≤ 8 := by
  obtain ⟨hr, -, haddress, hlength, -⟩ := of_getElem?_dumpRows h
  have height : cellsPerRow = 8 := rfl
  omega

section

variable (pointer offset : Nat) (focused : Bool) (hblank : area.BlankOn s)

include hblank

/-- On the edge of the pane is its border. -/
lemma cell_edge (memory : Array UInt8) {x y : Nat}
    (hmem : area.contains x y) (hout : ¬ area.inset.contains x y) {c : Char}
    (hc : (Border.mk (title memory pointer) (borderStyle focused)).char? area
      (x - area.x) (y - area.y) = some c) :
    ((view area memory pointer offset focused).draw s).cell x y =
      ⟨[c], borderStyle focused⟩ := by
  have hcell := Placement.cell_draw_of_edge
    (p := view area memory pointer offset focused) rfl rfl hblank.within hmem
    hout hc
  rw [hcell, hblank.cell_eq _ _ hmem]
  exact congrArg _ (Style.plain_overlay _)

/-- The mark of the pointer is not on the border. -/
lemma style_edge_ne (memory : Array UInt8) {x y : Nat}
    (hmem : area.contains x y) (hout : ¬ area.inset.contains x y) :
    (((view area memory pointer offset focused).draw s).shown x y).style
      ≠ pointerStyle := by
  have hedge : x - area.x = 0 ∨ x - area.x + 1 = area.width ∨
      y - area.y = 0 ∨ y - area.y + 1 = area.height := by
    rw [Area.contains_iff] at hmem hout
    simp only [Area.inset] at hout
    omega
  obtain ⟨c, hc⟩ :=
    Border.char?_of_edge ⟨title memory pointer, borderStyle focused⟩ hedge
  have hborder : ∀ focused, borderStyle focused ≠ pointerStyle := by decide
  rw [Screen.shown]
  split_ifs
  · decide
  · rw [cell_edge pointer offset focused hblank memory hmem hout hc]
    exact hborder focused

variable (hsize : memory.size ≤ 100000)

include hsize

/-- The characters of the rows are written inside. -/
lemma cell_inside (hk : k < area.width - 2) (hr : r < area.height - 2) :
    ((view area memory pointer offset focused).draw s).cell
        (area.x + 1 + k) (area.y + 1 + r) =
      ((glyph? area memory pointer offset r k).map .ofGlyph).getD .blank := by
  have hmem : area.contains (area.x + 1 + k) (area.y + 1 + r) :=
    Area.contains_iff.mpr (by omega)
  set pane := view area memory pointer offset focused
  have hcell : (pane.draw s).cell (area.x + 1 + k) (area.y + 1 + r) =
      (((pane.panel.marks area)[r]?.bind (·[k]?)).getD .keep).on
        (s.cell (area.x + 1 + k) (area.y + 1 + r)) :=
    Placement.cell_draw_of_inside (p := pane) rfl rfl hblank.within hk hr
  have hmarks : (pane.panel.marks area)[r]? =
      (paneRows area memory offset)[r]?.map fun row =>
        (rowLine pointer row).marks (area.width - 2) .left := by
    rw [Panel.getElem?_marks pane.panel area hr]
    exact (congrArg _ List.getElem?_map).trans (Option.map_map ..)
  rw [hcell, hblank.cell_eq _ _ hmem, hmarks, glyph?]
  cases hrow : (paneRows area memory offset)[r]? with
  | none => rfl
  | some row =>
      obtain ⟨-, haddress, -⟩ := of_getElem?_paneRows hsize hrow
      rw [Option.map_some, Option.bind_some, Option.bind_some,
        marks_rowLine pointer haddress (by omega), List.getElem?_map,
        List.getElem?_take_of_lt hk]
      cases (rowLine pointer row).visibleGlyphs[k]? with
      | none => rfl
      | some g => exact Mark.on_ofGlyph g

/-- None of them takes two columns. -/
lemma isWide_inside (hk : k < area.width - 2) (hr : r < area.height - 2) :
    (((view area memory pointer offset focused).draw s).cell
      (area.x + 1 + k) (area.y + 1 + r)).isWide = false := by
  rw [cell_inside pointer offset focused hblank hsize hk hr]
  cases hg : glyph? area memory pointer offset r k with
  | none => decide +kernel
  | some g =>
      obtain ⟨row, -, hk⟩ := Option.bind_eq_some_iff.mp hg
      have hone := Line.columns_of_mem_visibleGlyphs (List.mem_of_getElem? hk)
      simp [Cell.isWide, Cell.ofGlyph, hone]

/-- No place inside the border is covered by the one before it. -/
lemma shown_inside (hk : k < area.width - 2) (hr : r < area.height - 2) :
    ((view area memory pointer offset focused).draw s).shown
        (area.x + 1 + k) (area.y + 1 + r) =
      ((glyph? area memory pointer offset r k).map .ofGlyph).getD .blank := by
  rw [← cell_inside pointer offset focused hblank hsize hk hr]
  cases k with
  | zero =>
      -- The place before the first column is on the border.
      have hmem : area.contains area.x (area.y + 1 + r) :=
        Area.contains_iff.mpr (by omega)
      have hout : ¬ area.inset.contains area.x (area.y + 1 + r) := by
        rw [Area.contains_iff, Area.inset]
        dsimp only
        omega
      have hleft : (Border.mk (title memory pointer)
          (borderStyle focused)).char? area (area.x - area.x)
            (area.y + 1 + r - area.y) = some '│' := by
        rw [Nat.sub_self]
        exact Border.char?_left _ (by omega)
      have hcell := cell_edge pointer offset focused hblank memory hmem hout
        hleft
      have hone : symbolColumns ['│'] = 1 := by decide +kernel
      have hnarrow : (((view area memory pointer offset focused).draw s).cell
          area.x (area.y + 1 + r)).isWide = false := by
        simp [hcell, Cell.isWide, hone]
      exact Screen.shown_succ hnarrow
  | succ k =>
      exact Screen.shown_succ
        (isWide_inside pointer offset focused hblank hsize (by omega) hr)

variable (hwidth : 47 ≤ area.width - 2)

include hwidth

/-- In a pane that is wide enough all characters of a row are shown. -/
lemma shown_of_getElem? (hrow : (paneRows area memory offset)[r]? = some row)
    {g : Char × Style}
    (hg : (rowLine pointer row).visibleGlyphs[k]? = some g) :
    k < area.width - 2 ∧ r < area.height - 2 ∧
      ((view area memory pointer offset focused).draw s).shown
        (area.x + 1 + k) (area.y + 1 + r) = .ofGlyph g := by
  obtain ⟨hr, haddress, hm⟩ := of_getElem?_paneRows hsize hrow
  obtain ⟨hend, -⟩ := List.getElem?_eq_some_iff.mp hg
  rw [length_visibleGlyphs_rowLine pointer haddress] at hend
  have hcolumns := textColumn_le row.cells row.cells.length
  have hk : k < area.width - 2 := by omega
  have hseen : glyph? area memory pointer offset r k = some g :=
    Option.bind_eq_some_iff.mpr ⟨row, hrow, hg⟩
  refine ⟨hk, hr, ?_⟩
  rw [shown_inside pointer offset focused hblank hsize hk hr, hseen]
  rfl

/-- The places of the pane in the style of the pointer are those of the
characters in this style. -/
lemma style_eq_pointerStyle_iff {x y : Nat} (hmem : area.contains x y) :
    (((view area memory pointer offset focused).draw s).shown x y).style
        = pointerStyle ↔
      ∃ r k row c, (paneRows area memory offset)[r]? = some row ∧
        (rowLine pointer row).visibleGlyphs[k]? = some (c, pointerStyle) ∧
        x = area.x + 1 + k ∧ y = area.y + 1 + r := by
  constructor
  · intro hstyle
    by_cases hin : area.inset.contains x y
    · obtain ⟨⟨hx, hx'⟩, hy, hy'⟩ := Area.contains_iff.mp hin
      obtain ⟨k, rfl⟩ := Nat.exists_eq_add_of_le hx
      obtain ⟨r, rfl⟩ := Nat.exists_eq_add_of_le hy
      have hk : k < area.width - 2 := Nat.lt_of_add_lt_add_left hx'
      have hr : r < area.height - 2 := Nat.lt_of_add_lt_add_left hy'
      have hseen := shown_inside pointer offset focused hblank hsize hk hr
      have hglyph := (congrArg Cell.style hseen).symm.trans hstyle
      cases hg : glyph? area memory pointer offset r k with
      | none =>
          rw [hg] at hglyph
          exact absurd hglyph (by decide)
      | some g =>
          obtain ⟨c, style⟩ := g
          obtain rfl : style = pointerStyle := by rwa [hg] at hglyph
          obtain ⟨row, hrow, hk⟩ := Option.bind_eq_some_iff.mp hg
          exact ⟨r, k, row, c, hrow, hk, rfl, rfl⟩
    · exact absurd hstyle
        (style_edge_ne pointer offset focused hblank memory hmem hin)
  · rintro ⟨r, k, row, c, hrow, hg, rfl, rfl⟩
    obtain ⟨-, -, hseen⟩ :=
      shown_of_getElem? pointer offset focused hblank hsize hwidth hrow hg
    rw [hseen]
    rfl

end

/-- **Where the memory pane shows what.** Drawn on blank places that are wide
enough, it shows the rows of the dump from the top. A row has eight cells,
or as many as are left of the memory. It begins with the five digits of its
address, a colon and a space; each cell has three digits and a space; then come
the characters of the cells without a gap, and nothing is behind them. A soft
hyphen has no column, so that the character of cell `i` of `m` is in column
`7 + 4 * m + i` only if no such cell is before it. The style of the pointer is
on the digits and on the character of its cell, and on no other place of the
pane. -/
theorem dump_columns (area : Area) (memory : Array UInt8)
    (pointer offset : Nat) (focused : Bool) (s : Screen)
    (hsize : memory.size ≤ 100000) (hwidth : 47 ≤ area.width - 2)
    (hblank : area.BlankOn s) :
    let drawn := (view area memory pointer offset focused).draw s
    let place (r k : Nat) := drawn.shown (area.x + 1 + k) (area.y + 1 + r)
    let rows := dumpRows memory offset (min rowsPerPage (area.height - 2))
    (∀ r row, rows[r]? = some row →
      let m := row.cells.length
      (m = min 8 (memory.size - row.address) ∧
        ∀ i < m, row.cells[i]? = memory[row.address + i]?) ∧
      (∀ k < 5, (place r k).symbol = [decimalDigit row.address (4 - k)]) ∧
      (place r 5).symbol = [':'] ∧ (place r 6).symbol = [' '] ∧
      (∀ i cell, row.cells[i]? = some cell →
        (∀ k < 3, (place r (7 + 4 * i + k)).symbol =
          [decimalDigit cell.toNat (2 - k)]) ∧
        (place r (7 + 4 * i + 3)).symbol = [' '] ∧
        (cell ≠ softHyphen →
          (place r (textColumn row.cells i)).symbol = [cellChar cell])) ∧
      (∀ i ≤ m, textColumn row.cells i = 7 + 4 * m + i ↔
        softHyphen ∉ row.cells.take i) ∧
      ∀ k, textColumn row.cells m ≤ k → k < area.width - 2 →
        place r k = .blank) ∧
    ∀ x y, area.contains x y →
      ((drawn.shown x y).style = pointerStyle ↔
        ∃ r row i cell, rows[r]? = some row ∧ row.cells[i]? = some cell ∧
          row.address + i = pointer ∧ y = area.y + 1 + r ∧
            ((∃ k < 3, x = area.x + 1 + (7 + 4 * i + k)) ∨
              cell ≠ softHyphen ∧
                x = area.x + 1 + textColumn row.cells i)) := by
  intro drawn place rows
  constructor
  · intro r row hrow m
    obtain ⟨hr, haddress, -⟩ := of_getElem?_paneRows hsize hrow
    obtain ⟨-, -, -, hm, hcells⟩ := of_getElem?_dumpRows hrow
    have hsymbol {k : Nat} {g : Char × Style}
        (hg : (rowLine pointer row).visibleGlyphs[k]? = some g) :
        (place r k).symbol = [g.1] := by
      obtain ⟨-, -, hseen⟩ :=
        shown_of_getElem? pointer offset focused hblank hsize hwidth hrow hg
      exact congrArg Cell.symbol hseen
    refine ⟨⟨hm, hcells⟩, fun k hk => ?_, ?_, ?_, fun i cell hi => ?_,
      fun i hi => textColumn_eq_iff hi, fun k hend hk => ?_⟩
    · rw [hsymbol (getElem?_address pointer haddress (by omega)), addressGlyph,
        if_pos hk]
    · exact hsymbol (getElem?_address pointer haddress (by omega))
    · exact hsymbol (getElem?_address pointer haddress (by omega))
    · refine ⟨fun k hk => ?_, ?_, fun hcell => ?_⟩
      · rw [hsymbol (getElem?_value pointer haddress hi (by omega)),
          valueGlyph, if_pos hk]
      · exact hsymbol (getElem?_value pointer haddress hi (by omega))
      · exact hsymbol ((getElem?_text pointer haddress
          (Nat.le_add_right _ _)).mpr ⟨i, cell, hi, hcell, rfl, rfl⟩)
    · have hnone : glyph? area memory pointer offset r k = none := by
        refine Option.bind_eq_none_iff.mpr fun row' hrow' => ?_
        obtain rfl := Option.some.inj (hrow.symm.trans hrow')
        rwa [List.getElem?_eq_none_iff,
          length_visibleGlyphs_rowLine pointer haddress]
      have hseen := shown_inside pointer offset focused hblank hsize hk hr
      rwa [hnone] at hseen
  · intro x y hmem
    rw [style_eq_pointerStyle_iff pointer offset focused hblank hsize hwidth
      hmem]
    constructor
    · rintro ⟨r, k, row, c, hrow, hg, rfl, rfl⟩
      obtain ⟨-, haddress, -⟩ := of_getElem?_paneRows hsize hrow
      obtain ⟨i, cell, hi, hpointer, hk⟩ :=
        (getElem?_marked_iff haddress).mp ⟨c, hg⟩
      refine ⟨r, row, i, cell, hrow, hi, hpointer, rfl, ?_⟩
      simpa using hk
    · rintro ⟨r, row, i, cell, hrow, hi, hpointer, rfl, hx⟩
      obtain ⟨-, haddress, -⟩ := of_getElem?_paneRows hsize hrow
      obtain ⟨k, hk, rfl⟩ : ∃ k, ((∃ j < 3, k = 7 + 4 * i + j) ∨
          cell ≠ softHyphen ∧ k = textColumn row.cells i) ∧
          x = area.x + 1 + k := by
        obtain ⟨j, hj, rfl⟩ | ⟨hcell, rfl⟩ := hx
        · exact ⟨_, Or.inl ⟨j, hj, rfl⟩, rfl⟩
        · exact ⟨_, Or.inr ⟨hcell, rfl⟩, rfl⟩
      obtain ⟨c, hg⟩ :=
        (getElem?_marked_iff haddress).mpr ⟨i, cell, hi, hpointer, hk⟩
      exact ⟨r, k, row, c, hrow, hg, rfl, rfl⟩

/-- The cells 72, 173 and 33 show as `H!`. The pointer, which is at the third
of them, is marked in the second column of the text. -/
theorem dump_columns_soft_hyphen :
    let cells : List UInt8 := [72, softHyphen, 33]
    let s : Screen := ⟨49, 3, fun _ _ => .blank⟩
    let drawn := (view s.area cells.toArray 2 0 true).draw s
    let place (r k : Nat) := drawn.shown (s.area.x + 1 + k) (s.area.y + 1 + r)
    textColumn cells 2 = 7 + 4 * 3 + 1 ∧
      (place 0 (textColumn cells 0)).symbol = ['H'] ∧
      (place 0 (textColumn cells 2)).symbol = ['!'] ∧
      (place 0 (textColumn cells 2)).style = pointerStyle ∧
      place 0 (7 + 4 * 3 + 2) = .blank := by
  intro cells s drawn place
  have hblank : s.area.BlankOn s :=
    ⟨⟨le_rfl, le_rfl, le_rfl, le_rfl⟩, fun _ _ _ => rfl⟩
  obtain ⟨hrows, hpointer⟩ := dump_columns s.area cells.toArray 2 0 true s
    (by decide) (by decide) hblank
  obtain ⟨-, -, -, -, hcells, -, hbehind⟩ := hrows 0 ⟨0, cells⟩ rfl
  obtain ⟨-, -, hfirst⟩ := hcells 0 72 rfl
  obtain ⟨-, -, hlast⟩ := hcells 2 33 rfl
  refine ⟨by decide, hfirst (by decide), hlast (by decide), ?_,
    hbehind _ (by decide) (by decide)⟩
  exact (hpointer _ _ (by decide)).mpr
    ⟨0, ⟨0, cells⟩, 2, 33, rfl, rfl, rfl, rfl, Or.inr ⟨by decide, rfl⟩⟩

end MemoryPane

end TapeDebugger
