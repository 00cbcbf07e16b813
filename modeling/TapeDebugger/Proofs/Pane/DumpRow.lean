/-
A single row of the memory dump.

* `decimalDigit` and `padNumber_eq`: the digits of a number;
* `softHyphen` and `symbolColumns_cellChar`: the one cell whose character has
  no column;
* `getElem?_filter_iff`: the place of an element among those that are kept;
* `MemoryPane.addressGlyph`, `MemoryPane.valueGlyph` and
  `MemoryPane.charGlyph`: the parts of a row;
* `MemoryPane.visibleGlyphs_rowLine`: what is seen of a row, which is its
  address, four columns for each cell, and the characters that have a column;
* `MemoryPane.textColumn`: the column of the character of a cell;
* `MemoryPane.getElem?_marked_iff`: the columns in the style of the pointer.
-/
import TapeDebugger.Pane.Memory
import TapeDebugger.Proofs.Screen.Glyphs

namespace TapeDebugger

/-! ### Decimal numbers -/

/-- The digit of a number that counts its multiples of `10 ^ k`. -/
def decimalDigit (n k : Nat) : Char :=
  Nat.digitChar (n / 10 ^ k % 10)

lemma decimalDigit_succ (n k : Nat) :
    decimalDigit n (k + 1) = decimalDigit (n / 10) k := by
  rw [decimalDigit, decimalDigit, Nat.div_div_eq_div_mul, pow_succ']

/-- The last digit may be split off, if another place is left. -/
lemma padNumber_succ (n width : Nat) :
    padNumber n (width + 2) =
      padNumber (n / 10) (width + 1) ++ [decimalDigit n 0] := by
  rw [decimalDigit, pow_zero, Nat.div_one, padNumber, padNumber]
  obtain hlt | hge := Nat.lt_or_ge n 10
  · rw [Nat.toDigits_of_lt_base hlt, Nat.div_eq_of_lt hlt, Nat.toDigits_zero,
      Nat.mod_eq_of_lt hlt]
    simp [List.replicate_succ']
  · rw [Nat.toDigits_of_base_le (by decide) hge]
    simp

/-- A number that is not too large is filled up to the width. -/
lemma padNumber_eq {n width : Nat} (hn : n < 10 ^ (width + 1)) :
    padNumber n (width + 1) =
      (List.range (width + 1)).map fun k => decimalDigit n (width - k) := by
  induction width generalizing n with
  | zero =>
      have hlt : n < 10 := hn
      rw [padNumber, Nat.toDigits_of_lt_base hlt]
      simp [decimalDigit, Nat.mod_eq_of_lt hlt]
  | succ width ih =>
      have hdiv : n / 10 < 10 ^ (width + 1) := by
        rw [pow_succ] at hn
        omega
      rw [padNumber_succ, ih hdiv, List.range_succ (n := width + 1),
        List.map_append, List.map_singleton, Nat.sub_self]
      refine congrArg (· ++ _) (List.map_congr_left fun k hk => ?_)
      rw [Nat.succ_sub (Nat.le_of_lt_succ (List.mem_range.mp hk)),
        decimalDigit_succ]

/-! ### Characters of the cells -/

/-- The cell whose character has no column, and is no control character
either. -/
def softHyphen : UInt8 := 0xad

lemma isPlain_decimalDigit (n k : Nat) : IsPlain (decimalDigit n k) := by
  have hdigits : ∀ d < 10, IsPlain (Nat.digitChar d) := by decide +kernel
  exact hdigits _ (Nat.mod_lt _ (by decide))

lemma isPlain_colon : IsPlain ':' := by decide +kernel

lemma isPlain_space : IsPlain ' ' := by decide +kernel

lemma isPlain_of_mem_padNumber {n width : Nat} (hn : n < 10 ^ (width + 1))
    {c : Char} (hc : c ∈ padNumber n (width + 1)) : IsPlain c := by
  rw [padNumber_eq hn] at hc
  obtain ⟨k, -, rfl⟩ := List.mem_map.mp hc
  exact isPlain_decimalDigit n (width - k)

lemma symbolColumns_cellChar (cell : UInt8) :
    symbolColumns [cellChar cell] = if cell = softHyphen then 0 else 1 := by
  -- The characters are spread over the tables of widths: all 256 are looked up.
  have hcells : ∀ n < UInt8.size,
      symbolColumns [cellChar (.ofNat n)] =
        if UInt8.ofNat n = softHyphen then 0 else 1 := by
    decide +kernel
  simpa using hcells cell.toNat cell.toNat_lt

/-! ### Counting in a list -/

/-- An element that is kept stands behind the kept ones among those before
it. -/
lemma getElem?_filter_iff {α : Type} {p : α → Bool} {l : List α} {j : Nat}
    {a : α} :
    (l.filter p)[j]? = some a ↔
      ∃ i, l[i]? = some a ∧ p a ∧ (l.take i).countP p = j := by
  induction l generalizing j with
  | nil => simp
  | cons b rest ih =>
      constructor
      · intro h
        by_cases hb : p b
        · rw [List.filter_cons_of_pos hb] at h
          cases j with
          | zero =>
              obtain rfl : b = a := by simpa using h
              exact ⟨0, rfl, hb, rfl⟩
          | succ j =>
              obtain ⟨i, hi, ha, hj⟩ := ih.mp (by simpa using h)
              exact ⟨i + 1, hi, ha, by simp [hb, hj]⟩
        · rw [List.filter_cons_of_neg hb] at h
          obtain ⟨i, hi, ha, hj⟩ := ih.mp h
          exact ⟨i + 1, hi, ha, by simp [hb, hj]⟩
      · rintro ⟨i, hi, ha, rfl⟩
        cases i with
        | zero =>
            obtain rfl : b = a := by simpa using hi
            simp [ha]
        | succ i =>
            have hrest := ih.mpr ⟨i, hi, ha, rfl⟩
            by_cases hb : p b <;> simp [hb, hrest]

/-- Positions do not change what is counted. -/
lemma countP_zipIdx {α : Type} (p : α → Bool) (l : List α) (n i : Nat) :
    ((l.zipIdx n).take i).countP (fun a => p a.1) = (l.take i).countP p := by
  conv_rhs => rw [← List.zipIdx_map_fst n l, ← List.map_take, List.countP_map]
  rfl

namespace MemoryPane

/-! ### The characters of a row -/

variable {pointer address k : Nat} {cells : List UInt8} {row : DumpRow}

/-- The address of a row and what separates it from the cells. -/
def addressGlyph (address k : Nat) : Char × Style :=
  (if k < 5 then decimalDigit address (4 - k) else if k = 5 then ':' else ' ',
    .ofColor Palette.address)

/-- The four columns of a cell. -/
def valueGlyph (pointer address : Nat) (cell : UInt8) (k : Nat) :
    Char × Style :=
  if k < 3 then
    (decimalDigit cell.toNat (2 - k),
      markedStyle pointer address (valueStyle cell))
  else (' ', .plain)

/-- The character of a cell. -/
def charGlyph (pointer address : Nat) (cell : UInt8) : Char × Style :=
  (cellChar cell, markedStyle pointer address (.ofColor Palette.text))

lemma addressGlyphs_eq (haddress : address < 100000) :
    Line.glyphs
        [⟨padNumber address 5 ++ [':', ' '], .ofColor Palette.address⟩] =
      (List.range 7).map (addressGlyph address) := by
  have hlt : address < 10 ^ 5 := haddress
  rw [padNumber_eq hlt]
  rfl

lemma toNat_lt_pow (cell : UInt8) : cell.toNat < 10 ^ 3 :=
  Nat.lt_trans cell.toNat_lt (by decide)

lemma glyphs_valueSpans_cons (pointer address : Nat) (cell : UInt8)
    (rest : List UInt8) :
    Line.glyphs (valueSpans pointer address (cell :: rest)) =
      (List.range 4).map (valueGlyph pointer address cell) ++
        Line.glyphs (valueSpans pointer (address + 1) rest) := by
  rw [valueSpans, Line.glyphs_cons, Line.glyphs_cons,
    padNumber_eq (toNat_lt_pow cell)]
  rfl

lemma length_valueGlyphs (pointer address : Nat) (cells : List UInt8) :
    (Line.glyphs (valueSpans pointer address cells)).length
      = 4 * cells.length := by
  induction cells generalizing address with
  | nil => rfl
  | cons cell rest ih =>
      rw [glyphs_valueSpans_cons, List.length_append, ih]
      simp
      ring

lemma getElem?_valueGlyphs (pointer address : Nat) (cells : List UInt8)
    (i : Nat) (hk : k < 4) :
    (Line.glyphs (valueSpans pointer address cells))[4 * i + k]? =
      cells[i]?.map fun cell => valueGlyph pointer (address + i) cell k := by
  induction cells generalizing address i with
  | nil => rfl
  | cons cell rest ih =>
      rw [glyphs_valueSpans_cons]
      cases i with
      | zero =>
          rw [List.getElem?_append_left (by simpa using hk)]
          simp [hk]
      | succ i =>
          have hnext : 4 * (i + 1) + k - 4 = 4 * i + k := by omega
          rw [List.getElem?_append_right (by simp; omega), List.length_map,
            List.length_range, hnext, ih, List.getElem?_cons_succ,
            Nat.add_assoc, Nat.add_comm 1]

/-- The characters are those of the cells with their positions, which are
their addresses. -/
lemma glyphs_charSpans (pointer address : Nat) (cells : List UInt8) :
    Line.glyphs (charSpans pointer address cells) =
      (cells.zipIdx address).map fun p => charGlyph pointer p.2 p.1 := by
  induction cells generalizing address with
  | nil => rfl
  | cons cell rest ih =>
      rw [charSpans, Line.glyphs_cons, ih, List.zipIdx_cons, List.map_cons]
      rfl

lemma visibleGlyphs_charSpans (pointer address : Nat) (cells : List UInt8) :
    Line.visibleGlyphs (charSpans pointer address cells) =
      ((cells.zipIdx address).filter fun p => p.1 ≠ softHyphen).map
        fun p => charGlyph pointer p.2 p.1 := by
  rw [Line.visibleGlyphs, glyphs_charSpans, List.filter_map]
  refine congrArg (List.map _) (List.filter_congr fun p _ => ?_)
  rw [Function.comp_apply, charGlyph, symbolColumns_cellChar]
  split_ifs with h <;> simp [h]

lemma getElem?_visible_charSpans {j : Nat} {g : Char × Style} :
    (Line.visibleGlyphs (charSpans pointer address cells))[j]? = some g ↔
      ∃ i cell, cells[i]? = some cell ∧ cell ≠ softHyphen ∧
        (cells.take i).countP (· ≠ softHyphen) = j ∧
        g = charGlyph pointer (address + i) cell := by
  rw [visibleGlyphs_charSpans, List.getElem?_map]
  simp only [Option.map_eq_some_iff, getElem?_filter_iff,
    countP_zipIdx (· ≠ softHyphen), List.getElem?_zipIdx, decide_eq_true_eq]
  constructor
  · rintro ⟨-, ⟨i, ⟨cell, hi, rfl⟩, hcell, hj⟩, rfl⟩
    exact ⟨i, cell, hi, hcell, hj, rfl⟩
  · rintro ⟨i, cell, hi, hcell, hj, rfl⟩
    exact ⟨_, ⟨i, ⟨cell, hi, rfl⟩, hcell, hj⟩, rfl⟩

lemma length_visible_charSpans (pointer address : Nat) (cells : List UInt8) :
    (Line.visibleGlyphs (charSpans pointer address cells)).length =
      cells.countP (· ≠ softHyphen) := by
  have hcount := countP_zipIdx (· ≠ softHyphen) cells address cells.length
  rw [visibleGlyphs_charSpans, List.length_map, ← List.countP_eq_length_filter]
  rwa [List.take_of_length_le (by simp), List.take_length] at hcount

/-- The address and the digits of the cells are plain text. -/
lemma isPlain_of_mem_addressSpan (haddress : address < 100000) {c : Char}
    (hc : c ∈ padNumber address 5 ++ [':', ' ']) : IsPlain c := by
  obtain hdigit | hrest := List.mem_append.mp hc
  · exact isPlain_of_mem_padNumber haddress hdigit
  · rw [List.mem_pair] at hrest
    obtain rfl | rfl := hrest
    · exact isPlain_colon
    · exact isPlain_space

lemma isPlain_of_mem_valueSpans {s : Span}
    (hs : s ∈ valueSpans pointer address cells) : ∀ c ∈ s.chars, IsPlain c := by
  induction cells generalizing address with
  | nil => exact absurd hs List.not_mem_nil
  | cons cell rest ih =>
      rw [valueSpans, List.mem_cons, List.mem_cons] at hs
      obtain rfl | rfl | hrest := hs
      · exact fun c hc => isPlain_of_mem_padNumber (toNat_lt_pow cell) hc
      · exact fun c hc => List.mem_singleton.mp hc ▸ isPlain_space
      · exact ih hrest

lemma chars_of_mem_charSpans {s : Span}
    (hs : s ∈ charSpans pointer address cells) :
    ∃ cell, s.chars = [cellChar cell] := by
  induction cells generalizing address with
  | nil => exact absurd hs List.not_mem_nil
  | cons cell rest ih =>
      obtain rfl | hrest := List.mem_cons.mp hs
      · exact ⟨cell, rfl⟩
      · exact ih hrest

section

variable (pointer : Nat) (haddress : row.address < 100000)

include haddress

/-- The spans of a row are of two kinds. -/
lemma span_cases {s : Span} (hs : s ∈ rowLine pointer row) :
    (∀ c ∈ s.chars, IsPlain c) ∨ ∃ cell, s.chars = [cellChar cell] := by
  rw [rowLine, List.mem_cons, List.mem_append] at hs
  obtain rfl | hvalue | hchar := hs
  · exact Or.inl fun c hc => isPlain_of_mem_addressSpan haddress hc
  · exact Or.inl (isPlain_of_mem_valueSpans hvalue)
  · exact Or.inr (chars_of_mem_charSpans hchar)

/-- The marks of a row are those of its visible characters. -/
lemma marks_rowLine {width : Nat} (hwidth : 0 < width) :
    (rowLine pointer row).marks width .left =
      ((rowLine pointer row).visibleGlyphs.take width).map .ofGlyph := by
  refine Line.marks_of_apart hwidth (fun s hs => ?_) fun g hg => ?_
  · obtain hplain | ⟨cell, hcell⟩ := span_cases pointer haddress hs
    · exact Span.apart_of_plain hplain
    · rw [Span.Apart, hcell]
      exact clusters_singleton _
  · obtain ⟨s, hs, hgs⟩ := List.mem_flatMap.mp hg
    obtain ⟨c, hc, rfl⟩ := List.mem_map.mp hgs
    obtain hplain | ⟨cell, hcell⟩ := span_cases pointer haddress hs
    · exact (hplain c hc).2.le
    · rw [hcell] at hc
      obtain rfl := List.mem_singleton.mp hc
      rw [symbolColumns_cellChar]
      split_ifs <;> omega

/-- What is seen of a row: its address, the four columns of each cell, and the
characters that have a column. -/
lemma visibleGlyphs_rowLine :
    (rowLine pointer row).visibleGlyphs =
      (List.range 7).map (addressGlyph row.address) ++
        (Line.glyphs (valueSpans pointer row.address row.cells) ++
          Line.visibleGlyphs (charSpans pointer row.address row.cells)) := by
  rw [rowLine, ← List.singleton_append, Line.visibleGlyphs_append,
    Line.visibleGlyphs_append, Line.visibleGlyphs_of_plain,
    Line.visibleGlyphs_of_plain, addressGlyphs_eq haddress]
  · exact fun s hs => isPlain_of_mem_valueSpans hs
  · intro s hs
    obtain rfl := List.mem_singleton.mp hs
    exact fun c hc => isPlain_of_mem_addressSpan haddress hc

end

/-! ### The columns of a row -/

/-- The column of the character of cell `i` of a row: characters without a
column leave no gap. -/
def textColumn (cells : List UInt8) (i : Nat) : Nat :=
  7 + 4 * cells.length + (cells.take i).countP (· ≠ softHyphen)

/-- A column is missing for each soft hyphen before the cell. -/
lemma textColumn_eq_iff {i : Nat} (hi : i ≤ cells.length) :
    textColumn cells i = 7 + 4 * cells.length + i ↔
      softHyphen ∉ cells.take i := by
  have hlength : (cells.take i).length = i := List.length_take_of_le hi
  have hcount := List.countP_eq_length (p := fun cell => cell ≠ softHyphen)
    (l := cells.take i)
  rw [hlength] at hcount
  rw [textColumn, Nat.add_left_cancel_iff, hcount]
  refine ⟨fun h hmem => ?_, fun h cell hcell => ?_⟩
  · exact of_decide_eq_true (h _ hmem) rfl
  · exact decide_eq_true fun heq => h (heq ▸ hcell)

lemma textColumn_le (cells : List UInt8) (i : Nat) :
    textColumn cells i ≤ 7 + 4 * cells.length + i := by
  have hcount : (cells.take i).countP (· ≠ softHyphen) ≤ i :=
    List.countP_le_length.trans (List.length_take_le i cells)
  rw [textColumn]
  omega

section

variable (pointer : Nat) (haddress : row.address < 100000)

include haddress

lemma length_visibleGlyphs_rowLine :
    (rowLine pointer row).visibleGlyphs.length =
      textColumn row.cells row.cells.length := by
  rw [visibleGlyphs_rowLine pointer haddress, List.length_append,
    List.length_append, List.length_map, List.length_range,
    length_valueGlyphs, length_visible_charSpans, textColumn,
    List.take_length, Nat.add_assoc]

lemma getElem?_address (hk : k < 7) :
    (rowLine pointer row).visibleGlyphs[k]? =
      some (addressGlyph row.address k) := by
  rw [visibleGlyphs_rowLine pointer haddress,
    List.getElem?_append_left (by simpa using hk)]
  simp [hk]

lemma getElem?_value {i : Nat} {cell : UInt8}
    (hi : row.cells[i]? = some cell) (hk : k < 4) :
    (rowLine pointer row).visibleGlyphs[7 + 4 * i + k]? =
      some (valueGlyph pointer (row.address + i) cell k) := by
  obtain ⟨hlt, -⟩ := List.getElem?_eq_some_iff.mp hi
  have hcolumn : 7 + 4 * i + k - 7 = 4 * i + k := by omega
  rw [visibleGlyphs_rowLine pointer haddress,
    List.getElem?_append_right (by simp; omega), List.length_map,
    List.length_range, hcolumn,
    List.getElem?_append_left (by rw [length_valueGlyphs]; omega),
    getElem?_valueGlyphs _ _ _ _ hk, hi]
  rfl

lemma getElem?_text (hk : 7 + 4 * row.cells.length ≤ k)
    {g : Char × Style} :
    (rowLine pointer row).visibleGlyphs[k]? = some g ↔
      ∃ i cell, row.cells[i]? = some cell ∧ cell ≠ softHyphen ∧
        k = textColumn row.cells i ∧
        g = charGlyph pointer (row.address + i) cell := by
  have hcolumn (n : Nat) :
      n = k - 7 - 4 * row.cells.length ↔
        k = 7 + 4 * row.cells.length + n := by omega
  rw [visibleGlyphs_rowLine pointer haddress,
    List.getElem?_append_right (by simp; omega), List.length_map,
    List.length_range, List.getElem?_append_right
      (by rw [length_valueGlyphs]; omega),
    length_valueGlyphs, getElem?_visible_charSpans]
  simp only [hcolumn, textColumn]

end

/-! ### The mark of the pointer -/

lemma markedStyle_eq_iff {other : Style} (h : other ≠ pointerStyle) :
    markedStyle pointer address other = pointerStyle ↔ address = pointer := by
  rw [markedStyle]
  split_ifs with hpointer <;> simp [h, hpointer]

lemma ofColor_ne (color : Color) : Style.ofColor color ≠ pointerStyle :=
  fun h => Bool.false_ne_true (congrArg Style.bold h)

/-- The pointer is marked in the columns of its cell, in decimal and as
text. -/
lemma getElem?_marked_iff (haddress : row.address < 100000) :
    (∃ c, (rowLine pointer row).visibleGlyphs[k]? = some (c, pointerStyle)) ↔
      ∃ i cell, row.cells[i]? = some cell ∧ row.address + i = pointer ∧
        ((∃ j < 3, k = 7 + 4 * i + j) ∨
          cell ≠ softHyphen ∧ k = textColumn row.cells i) := by
  constructor
  · rintro ⟨c, hc⟩
    obtain hfirst | hfirst := Nat.lt_or_ge k 7
    · rw [getElem?_address pointer haddress hfirst] at hc
      exact absurd (congrArg Prod.snd (Option.some.inj hc)) (ofColor_ne _)
    obtain htext | htext := Nat.lt_or_ge k (7 + 4 * row.cells.length)
    · -- Four columns belong to each cell.
      have hi : (k - 7) / 4 < row.cells.length := by omega
      have hk : k = 7 + 4 * ((k - 7) / 4) + (k - 7) % 4 := by omega
      have hcell := List.getElem?_eq_getElem hi
      rw [hk, getElem?_value pointer haddress hcell (Nat.mod_lt _ (by decide)),
        valueGlyph] at hc
      split_ifs at hc with hj
      · have hstyle := congrArg Prod.snd (Option.some.inj hc)
        exact ⟨_, _, hcell, (markedStyle_eq_iff (ofColor_ne _)).mp hstyle,
          Or.inl ⟨_, hj, hk⟩⟩
      · exact absurd hc (by simp [Style.plain, pointerStyle])
    · obtain ⟨i, cell, hi, hcell, hk, hg⟩ :=
        (getElem?_text pointer haddress htext).mp hc
      have hstyle := congrArg Prod.snd hg.symm
      exact ⟨i, cell, hi, (markedStyle_eq_iff (ofColor_ne _)).mp hstyle,
        Or.inr ⟨hcell, hk⟩⟩
  · rintro ⟨i, cell, hi, hpointer, ⟨j, hj, rfl⟩ | ⟨hcell, rfl⟩⟩
    · refine ⟨decimalDigit cell.toNat (2 - j), ?_⟩
      rw [getElem?_value pointer haddress hi (by omega), valueGlyph, if_pos hj,
        markedStyle, if_pos hpointer]
    · have htext : 7 + 4 * row.cells.length ≤ textColumn row.cells i :=
        Nat.le_add_right _ _
      refine ⟨cellChar cell, (getElem?_text pointer haddress htext).mpr
        ⟨i, cell, hi, hcell, rfl, ?_⟩⟩
      rw [charGlyph, markedStyle, if_pos hpointer]

end MemoryPane

end TapeDebugger
