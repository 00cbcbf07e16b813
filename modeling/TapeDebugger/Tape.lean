/-
The tape of byte cells:

* `Address`: a cell of the tape; `Address.left` and `Address.right` stop at
  both ends;
* `Tape`: exactly `Tape.size` cells, all zero on a `Tape.blank` one;
* `Tape.runs`: the cells that are not zero, as runs of equal neighbours.

Cell arithmetic is that of bytes, so it wraps modulo 256.
-/

namespace TapeDebugger

/-! ### Addresses -/

/-- The number of cells on the tape. -/
def Tape.size : Nat := 30000

/-- The highest address. -/
def Tape.lastAddress : Nat := Tape.size - 1

/-- The address of a cell. -/
abbrev Address := Fin Tape.size

/-- The number one to the left, or zero at zero. -/
def Tape.leftOf (n : Nat) : Nat := n - 1

/-- The number one to the right, unchanged from the last address on. -/
def Tape.rightOf (n : Nat) : Nat :=
  if n < Tape.lastAddress then n + 1 else n

namespace Address

/-- The first cell of the tape. -/
def first : Address := ⟨0, by decide⟩

/-- The address with the given number, `none` beyond the tape. -/
def ofNat? (n : Nat) : Option Address :=
  if h : n < Tape.size then some ⟨n, h⟩ else none

/-- One cell to the left; the first cell is its own left neighbour. -/
def left (a : Address) : Address :=
  ⟨Tape.leftOf a, Nat.lt_of_le_of_lt (Nat.sub_le ..) a.isLt⟩

/-- One cell to the right; the last cell is its own right neighbour. -/
def right (a : Address) : Address :=
  ⟨Tape.rightOf a, by
    have h : (a : Nat) < 30000 := a.isLt
    unfold Tape.rightOf Tape.lastAddress Tape.size
    split <;> omega⟩

end Address

/-! ### The tape -/

/-- A tape of `Tape.size` byte cells. -/
structure Tape where
  cells : Vector UInt8 Tape.size
  deriving DecidableEq

namespace Tape

/-- The tape whose cells are all zero. -/
def blank : Tape :=
  ⟨Vector.replicate size 0⟩

/-- The value of a cell. -/
def read (t : Tape) (a : Address) : UInt8 :=
  t.cells[a]

/-- Sets a cell. -/
def write (t : Tape) (a : Address) (value : UInt8) : Tape :=
  ⟨t.cells.set a value⟩

/-- Changes a cell by a function of its value. -/
def modify (t : Tape) (a : Address) (f : UInt8 → UInt8) : Tape :=
  let value := t.read a
  t.write a (f value)

/-- Adds one to a cell; 255 becomes 0. -/
def increment (t : Tape) (a : Address) : Tape :=
  t.modify a (· + 1)

/-- Subtracts one from a cell; 0 becomes 255. -/
def decrement (t : Tape) (a : Address) : Tape :=
  t.modify a (· - 1)

@[simp]
theorem read_blank (a : Address) : blank.read a = 0 := by
  simp [blank, read]

@[simp]
theorem read_write_self (t : Tape) (a : Address) (v : UInt8) :
    (t.write a v).read a = v := by
  simp [write, read]

theorem read_write_of_ne (t : Tape) {a b : Address} (v : UInt8)
    (h : a ≠ b) : (t.write a v).read b = t.read b := by
  have hval : (a : Nat) ≠ b := fun e => h (Fin.ext e)
  simp [write, read, hval]

end Tape

/-! ### Runs of equal cells -/

/-- A stretch of neighbouring cells with one value. -/
structure CellRun where
  address : Nat
  count : Nat
  value : UInt8
  deriving DecidableEq, Repr

/-- Extends a list of runs, the latest first, by one cell. Zero cells are
not recorded. -/
def CellRun.extend (runs : List CellRun) (address : Nat) (value : UInt8) :
    List CellRun :=
  if value = 0 then runs
  else
    match runs with
    | last :: earlier =>
        if last.value = value ∧ last.address + last.count = address then
          { last with count := last.count + 1 } :: earlier
        else ⟨address, 1, value⟩ :: runs
    | [] => [⟨address, 1, value⟩]

/-- The maximal runs of equal cells other than zero, by address. -/
def CellRun.ofCells (cells : Array UInt8) : List CellRun :=
  (cells.foldl
    (fun (state : Nat × List CellRun) value =>
      (state.1 + 1, CellRun.extend state.2 state.1 value))
    (0, [])).2.reverse

/-- The cells of a tape that are not zero, as runs of equal neighbours. -/
def Tape.runs (t : Tape) : List CellRun :=
  CellRun.ofCells t.cells.toArray

end TapeDebugger
