/-
Arithmetic with 53 significant binary digits:

* `Binary`: a number with a binary point;
* `Binary.quotient`, `Binary.root`, `Binary.mul`: results rounded to the
  nearest number of 53 digits, a half to the even one;
* `Binary.floor`: the whole part.

All numbers are positive and less than `2 ^ 53`, so that the point never
stands beyond the last digit.
-/

namespace TapeDebugger

/-- The number `mantissa / 2 ^ scale`. -/
structure Binary where
  mantissa : Nat
  scale : Nat
  deriving DecidableEq, Repr

namespace Binary

/-- The quotient rounded to the nearest whole number, a half to the even
one. -/
def roundDiv (n d : Nat) : Nat :=
  let q := n / d
  let twice := 2 * (n % d)
  if twice < d then q
  else if d < twice then q + 1
  else q + q % 2

/-- A quotient rounded to 53 digits. The logarithms leave two scales to
choose from, and the right one gives no fewer than 53 digits. -/
def quotient (n d : Nat) : Binary :=
  let low := 52 + d.log2 - n.log2
  let scale := if d <<< 52 ≤ n <<< low then low else low + 1
  ⟨roundDiv (n <<< scale) d, scale⟩

/-- The product of two numbers, rounded to 53 digits. -/
def mul (a b : Binary) : Binary :=
  quotient (a.mantissa * b.mantissa) (1 <<< (a.scale + b.scale))

/-- The largest number whose square is at most `n`, if it consists of the
digits of `root` and the `digits` below them. -/
def rootBelow (n : Nat) : (digits root : Nat) → Nat
  | 0, root => root
  | digits + 1, root =>
      let next := root + 1 <<< digits
      rootBelow n digits (if next * next ≤ n then next else root)

/-- The square root of a number of 53 digits, rounded to 53 digits. The scale
is such that the radicand has 105 or 106 digits. -/
def root (a : Binary) : Binary :=
  let scale := (a.scale + 53) / 2
  let n := a.mantissa <<< (2 * scale - a.scale)
  let r := rootBelow n 54 0
  ⟨if r < n - r * r then r + 1 else r, scale⟩

/-- The whole part. -/
def floor (a : Binary) : Nat :=
  a.mantissa >>> a.scale

end Binary

end TapeDebugger
