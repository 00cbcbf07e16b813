/-
Sets of characters, given by ranges of their codes:

* `CodeRanges`: ranges with a first and a last code, in ascending order;
* `CodeRanges.has`: whether a code lies in one of them.
-/

namespace TapeDebugger

/-- Ranges of character codes, each a pair of its first and its last code, in
ascending order and without overlap. -/
abbrev CodeRanges := List (Nat × Nat)

/-- Whether a code lies in one of the ranges. The search ends at the first
range beyond the code. -/
def CodeRanges.has : CodeRanges → (code : Nat) → Bool
  | [], _ => false
  | (first, last) :: rest, code =>
      if code < first then false
      else code ≤ last || CodeRanges.has rest code

end TapeDebugger
