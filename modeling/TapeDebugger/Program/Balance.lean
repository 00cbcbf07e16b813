/-
The bracket check that is made before a program is loaded:

* `Imbalance`: where the check failed and how;
* `Imbalance.message`: the report that a user sees;
* `imbalance?`: the imbalance of a text, if it has one.

A machine runs any text and fails only when it takes a jump that has no
target; the check finds the fault before anything runs.
-/

namespace TapeDebugger

/-- The two ways in which brackets fail to balance. -/
inductive ImbalanceKind where
  /-- A `]` closes a loop that was never opened. -/
  | unexpectedClose
  /-- A `[` is still open at the end of the text. -/
  | unclosed
  deriving DecidableEq, Repr

/-- A failed bracket check. -/
structure Imbalance where
  /-- The offending `]`, or the last position of the text if a loop is still
  open there. -/
  index : Nat
  kind : ImbalanceKind
  deriving DecidableEq, Repr

/-- The report of a failed bracket check. -/
def Imbalance.message (e : Imbalance) : String :=
  match e.kind with
  | .unexpectedClose =>
      "Unbalanced brackets: unexpected ']' at " ++ toString e.index
  | .unclosed =>
      "Unbalanced brackets: unclosed '[' (end at " ++ toString e.index ++ ")"

/-- The first imbalance of the characters from position `pos` on, when
`depth` loops are open before them. -/
def imbalanceFrom (depth pos : Nat) : List Char → Option Imbalance
  | [] => if depth = 0 then none else some ⟨pos - 1, .unclosed⟩
  | '[' :: rest => imbalanceFrom (depth + 1) (pos + 1) rest
  | ']' :: rest =>
      match depth with
      | 0 => some ⟨pos, .unexpectedClose⟩
      | outer + 1 => imbalanceFrom outer (pos + 1) rest
  | _ :: rest => imbalanceFrom depth (pos + 1) rest

/-- The imbalance of a text, `none` if every bracket has its partner. -/
def imbalance? (text : String) : Option Imbalance :=
  imbalanceFrom 0 0 text.toList

end TapeDebugger
