/-
What a panel leaves on the screen.

* `Area.Within`: one area lies in another;
* `Panel.getElem?_marks`: the marks of a single row;
* `Placement.cell_draw_of_inside`: a panel without a style of its own changes
  the places within its border by the marks of its lines;
* `Placement.cell_draw_of_edge`: and puts a character on every other place of
  its area;
* `Area.BlankOn`: an area of blank places;
* `Screen.shown_succ`: a place behind one of a single column shows what it
  holds.
-/
import Mathlib.Tactic
import TapeDebugger.Screen.Basic

namespace TapeDebugger

/-! ### Areas -/

namespace Area

variable {a b : Area} {x y : Nat}

lemma contains_iff :
    a.contains x y ↔
      (a.x ≤ x ∧ x < a.x + a.width) ∧ a.y ≤ y ∧ y < a.y + a.height := by
  simp [contains, and_assoc]

/-- No place of the area is outside the other. -/
structure Within (a b : Area) : Prop where
  left : b.x ≤ a.x
  right : a.x + a.width ≤ b.x + b.width
  top : b.y ≤ a.y
  bottom : a.y + a.height ≤ b.y + b.height

lemma Within.inter_eq (h : a.Within b) : a.inter b = a := by
  obtain ⟨hleft, hright, htop, hbottom⟩ := h
  simp [inter, max_eq_left hleft, max_eq_left htop, min_eq_left hright,
    min_eq_left hbottom]

end Area

/-! ### Borders -/

namespace Border

variable {b : Border} {a : Area} {s : Screen} {x y : Nat}

/-- The character of the border or of its title at a place of an area, `none`
inside. -/
def char? (b : Border) (a : Area) (x y : Nat) : Option Char :=
  (titleChar b.title.toList.toArray a.width x y).or
    (borderChar a.width a.height x y)

lemma char?_of_inside (b : Border) (hx : 0 < x ∧ x + 1 < a.width)
    (hy : 0 < y ∧ y + 1 < a.height) : b.char? a x y = none := by
  rw [char?, titleChar, if_neg (by omega), borderChar, if_neg (by omega),
    if_neg (by omega), if_neg (by omega)]
  rfl

lemma char?_of_edge (b : Border)
    (h : x = 0 ∨ x + 1 = a.width ∨ y = 0 ∨ y + 1 = a.height) :
    ∃ c, b.char? a x y = some c := by
  have hborder : (borderChar a.width a.height x y).isSome := by
    rw [borderChar]
    split_ifs <;> first | rfl | omega
  refine Option.isSome_iff_exists.mp ?_
  rw [char?, Option.isSome_or, hborder, Bool.or_true]

lemma char?_left (b : Border) (hy : 0 < y ∧ y + 1 < a.height) :
    b.char? a 0 y = some '│' := by
  rw [char?, titleChar, if_neg (by omega), borderChar, if_neg (by omega),
    if_neg (by omega), if_pos (Or.inl rfl)]
  rfl

lemma cell_draw (b : Border) (hwithin : a.Within s.area)
    (hmem : a.contains x y) :
    (b.draw a s).cell x y =
      match b.char? a (x - a.x) (y - a.y) with
      | some c => ⟨[c], (s.cell x y).style.overlay b.style⟩
      | none => s.cell x y := by
  rw [Border.draw, hwithin.inter_eq, Screen.paint]
  exact if_pos hmem

end Border

/-! ### Panels -/

lemma Panel.getElem?_marks (p : Panel) (a : Area) {row : Nat}
    (h : row < (p.inner a).height) :
    (p.marks a)[row]? =
      p.lines[row]?.map (·.marks (p.inner a).width p.alignment) := by
  rw [Panel.marks, List.getElem?_map, List.getElem?_take_of_lt h]

namespace Placement

variable {p : Placement} {b : Border} {s : Screen} {x y : Nat}

lemma inside_eq (hborder : p.panel.border = some b) :
    p.inside = p.area.inset.indent p.panel.indent := by
  rw [inside, Panel.inner, hborder]

/-- A panel without a style of its own is drawn in two steps. -/
lemma draw_of_plain (hborder : p.panel.border = some b)
    (hbase : p.panel.base = .plain) :
    p.draw s = (b.draw p.area s).write p.inside
      ((p.panel.marks p.area).map List.toArray).toArray := by
  have hpaint (a : Area) (s : Screen) : p.paintBase a s = s := by
    obtain ⟨width, height, cell⟩ := s
    simp [paintBase, Screen.paint, hbase]
  rw [draw]
  simp only [hpaint, hborder]

/-- Within the border the marks of the lines are made. -/
lemma cell_draw_of_inside (hborder : p.panel.border = some b)
    (hbase : p.panel.base = .plain) (hwithin : p.area.Within s.area)
    (hx : x < p.inside.width) (hy : y < p.inside.height) :
    (p.draw s).cell (p.inside.x + x) (p.inside.y + y) =
      (((p.panel.marks p.area)[y]?.bind (·[x]?)).getD .keep).on
        (s.cell (p.inside.x + x) (p.inside.y + y)) := by
  have hinside : p.inside.contains (p.inside.x + x) (p.inside.y + y) :=
    Area.contains_iff.mpr (by omega)
  have hedge : (b.draw p.area s).cell (p.inside.x + x) (p.inside.y + y)
      = s.cell (p.inside.x + x) (p.inside.y + y) := by
    simp only [inside_eq hborder, Area.indent, Area.inset] at hx hy ⊢
    rw [b.cell_draw hwithin (Area.contains_iff.mpr (by omega)),
      b.char?_of_inside (by omega) (by omega)]
  rw [draw_of_plain hborder hbase, Screen.write, Screen.paint]
  dsimp only
  rw [if_pos hinside, hedge, Nat.add_sub_cancel_left,
    Nat.add_sub_cancel_left, List.getElem?_toArray, List.getElem?_map]
  cases (p.panel.marks p.area)[y]? with
  | none => rfl
  | some marks => simp

/-- Outside, the border with its title is seen. -/
lemma cell_draw_of_edge (hborder : p.panel.border = some b)
    (hbase : p.panel.base = .plain) (hwithin : p.area.Within s.area)
    (hmem : p.area.contains x y) (hout : ¬ p.inside.contains x y)
    {c : Char} (hc : b.char? p.area (x - p.area.x) (y - p.area.y) = some c) :
    (p.draw s).cell x y = ⟨[c], (s.cell x y).style.overlay b.style⟩ := by
  rw [draw_of_plain hborder hbase, Screen.write, Screen.paint]
  dsimp only
  rw [if_neg hout, b.cell_draw hwithin hmem, hc]

end Placement

/-! ### What is shown -/

/-- The area lies on the screen, and its places are blank. -/
structure Area.BlankOn (a : Area) (s : Screen) : Prop where
  within : a.Within s.area
  cell_eq : ∀ x y, a.contains x y → s.cell x y = .blank

/-- A place behind one of a single column shows what it holds. -/
lemma Screen.shown_succ {s : Screen} {x y : Nat}
    (h : (s.cell x y).isWide = false) :
    s.shown (x + 1) y = s.cell (x + 1) y := by
  rw [shown, covered, h]
  rfl

end TapeDebugger
