/-
Lines expanded into characters, and the columns that these take.

* `Span.glyphs` and `Line.glyphs`: the characters, each with its style;
* `clusters_of_other`: characters that do nothing at the boundary of a cluster
  stand alone;
* `Span.Apart`: every character of a span stands alone;
* `IsPlain`: a character that also takes one column;
* `Line.visibleGlyphs`: the characters of a line that have a column;
* `Line.marks_of_apart`: these are what the line leaves, if no other character
  is in it.
-/
import Mathlib.Tactic
import TapeDebugger.Screen.Line

namespace TapeDebugger

/-! ### Glyphs -/

/-- The characters of a span, each with its style. -/
def Span.glyphs (s : Span) : List (Char × Style) :=
  s.chars.map (·, s.style)

namespace Line

/-- The characters of a line, each with its style. -/
def glyphs (l : Line) : List (Char × Style) :=
  l.flatMap Span.glyphs

@[simp]
lemma glyphs_nil : glyphs [] = [] := rfl

@[simp]
lemma glyphs_cons (s : Span) (l : Line) :
    glyphs (s :: l) = s.glyphs ++ glyphs l := rfl

@[simp]
lemma glyphs_append (l l' : Line) : glyphs (l ++ l') = glyphs l ++ glyphs l' :=
  List.flatMap_append

/-- The characters of a line that have a column of their own. -/
def visibleGlyphs (l : Line) : List (Char × Style) :=
  l.glyphs.filter fun g => symbolColumns [g.1] = 1

lemma visibleGlyphs_append (l l' : Line) :
    visibleGlyphs (l ++ l') = l.visibleGlyphs ++ l'.visibleGlyphs := by
  rw [visibleGlyphs, glyphs_append, List.filter_append]
  rfl

lemma columns_of_mem_visibleGlyphs {l : Line} {g : Char × Style}
    (h : g ∈ l.visibleGlyphs) : symbolColumns [g.1] = 1 := by
  simpa using (List.mem_filter.mp h).2

end Line

/-! ### Characters that stand alone -/

namespace Clustering

variable {x : Clustering}

/-- Only a prepended mark keeps such a character in its cluster. -/
lemma joins_other (h : x.last ≠ .prepended) : x.joins .other = false := by
  obtain ⟨done, chars, last, opening⟩ := x
  cases last <;> cases opening <;> first | rfl | exact absurd rfl h

lemma finished_foldl_of_other {chars : List Char}
    (hchars : ∀ c ∈ chars, CharClass.ofChar c = .other)
    (h : x.last ≠ .prepended) :
    (chars.foldl add x).finished
      = (chars.map ([·])).reverse ++ x.finished := by
  induction chars generalizing x with
  | nil => rfl
  | cons c rest ih =>
      obtain ⟨hc, hrest⟩ := List.forall_mem_cons.mp hchars
      have hadd : x.add c = ⟨x.finished, [c], .other, .nothing⟩ := by
        rw [add, hc, joins_other h]
        rfl
      rw [List.foldl_cons, hadd, ih hrest (by simp)]
      simp [finished]

end Clustering

/-- Characters that do nothing at the boundary of a cluster are clusters of
their own. -/
lemma clusters_of_other {chars : List Char}
    (h : ∀ c ∈ chars, CharClass.ofChar c = .other) :
    clusters chars = chars.map ([·]) := by
  rw [clusters, Clustering.finished_foldl_of_other h (by decide)]
  simp [Clustering.finished]

lemma clusters_singleton (c : Char) : clusters [c] = [[c]] := by
  simp [clusters, Clustering.add, Clustering.finished, Clustering.joins,
    CharClass.standsAlone]

/-- Every character of the span stands alone. -/
def Span.Apart (s : Span) : Prop :=
  clusters s.chars = s.chars.map ([·])

lemma Line.symbols_of_apart {l : Line} (h : ∀ s ∈ l, s.Apart) :
    l.symbols = l.glyphs.map fun g => ([g.1], g.2) := by
  rw [Line.symbols, Line.glyphs, List.map_flatMap]
  refine List.flatMap_congr fun s hs => ?_
  rw [Span.symbols, Span.glyphs, h s hs, List.map_map, List.map_map]
  rfl

/-! ### Columns -/

/-- A character that does nothing at the boundary of a cluster and takes one
column. -/
def IsPlain (c : Char) : Prop :=
  CharClass.ofChar c = .other ∧ symbolColumns [c] = 1

instance (c : Char) : Decidable (IsPlain c) :=
  inferInstanceAs (Decidable (_ ∧ _))

lemma Span.apart_of_plain {s : Span} (h : ∀ c ∈ s.chars, IsPlain c) :
    s.Apart :=
  clusters_of_other fun c hc => (h c hc).1

lemma Line.visibleGlyphs_of_plain {l : Line}
    (h : ∀ s ∈ l, ∀ c ∈ s.chars, IsPlain c) : l.visibleGlyphs = l.glyphs := by
  refine List.filter_eq_self.mpr fun g hg => ?_
  obtain ⟨s, hs, hgs⟩ := List.mem_flatMap.mp hg
  obtain ⟨c, hc, rfl⟩ := List.mem_map.mp hgs
  exact decide_eq_true (h s hs c hc).2

/-- The mark of a character in a style. -/
def Mark.ofGlyph (g : Char × Style) : Mark :=
  .glyph [g.1] g.2

/-- A place with a character in a style. -/
def Cell.ofGlyph (g : Char × Style) : Cell :=
  ⟨[g.1], g.2⟩

lemma Mark.on_ofGlyph (g : Char × Style) :
    (Mark.ofGlyph g).on .blank = .ofGlyph g := by
  rw [ofGlyph, on, Cell.blank, Style.plain_overlay]
  rfl

/-- Characters of at most one column are cut to the room. -/
lemma fill_of_narrow {width : Nat} (hwidth : 0 < width) (room : Nat)
    {glyphs : List (Char × Style)}
    (h : ∀ g ∈ glyphs, symbolColumns [g.1] ≤ 1) :
    fill width room (glyphs.map fun g => ([g.1], g.2)) =
      ((glyphs.filter fun g => symbolColumns [g.1] = 1).take room).map
        .ofGlyph := by
  induction glyphs generalizing room with
  | nil => simp [fill]
  | cons g rest ih =>
      obtain ⟨hg, hrest⟩ := List.forall_mem_cons.mp h
      rw [List.map_cons, fill]
      obtain hnone | hone : symbolColumns [g.1] = 0 ∨ symbolColumns [g.1] = 1 := by
        omega
      · rw [if_pos (Or.inl hnone), ih _ hrest, List.filter_cons_of_neg]
        simp [hnone]
      · rw [if_neg (by omega), List.filter_cons_of_pos (by simpa using hone),
          hone]
        cases room with
        | zero => rfl
        | succ room =>
            rw [if_neg (by omega), List.take_succ_cons, List.map_cons,
              Nat.add_sub_cancel, ih _ hrest]
            rfl

/-- A line whose characters stand alone, none wider than a column, leaves
those that have one. -/
lemma Line.marks_of_apart {l : Line} {width : Nat} (hwidth : 0 < width)
    (hapart : ∀ s ∈ l, s.Apart)
    (hnarrow : ∀ g ∈ l.glyphs, symbolColumns [g.1] ≤ 1) :
    l.marks width .left = (l.visibleGlyphs.take width).map .ofGlyph := by
  rw [Line.marks, symbols_of_apart hapart, fill_of_narrow hwidth _ hnarrow]
  rfl

end TapeDebugger
