/-
How the program pane sets a program in lines.

* `Line.Neat`: no span is empty, and neighbours have different styles;
* `ProgramPane.lineStart`: the position of the first character of a line;
* `ProgramPane.glyphLines`: what the lines should show, given the pieces of
  the text between its line feeds;
* `ProgramPane.Typeset.glyphs_finished_foldl`: the characters still to come
  are added to the lines as these say;
* `ProgramPane.Typeset.Tidy`: what keeps the lines neat while they are set;
* `ProgramPane.Typeset.marked?_foldl`: which line is taken for that of the
  highlight;
* `ProgramPane.lines_show_program`: what the pane makes of a program.

A run outlives its line only as a style. That no marked space is put behind a
run of its own style is due to the highlight: there is but one of it, and no
other character has a background.
-/
import Mathlib.Tactic
import TapeDebugger.Pane.Program
import TapeDebugger.Proofs.Screen.Glyphs

namespace TapeDebugger

/-! ### Neat lines -/

namespace Line

/-- No span of the line is empty, and neighbours have different styles, so
that the line has as few spans as it can have. -/
structure Neat (l : Line) : Prop where
  chars_ne : ∀ s ∈ l, s.chars ≠ []
  styles_ne : List.IsChain (fun s s' => s.style ≠ s'.style) l

lemma neat_nil : Neat [] := ⟨by simp, .nil⟩

lemma Neat.reverse {l : Line} (h : l.Neat) : Neat l.reverse where
  chars_ne := fun s hs => h.chars_ne s (List.mem_reverse.mp hs)
  styles_ne := by
    rw [List.isChain_reverse]
    exact h.styles_ne.imp fun s s' hne => hne.symm

lemma neat_cons {s : Span} {l : Line} (hs : s.chars ≠ [])
    (hhead : ∀ s' ∈ l.head?, s.style ≠ s'.style) (h : l.Neat) :
    Neat (s :: l) where
  chars_ne := List.forall_mem_cons.mpr ⟨hs, h.chars_ne⟩
  styles_ne := List.isChain_cons.mpr ⟨hhead, h.styles_ne⟩

/-- Only the styles of neighbours are compared. -/
lemma Neat.with_chars {chars chars' : List Char} {style : Style} {l : Line}
    (h : Neat (⟨chars, style⟩ :: l)) (hne : chars' ≠ []) :
    Neat (⟨chars', style⟩ :: l) := by
  obtain ⟨-, hchars⟩ := List.forall_mem_cons.mp h.chars_ne
  obtain ⟨hhead, hstyles⟩ := List.isChain_cons.mp h.styles_ne
  exact neat_cons hne hhead ⟨hchars, hstyles⟩

end Line

namespace ProgramPane

/-! ### What the lines should show -/

/-- The characters in the first `l` of some pieces and in the line feeds that
end them. -/
def pieceStart (pieces : List (List Char)) (l : Nat) : Nat :=
  ((pieces.take l).map fun piece => piece.length + 1).sum

/-- The position at which line `l` of a text begins. -/
def lineStart (chars : List Char) (l : Nat) : Nat :=
  pieceStart (chars.splitOn '\n') l

/-- The characters of a piece that begins at position `start`. -/
def pieceGlyphs (h : Highlight) (start : Nat) (piece : List Char) :
    List (Char × Style) :=
  piece.mapIdx fun i c => (c, styleAt h (start + i) c)

/-- What a line feed at position `pos` adds to its line. -/
def feedGlyphs (h : Highlight) (pos : Nat) : List (Char × Style) :=
  if h.index? = some pos then [(' ', h.style)] else []

/-- The lines of the pieces of a text, the first of which begins at position
`start`. A line feed ends each piece but the last. -/
def glyphLines (h : Highlight) : (start : Nat) → List (List Char) →
    List (List (Char × Style))
  | _, [] => []
  | start, piece :: rest =>
      (pieceGlyphs h start piece ++
        if rest = [] then [] else feedGlyphs h (start + piece.length)) ::
      glyphLines h (start + piece.length + 1) rest

variable {h : Highlight} {start : Nat} {pieces : List (List Char)} {l : Nat}

lemma pieceGlyphs_cons (h : Highlight) (start : Nat) (c : Char)
    (piece : List Char) :
    pieceGlyphs h start (c :: piece) =
      (c, styleAt h start c) :: pieceGlyphs h (start + 1) piece := by
  simp [pieceGlyphs, List.mapIdx_cons, Nat.add_assoc, Nat.add_comm 1]

/-- A line feed ends the line at once. -/
lemma glyphLines_nil_cons (h : Highlight) (start : Nat) (hne : pieces ≠ []) :
    glyphLines h start ([] :: pieces) =
      feedGlyphs h start :: glyphLines h (start + 1) pieces := by
  simp [glyphLines, pieceGlyphs, hne]

/-- Any other character is added to the first line. -/
lemma glyphLines_modifyHead (h : Highlight) (start : Nat) (c : Char)
    (hne : pieces ≠ []) :
    glyphLines h start (pieces.modifyHead (c :: ·)) =
      (glyphLines h (start + 1) pieces).modifyHead
        ((c, styleAt h start c) :: ·) := by
  cases pieces with
  | nil => exact absurd rfl hne
  | cons piece rest =>
      have hend : start + (piece.length + 1) = start + 1 + piece.length := by
        omega
      simp only [List.modifyHead_cons, glyphLines, pieceGlyphs_cons,
        List.length_cons, List.cons_append, hend]

lemma pieceStart_succ (piece : List Char) (rest : List (List Char)) (l : Nat) :
    pieceStart (piece :: rest) (l + 1) =
      piece.length + 1 + pieceStart rest l := by
  simp [pieceStart]

lemma length_glyphLines (h : Highlight) (start : Nat)
    (pieces : List (List Char)) :
    (glyphLines h start pieces).length = pieces.length := by
  induction pieces generalizing start with
  | nil => rfl
  | cons piece rest ih => rw [glyphLines, List.length_cons, ih, List.length_cons]

lemma getElem?_glyphLines (h : Highlight) (start : Nat)
    (pieces : List (List Char)) (l : Nat) :
    (glyphLines h start pieces)[l]? =
      pieces[l]?.map fun piece =>
        pieceGlyphs h (start + pieceStart pieces l) piece ++
          if l + 1 < pieces.length then
            feedGlyphs h (start + pieceStart pieces l + piece.length)
          else [] := by
  induction pieces generalizing start l with
  | nil => simp [glyphLines]
  | cons piece rest ih =>
      cases l with
      | zero => cases rest <;> simp [glyphLines, pieceStart]
      | succ l =>
          have hstart : start + piece.length + 1 + pieceStart rest l
              = start + pieceStart (piece :: rest) (l + 1) := by
            rw [pieceStart_succ]
            omega
          rw [glyphLines, List.getElem?_cons_succ, ih, hstart]
          simp

/-! ### Positions of lines -/

lemma length_splitOn (chars : List Char) :
    (chars.splitOn '\n').length = chars.count '\n' + 1 := by
  induction chars with
  | nil => rfl
  | cons c rest ih =>
      rw [List.splitOn_cons_eq_if_modifyHead]
      split_ifs with hc
      · obtain rfl : c = '\n' := by simpa using hc
        simp [ih]
      · have hne : c ≠ '\n' := by simpa using hc
        simp [ih, hne]

/-- From the beginning of a piece on, a text consists of this piece and the
ones behind it. -/
lemma drop_pieceStart (hl : l < pieces.length) :
    (['\n'].intercalate pieces).drop (pieceStart pieces l) =
      ['\n'].intercalate (pieces.drop l) := by
  induction pieces generalizing l with
  | nil => exact absurd hl (Nat.not_lt_zero l)
  | cons piece rest ih =>
      cases l with
      | zero => rfl
      | succ l =>
          have hl' : l < rest.length := Nat.lt_of_succ_lt_succ hl
          have hne : rest ≠ [] := List.ne_nil_of_length_pos (by omega)
          rw [pieceStart_succ, List.intercalate_cons_of_ne_nil hne,
            List.drop_succ_cons, ← ih hl', List.append_assoc,
            Nat.add_assoc, List.drop_append]
          simp [Nat.add_comm 1]

lemma drop_lineStart {chars piece : List Char}
    (hpiece : (chars.splitOn '\n')[l]? = some piece) :
    chars.drop (lineStart chars l) =
      ['\n'].intercalate (piece :: (chars.splitOn '\n').drop (l + 1)) := by
  obtain ⟨hl, rfl⟩ := List.getElem?_eq_some_iff.mp hpiece
  have hdrop := drop_pieceStart hl
  rwa [List.intercalate_splitOn, List.drop_eq_getElem_cons hl] at hdrop

/-- Behind the characters of a line stands a line feed exactly if another line
follows. -/
lemma getElem?_lineEnd {chars piece : List Char}
    (hpiece : (chars.splitOn '\n')[l]? = some piece) :
    chars[lineStart chars l + piece.length]? = some '\n' ↔
      l + 1 < (chars.splitOn '\n').length := by
  rw [← List.getElem?_drop, drop_lineStart hpiece]
  cases hrest : (chars.splitOn '\n').drop (l + 1) with
  | nil => simpa using hrest
  | cons next rest =>
      have hlt : l + 1 < (chars.splitOn '\n').length := by
        by_contra hge
        rw [List.drop_eq_nil_of_le (Nat.not_lt.mp hge)] at hrest
        exact List.cons_ne_nil _ _ hrest.symm
      simp [List.intercalate_cons_of_ne_nil, hlt]

/-- A line ends in a marked space exactly if the highlight is the line feed
behind it. -/
lemma feedGlyphs_lineEnd (h : Highlight) {chars piece : List Char}
    (hpiece : (chars.splitOn '\n')[l]? = some piece) :
    (if l + 1 < (chars.splitOn '\n').length then
        feedGlyphs h (lineStart chars l + piece.length)
      else []) =
      if h.index? = some (lineStart chars l + piece.length) ∧
          chars[lineStart chars l + piece.length]? = some '\n' then
        [(' ', h.style)]
      else [] := by
  simp only [feedGlyphs, getElem?_lineEnd hpiece, and_comm (b := _ < _),
    ite_and]

/-! ### Setting the lines -/

namespace Typeset

variable {t : Typeset} {k : Nat}

lemma closed_cases (t : Typeset) :
    (t.run = [] ∧ t.closed = t.spans) ∨
      (t.run ≠ [] ∧ t.closed = ⟨t.run.reverse, t.style⟩ :: t.spans) := by
  rw [closed]
  cases t.run with
  | nil => exact Or.inl ⟨rfl, rfl⟩
  | cons c run => exact Or.inr ⟨List.cons_ne_nil c run, rfl⟩

lemma glyphs_closed (t : Typeset) :
    Line.glyphs t.closed.reverse =
      Line.glyphs t.spans.reverse ++ t.run.reverse.map (·, t.style) := by
  obtain ⟨hrun, hclosed⟩ | ⟨-, hclosed⟩ := t.closed_cases
  · simp [hclosed, hrun]
  · simp [hclosed, Span.glyphs]

/-- The run may be closed at any time. -/
lemma glyphs_closed_addChar (h : Highlight) (pos : Nat) (c : Char)
    (t : Typeset) :
    Line.glyphs (t.addChar h pos c).closed.reverse =
      Line.glyphs t.closed.reverse ++ [(c, styleAt h pos c)] := by
  rw [glyphs_closed, addChar]
  dsimp only
  split_ifs with hstyle
  · simp [glyphs_closed, hstyle]
  · simp

lemma lines_addChar (h : Highlight) (pos : Nat) (c : Char) (t : Typeset) :
    (t.addChar h pos c).lines = t.lines := by
  rw [addChar]
  dsimp only
  split_ifs <;> rfl

lemma glyphs_line_endLine (h : Highlight) (pos : Nat) (t : Typeset) :
    (t.endLine h pos).lines.map Line.glyphs =
      (Line.glyphs t.closed.reverse ++ feedGlyphs h pos)
        :: t.lines.map Line.glyphs := by
  rw [endLine, feedGlyphs]
  split_ifs <;> simp [Span.glyphs]

/-- **What is set is what should be shown.** The characters still to come are
added to the line begun, and their line feeds begin the lines that follow. -/
lemma glyphs_finished_foldl (h : Highlight) (chars : List Char) (k : Nat)
    (t : Typeset) :
    ((chars.zipIdx k).foldl (add h) t).finished.map Line.glyphs =
      t.lines.reverse.map Line.glyphs ++
        (glyphLines h k (chars.splitOn '\n')).modifyHead
          (Line.glyphs t.closed.reverse ++ ·) := by
  induction chars generalizing k t with
  | nil => simp [finished, glyphLines, pieceGlyphs]
  | cons c rest ih =>
      have hne := List.splitOn_ne_nil '\n' rest
      rw [List.zipIdx_cons, List.foldl_cons, ih,
        List.splitOn_cons_eq_if_modifyHead, add]
      by_cases hc : c = '\n'
      · have hclosed : (t.endLine h k).closed = [] := rfl
        rw [if_pos hc, if_pos (by simpa using hc), glyphLines_nil_cons h k hne,
          hclosed, List.map_reverse, glyphs_line_endLine]
        simp only [List.reverse_cons, List.reverse_nil, Line.glyphs_nil,
          List.nil_append, List.append_assoc, List.modifyHead_cons,
          List.map_reverse, List.singleton_append]
        exact congrArg (_ ++ _ :: ·) (congrFun List.modifyHead_id _)
      · rw [if_neg hc, if_neg (by simpa using hc), lines_addChar,
          glyphLines_modifyHead h k c hne, glyphs_closed_addChar,
          List.modifyHead_modifyHead]
        simp only [List.append_assoc, List.singleton_append]
        rfl

/-! ### Neatness -/

/-- After `k` characters all lines are neat, the one begun too, and it has no
spans without a run. A highlight that is still to come does not look like the
run. -/
structure Tidy (h : Highlight) (k : Nat) (t : Typeset) : Prop where
  lines_neat : ∀ line ∈ t.lines, line.Neat
  closed_neat : Line.Neat t.closed
  spans_eq : t.run = [] → t.spans = []
  style_ne : t.run ≠ [] → ∀ i, h.index? = some i → k ≤ i → t.style ≠ h.style

/-- The mark of the highlight has a background, and no other character has
one. -/
lemma charStyle_ne (c : Char) {i : Nat} (hi : h.index? = some i) :
    charStyle c ≠ h.style := by
  have hplain : (charStyle c).bg = none := by
    rw [charStyle]
    split <;> rfl
  have hmark : h.style.bg ≠ none := by
    cases h with
    | none => exact absurd hi (by simp [Highlight.index?])
    | counter i => simp [Highlight.style, pointerStyle]
    | error i => simp [Highlight.style]
  exact fun heq => hmark (heq ▸ hplain)

/-- A span of another style than the run may be put behind the line. -/
lemma Tidy.neat_cons (ht : t.Tidy h k) {s : Span} (hs : s.chars ≠ [])
    (hstyle : t.run ≠ [] → s.style ≠ t.style) :
    Line.Neat (s :: t.closed) := by
  refine Line.neat_cons hs (fun s' hs' => ?_) ht.closed_neat
  obtain ⟨hrun, hclosed⟩ | ⟨hrun, hclosed⟩ := t.closed_cases
  · rw [hclosed, ht.spans_eq hrun] at hs'
    exact absurd hs' (by simp)
  · rw [hclosed] at hs'
    obtain rfl : _ = s' := by simpa using hs'
    exact hstyle hrun

lemma Tidy.endLine (ht : t.Tidy h k) : (t.endLine h k).Tidy h (k + 1) where
  lines_neat := by
    refine List.forall_mem_cons.mpr ⟨Line.Neat.reverse ?_, ht.lines_neat⟩
    split_ifs with hmarked
    · refine ht.neat_cons (List.cons_ne_nil _ _) fun hrun => ?_
      exact (ht.style_ne hrun k hmarked le_rfl).symm
    · exact ht.closed_neat
  closed_neat := Line.neat_nil
  spans_eq := fun _ => rfl
  style_ne := fun hrun => absurd rfl hrun

lemma Tidy.addChar (ht : t.Tidy h k) (c : Char) :
    (t.addChar h k c).Tidy h (k + 1) where
  lines_neat := by
    rw [lines_addChar]
    exact ht.lines_neat
  closed_neat := by
    rw [Typeset.addChar]
    split_ifs with hstyle
    · show Line.Neat (⟨(c :: t.run).reverse, styleAt h k c⟩ :: t.spans)
      have hne : (c :: t.run).reverse ≠ [] := by simp
      obtain ⟨hrun, -⟩ | ⟨-, hclosed⟩ := t.closed_cases
      · rw [ht.spans_eq hrun]
        exact Line.neat_cons hne (by simp) Line.neat_nil
      · have hneat := ht.closed_neat
        rw [hclosed, ← hstyle] at hneat
        exact hneat.with_chars hne
    · exact ht.neat_cons (List.cons_ne_nil c []) fun _ => hstyle
  spans_eq := fun hrun => absurd hrun (List.cons_ne_nil _ _)
  style_ne := by
    intro _ i hi hk
    have hother : h.index? ≠ some k := by
      rw [hi]
      simp
      omega
    show styleAt h k c ≠ h.style
    rw [styleAt, if_neg hother]
    exact charStyle_ne c hi

lemma tidy_empty (h : Highlight) : Tidy h 0 {} where
  lines_neat := by simp
  closed_neat := Line.neat_nil
  spans_eq := fun _ => rfl
  style_ne := fun hrun => absurd rfl hrun

lemma Tidy.foldl (ht : t.Tidy h k) (chars : List Char) :
    ((chars.zipIdx k).foldl (add h) t).Tidy h (k + chars.length) := by
  induction chars generalizing k t with
  | nil => exact ht
  | cons c rest ih =>
      rw [List.zipIdx_cons, List.foldl_cons, List.length_cons,
        Nat.add_comm rest.length, ← Nat.add_assoc]
      refine ih ?_
      rw [add]
      split_ifs
      · exact ht.endLine
      · exact ht.addChar c

lemma Tidy.finished_neat (ht : t.Tidy h k) : ∀ line ∈ t.finished, line.Neat := by
  intro line hline
  rw [finished, List.mem_reverse, List.mem_cons] at hline
  obtain rfl | hmem := hline
  · exact ht.closed_neat.reverse
  · exact ht.lines_neat line hmem

/-! ### The line of the highlight -/

lemma marked?_add (h : Highlight) (t : Typeset) (c : Char) (pos : Nat) :
    (t.add h (c, pos)).marked? = t.mark? h pos := by
  rw [add]
  split_ifs <;> rfl

lemma length_lines_add (h : Highlight) (t : Typeset) (c : Char) (pos : Nat) :
    (t.add h (c, pos)).lines.length =
      t.lines.length + if c = '\n' then 1 else 0 := by
  rw [add]
  split_ifs
  · rfl
  · rw [lines_addChar]
    rfl

lemma marked?_foldl_of_no_highlight (hnone : h.index? = none)
    (chars : List Char) (k : Nat) (t : Typeset) :
    ((chars.zipIdx k).foldl (add h) t).marked? = t.marked? := by
  induction chars generalizing k t with
  | nil => rfl
  | cons c rest ih =>
      rw [List.zipIdx_cons, List.foldl_cons, ih, marked?_add, mark?, hnone,
        if_neg (by simp)]

/-- A highlight among the characters still to come is in the line that is
begun when it is reached. -/
lemma marked?_foldl {i : Nat} (hi : h.index? = some i) (chars : List Char)
    (k : Nat) (t : Typeset) :
    ((chars.zipIdx k).foldl (add h) t).marked? =
      if k ≤ i ∧ i < k + chars.length then
        some (t.lines.length + (chars.take (i - k)).count '\n')
      else t.marked? := by
  induction chars generalizing k t with
  | nil =>
      rw [if_neg (by simp)]
      rfl
  | cons c rest ih =>
      rw [List.zipIdx_cons, List.foldl_cons, ih, marked?_add, mark?, hi,
        length_lines_add, List.length_cons]
      rcases Nat.lt_trichotomy i k with hlt | rfl | hgt
      · have hother : ¬ some i = some k := by simp; omega
        rw [if_neg hother, if_neg (by omega), if_neg (by omega)]
      · rw [if_pos rfl, if_neg (by omega), if_pos (by omega), Nat.sub_self]
        simp
      · have hother : ¬ some i = some k := by simp; omega
        have hwithin : (k + 1 ≤ i ∧ i < k + 1 + rest.length) ↔
            (k ≤ i ∧ i < k + (rest.length + 1)) := by omega
        have htake : (c :: rest).take (i - k)
            = c :: rest.take (i - (k + 1)) := by
          rw [show i - k = i - (k + 1) + 1 by omega, List.take_succ_cons]
        have hcount : t.lines.length + (if c = '\n' then 1 else 0)
              + (rest.take (i - (k + 1))).count '\n'
            = t.lines.length + ((c :: rest).take (i - k)).count '\n' := by
          rw [htake, List.count_cons]
          simp only [beq_iff_eq]
          omega
        rw [if_neg hother, hcount]
        simp only [hwithin]

end Typeset

/-! ### The lines of the pane -/

/-- The line of the highlight: as many line feeds stand before it. It is
`none` if the highlight is outside the text. -/
def highlightLine? (chars : List Char) (h : Highlight) : Option Nat :=
  match h.index? with
  | some i =>
      if i < chars.length then some ((chars.take i).count '\n') else none
  | none => none

lemma styledLines_snd (source : String) (h : Highlight) :
    (styledLines source h).2 = highlightLine? source.toList h := by
  rw [highlightLine?, styledLines]
  cases hi : h.index? with
  | some i =>
      rw [Typeset.marked?_foldl hi]
      simp
  | none => exact Typeset.marked?_foldl_of_no_highlight hi _ _ _

lemma highlightLine?_eq_some_iff {chars : List Char} :
    highlightLine? chars h = some l ↔
      ∃ i, h.index? = some i ∧ i < chars.length ∧
        l = (chars.take i).count '\n' := by
  rw [highlightLine?]
  cases h.index? with
  | none => simp
  | some i => simp [eq_comm]

lemma map_glyphs_styledLines (source : String) (h : Highlight) :
    (styledLines source h).1.map Line.glyphs =
      glyphLines h 0 (source.toList.splitOn '\n') := by
  rw [styledLines, Typeset.glyphs_finished_foldl]
  exact congrFun List.modifyHead_id _

lemma length_styledLines (source : String) (h : Highlight) :
    (styledLines source h).1.length = source.toList.count '\n' + 1 := by
  rw [← List.length_map Line.glyphs, map_glyphs_styledLines,
    length_glyphLines, length_splitOn]

/-- **The program pane shows the program.** It has one line more than the
program has line feeds. Expanded into characters and styles, a line consists
of the characters of its piece of the text, with the style of the mark at the
place of the highlight and with their own styles elsewhere, and of a marked
space behind them if the highlight is the line feed that ends the line. No
line has an empty span, or two neighbours of one style. The line that is given
for the highlight is the number of line feeds before it, and none is given
exactly if the highlight is outside the text. -/
theorem lines_show_program (source : String) (h : Highlight) :
    let chars := source.toList
    let lines := (styledLines source h).1
    let line? := (styledLines source h).2
    lines.length = chars.count '\n' + 1 ∧
      (lines.map Line.glyphs =
        (chars.splitOn '\n').mapIdx fun l piece =>
          let start := lineStart chars l
          let stop := start + piece.length
          (piece.mapIdx fun i c =>
            (c, if h.index? = some (start + i) then h.style
              else charStyle c)) ++
          if h.index? = some stop ∧ chars[stop]? = some '\n' then
            [(' ', h.style)]
          else []) ∧
      (∀ line ∈ lines, line.Neat) ∧
      ∀ l, line? = some l ↔
        ∃ i, h.index? = some i ∧ i < chars.length ∧
          l = (chars.take i).count '\n' := by
  intro chars lines line?
  refine ⟨length_styledLines source h, ?_, ?_, fun l => ?_⟩
  · refine List.ext_getElem? fun l => ?_
    rw [map_glyphs_styledLines, getElem?_glyphLines, List.getElem?_mapIdx]
    cases hpiece : (chars.splitOn '\n')[l]? with
    | none => rfl
    | some piece =>
        have hfeed := feedGlyphs_lineEnd h hpiece
        rw [Option.map_some, Option.map_some, Nat.zero_add]
        exact congrArg (some <| _ ++ ·) hfeed
  · exact ((Typeset.tidy_empty h).foldl chars).finished_neat
  · rw [show line? = highlightLine? chars h from styledLines_snd source h]
    exact highlightLine?_eq_some_iff

/-- In `+*`, a line feed and `[`, the mark of an error at the line feed shows
behind the first line, which has three spans. -/
theorem lines_show_program_marked_feed :
    let h := Highlight.error 2
    let lines := (styledLines "+*\n[" h).1
    lines = [[⟨['+'], charStyle '+'⟩, ⟨['*'], charStyle '*'⟩,
          ⟨[' '], h.style⟩], [⟨['['], charStyle '['⟩]] ∧
      (styledLines "+*\n[" h).2 = some 0 ∧ ∀ line ∈ lines, line.Neat := by
  intro h lines
  obtain ⟨-, -, hneat, hline⟩ := lines_show_program "+*\n[" h
  exact ⟨by decide, (hline 0).mpr ⟨2, rfl, by decide, by decide⟩, hneat⟩

end ProgramPane

end TapeDebugger
