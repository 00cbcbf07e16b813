/-
The line of the highlight is always on the screen.

* `InWindow`: a line is among those that a window shows from an offset on;
* `ProgramPane.inWindow_scrollTo` and `ProgramPane.dist_scrollTo_lt`: the
  offset shows the line, and any other that does so is further away;
* `ProgramPane.scrollTo?_eq`: it can be worked out in numbers of 64 binary
  digits;
* `ProgramPane.exists_row_of_highlightLine?`: a line in the window is drawn;
* `Debugger.highlight_of_awake`: a run that can go on has its next
  instruction marked, which is in the text;
* `ProgramPane.highlighted_line_is_shown`: what follows for all arguments, and
  for every debugger that a user can come to.

The offset is moved up or down to the line and then cut to the last line. The
cut never takes the line out of the window again, since the line is one of the
text, and a sum is formed only if the line is beyond the offset.
-/
import Mathlib.Tactic
import Mathlib.Data.Nat.Dist
import TapeDebugger.Proofs.Pane.Typesetting
import TapeDebugger.Proofs.Screen.Drawing
import TapeDebugger.Proofs.Machine.Safety
import TapeDebugger.Proofs.Debugger.Faultless

namespace TapeDebugger

/-! ### Windows -/

/-- The line is one of the `visible` lines from `scroll` on. -/
def InWindow (scroll visible line : Nat) : Prop :=
  scroll ≤ line ∧ line < scroll + visible

instance (scroll visible line : Nat) :
    Decidable (InWindow scroll visible line) :=
  inferInstanceAs (Decidable (_ ∧ _))

namespace ProgramPane

variable {count visible line scroll other : Nat} {line? : Option Nat}

/-! ### The scroll offset -/

lemma scrollTo_le (count visible : Nat) (line? : Option Nat) (scroll : Nat) :
    scrollTo count visible line? scroll ≤ count - 1 :=
  min_le_right _ _

/-- The cut to the last line does not undo the move. -/
lemma scrollTo_some (hline : line < count) (hvisible : 0 < visible) :
    scrollTo count visible (some line) scroll =
      if line < scroll then line
      else if scroll + visible ≤ line then line + 1 - visible
      else scroll := by
  rw [scrollTo]
  split_ifs <;> omega

lemma inWindow_scrollTo (hline : line < count) (hvisible : 0 < visible) :
    InWindow (scrollTo count visible (some line) scroll) visible line := by
  rw [scrollTo_some hline hvisible, InWindow]
  split_ifs <;> omega

lemma scrollTo_of_inWindow (hline : line < count)
    (h : InWindow scroll visible line) :
    scrollTo count visible (some line) scroll = scroll := by
  obtain ⟨hlow, hhigh⟩ := h
  rw [scrollTo_some hline (by omega), if_neg (by omega), if_neg (by omega)]

/-- No offset that shows the line is as near. -/
lemma dist_scrollTo_lt (hline : line < count) (h : InWindow other visible line)
    (hne : other ≠ scrollTo count visible (some line) scroll) :
    Nat.dist scroll (scrollTo count visible (some line) scroll)
      < Nat.dist scroll other := by
  obtain ⟨hlow, hhigh⟩ := h
  rw [scrollTo_some hline (by omega)] at hne ⊢
  simp only [Nat.dist]
  split_ifs at hne ⊢ <;> omega

/-- Moving a second time changes nothing. -/
lemma scrollTo_scrollTo (hline : ∀ line ∈ line?, line < count)
    (hvisible : 0 < visible) :
    scrollTo count visible line? (scrollTo count visible line? scroll)
      = scrollTo count visible line? scroll := by
  cases line? with
  | some line =>
      have hlt := hline line rfl
      exact scrollTo_of_inWindow hlt (inWindow_scrollTo hlt hvisible)
  | none => exact min_eq_left (min_le_right _ _)

/-- No number on the way has too many digits, if the lines and the window
together do not. -/
lemma scrollTo?_eq (hline : ∀ line ∈ line?, line < count)
    (hfits : count + visible ≤ UInt64.size) (hvisible : 0 < visible) :
    scrollTo? count visible line? scroll
      = some (scrollTo count visible line? scroll) := by
  cases line? with
  | none => rfl
  | some line =>
      have hlt := hline line rfl
      rw [scrollTo?, scrollTo]
      dsimp only
      by_cases habove : line < scroll
      · rw [if_pos habove, if_pos habove]
        rfl
      · have hstop : sum? scroll visible = some (scroll + visible) :=
          if_pos (by omega)
        have hnext : sum? line 1 = some (line + 1) := if_pos (by omega)
        rw [if_neg habove, if_neg habove, hstop]
        by_cases hbelow : scroll + visible ≤ line
        · have hmoved : difference? (line + 1) visible
              = some (line + 1 - visible) := if_pos (by omega)
          simp [hbelow, hnext, hmoved]
        · simp [hbelow]

/-! ### The pane -/

lemma lt_of_highlightLine? {chars : List Char} {h : Highlight}
    (hline : line ∈ highlightLine? chars h) :
    line < chars.count '\n' + 1 := by
  obtain ⟨i, -, -, rfl⟩ := highlightLine?_eq_some_iff.mp hline
  exact Nat.lt_succ_of_le ((List.take_sublist i chars).count_le '\n')

lemma visibleLines_pos (height : Nat) : 0 < visibleLines height :=
  Nat.lt_of_lt_of_le Nat.one_pos (le_max_right _ _)

lemma view_fst (area : Area) (source : String) (h : Highlight)
    (scroll : Nat) :
    (view area source h scroll).1 =
      scrollTo (source.toList.count '\n' + 1) (visibleLines area.height)
        (highlightLine? source.toList h) scroll := by
  rw [← styledLines_snd, ← length_styledLines]
  rfl

/-- What is drawn depends on the old offset only through the new one. -/
lemma view_congr {area : Area} {source : String} {h : Highlight}
    (hsame : (view area source h scroll).1 = (view area source h other).1) :
    view area source h scroll = view area source h other := by
  refine Prod.ext hsame ?_
  simp only [view] at hsame ⊢
  rw [hsame]

/-- The line of a highlight in the text is in the window. -/
lemma inWindow_view (area : Area) {source : String} {h : Highlight}
    (scroll : Nat) (hline : highlightLine? source.toList h = some line) :
    InWindow (view area source h scroll).1 (visibleLines area.height) line := by
  rw [view_fst, hline]
  exact inWindow_scrollTo (lt_of_highlightLine? hline) (visibleLines_pos _)

/-- The line of a highlight in the text is drawn on one of the rows of the
pane, if the pane has rows for lines. -/
lemma exists_row_of_highlightLine? (area : Area) {source : String}
    {h : Highlight} (scroll : Nat)
    (hline : highlightLine? source.toList h = some line) :
    let pane := (view area source h scroll).2
    0 < pane.inside.height →
      ∃ (row : Nat) (shown : Line),
        (styledLines source h).1[line]? = some shown ∧
          (pane.panel.marks pane.area)[row]? =
            some (shown.marks pane.inside.width .left) := by
  intro pane hrows
  obtain ⟨hlow, hhigh⟩ := inWindow_view area scroll hline
  set scroll' := (view area source h scroll).1
  have hlines : pane.panel.lines =
      ((styledLines source h).1.drop scroll').take
        (visibleLines area.height) := rfl
  have hinside : pane.inside.height = area.height - 2 := rfl
  have hvisible : visibleLines area.height = area.height - 2 := by
    rw [visibleLines]
    omega
  have hlt := lt_of_highlightLine? hline
  rw [← length_styledLines source h] at hlt
  have hshown := List.getElem?_eq_getElem hlt
  have hrow : line - scroll' < pane.inside.height := by omega
  have hdrop : scroll' + (line - scroll') = line := by omega
  refine ⟨line - scroll', _, hshown, ?_⟩
  rw [Panel.getElem?_marks _ _ hrow, hlines,
    List.getElem?_take_of_lt (by omega), List.getElem?_drop, hdrop, hshown]
  rfl

end ProgramPane

namespace Debugger

open Machine (after load)

variable {d : Debugger} {source input : String}

/-- While a run can go on, its next instruction is marked. -/
lemma Sound.highlight_of_awake (h : d.Sound source input)
    (hawake : d.session.machine.halted = false) :
    d.highlight = .counter d.session.machine.pc := by
  obtain ⟨hbalanced, -⟩ := h.session.stage.of_awake hawake
  rw [highlight, h.errorIndex_eq hbalanced, h.session.lastFault_eq, hawake]
  rfl

/-- The next instruction is in the text, unless there is no text. -/
lemma Sound.pc_lt_of_awake (h : d.Sound source input)
    (hawake : d.session.machine.halted = false) (hsource : source ≠ "") :
    d.session.machine.pc < source.toList.length := by
  obtain ⟨-, n, hn⟩ := h.session.stage.of_awake hawake
  have hdriven := (Machine.Driven.loaded source input).after n
  rw [← hn, Nat.zero_add] at hdriven
  have hprogram : d.session.machine.program = .ofString source := by
    rw [hn, Machine.after_program]
    rfl
  have hsize : d.session.machine.program.size = source.toList.length := by
    rw [hprogram]
    simp [Program.size, Program.ofString]
  rw [← hsize]
  refine Nat.lt_of_le_of_ne hdriven.pc_le_size fun hend => ?_
  obtain ⟨-, input', hfresh⟩ := hdriven.safe.fresh_at_end hawake hend
  have hempty : (Program.ofString source).size = 0 := by
    rw [← hprogram, hfresh]
    rfl
  exact hsource (Program.size_ofString_eq_zero_iff.mp hempty)

end Debugger

namespace ProgramPane

open Debugger (Signal)

/-- **The highlighted line is always on the screen.** For every area, text,
highlight and scroll offset the pane has a new offset, which is at most that
of the last line. If the highlight is in the text, its line is in the window;
the offset is unchanged if it was so before, and every other offset that shows
the line is further from the old one. If it is not, the offset is only cut to
the last line. A second drawing changes nothing, and no number on the way to
the offset has more than 64 binary digits, or is negative, if text and area
are of a size that can be.

Whatever keys, ticks and frames reach a new debugger for a text that is not
empty: while its run can go on, the next instruction is marked, and its line
is among those drawn if the pane has rows for lines. -/
theorem highlighted_line_is_shown :
    (∀ (area : Area) (source : String) (h : Highlight) (scroll : Nat),
      let chars := source.toList
      let count := chars.count '\n' + 1
      let visible := max (area.height - 2) 1
      let scroll' := (view area source h scroll).1
      let pane := (view area source h scroll).2
      scroll' ≤ count - 1 ∧
        (∀ i, h.index? = some i → i < chars.length →
          let line := (chars.take i).count '\n'
          InWindow scroll' visible line ∧
            (InWindow scroll visible line → scroll' = scroll) ∧
            ∀ other, InWindow other visible line → other ≠ scroll' →
              Nat.dist scroll scroll' < Nat.dist scroll other) ∧
        ((∀ i, h.index? = some i → chars.length ≤ i) →
          scroll' = min scroll (count - 1)) ∧
        view area source h scroll' = (scroll', pane) ∧
        (chars.length < 2 ^ 63 → area.height < 2 ^ 16 →
          scrollTo? count visible (styledLines source h).2 scroll
            = some scroll')) ∧
      ∀ (config : Config) (source input : String) (signals : List Signal)
        (screen : Area),
        let d := (Debugger.new (.new config) source input).reactAll signals
        let pc := d.session.machine.pc
        source ≠ "" → d.session.machine.halted = false →
          (d.highlight = .counter pc ∧ pc < source.toList.length) ∧
            ∃ pane ∈ (d.view screen).1,
              pane.panel.border = some ⟨" Program ", borderStyle true⟩ ∧
                (0 < pane.inside.height →
                  ∃ (row : Nat) (line : Line),
                    (styledLines source d.highlight).1[
                      (source.toList.take pc).count '\n']? = some line ∧
                    (pane.panel.marks pane.area)[row]? =
                      some (line.marks pane.inside.width .left)) := by
  constructor
  · intro area source h scroll chars count visible scroll' pane
    have hscroll' : scroll' = scrollTo count visible
        (highlightLine? chars h) scroll := view_fst area source h scroll
    have hvisible : 0 < visible := visibleLines_pos area.height
    have hlt : ∀ line ∈ highlightLine? chars h, line < count :=
      fun line hline => lt_of_highlightLine? hline
    refine ⟨?_, fun i hi hin => ?_, fun hout => ?_, ?_, fun hchars harea => ?_⟩
    · rw [hscroll']
      exact scrollTo_le _ _ _ _
    · have hline := highlightLine?_eq_some_iff.mpr ⟨i, hi, hin, rfl⟩
      rw [hline] at hscroll' hlt
      have hcount := hlt _ rfl
      rw [hscroll']
      exact ⟨inWindow_scrollTo hcount hvisible, scrollTo_of_inWindow hcount,
        fun other => dist_scrollTo_lt hcount⟩
    · have hnone : highlightLine? chars h = none := by
        refine Option.eq_none_iff_forall_ne_some.mpr fun line hline => ?_
        obtain ⟨i, hi, hin, -⟩ := highlightLine?_eq_some_iff.mp hline
        exact absurd hin (Nat.not_lt.mpr (hout i hi))
      rw [hscroll', hnone]
      rfl
    · refine view_congr ?_
      rw [view_fst]
      show scrollTo count visible _ scroll' = scroll'
      rw [hscroll', scrollTo_scrollTo hlt hvisible]
    · have hlines : chars.count '\n' ≤ chars.length := List.count_le_length
      have hfits : count + visible ≤ UInt64.size := by
        have hsize : UInt64.size = 2 ^ 64 := rfl
        omega
      rw [styledLines_snd, hscroll']
      exact scrollTo?_eq hlt hfits hvisible
  · intro config source input signals screen d pc hsource hawake
    have hd : d.Sound source input :=
      (Debugger.sound_new config source input).reactAll signals
    have hmarked : d.highlight = .counter pc := hd.highlight_of_awake hawake
    have hpc : pc < source.toList.length := hd.pc_lt_of_awake hawake hsource
    have hline : highlightLine? source.toList d.highlight =
        some ((source.toList.take pc).count '\n') :=
      highlightLine?_eq_some_iff.mpr ⟨pc, by rw [hmarked]; rfl, hpc, rfl⟩
    let area := (screen.aboveLast.columnsBetween 0 45).rowsBetween 0 60
    have hfirst : (view area source d.highlight d.programScroll).2
        ∈ (d.view screen).1 := by
      rw [← hd.source_eq]
      exact List.mem_cons_self
    exact ⟨⟨hmarked, hpc⟩, _, hfirst, rfl,
      exists_row_of_highlightLine? area d.programScroll hline⟩

/-- The text `+`, two line feeds and `[` in an area with one row for lines: the
offset is moved from beyond the text up to the line of `[`. After one step of
a run of `+-` the line of `-` is drawn. -/
theorem highlighted_line_is_shown_applied :
    let area : Area := ⟨0, 0, 20, 3⟩
    let scroll' := (view area "+\n\n[" (.counter 3) 9).1
    let signals : List Signal := [.press 1 (.char 's')]
    let d := (Debugger.new (.new .standard) "+-" "").reactAll signals
    (InWindow scroll' 1 2 ∧
        ∀ other, InWindow other 1 2 → other ≠ scroll' →
          Nat.dist 9 scroll' < Nat.dist 9 other) ∧
      d.highlight = .counter 1 := by
  intro area scroll' signals d
  obtain ⟨hpane, hrun⟩ := highlighted_line_is_shown
  obtain ⟨-, hline, -⟩ := hpane area "+\n\n[" (.counter 3) 9
  obtain ⟨hwindow, -, hnearest⟩ := hline 3 rfl (by decide)
  have hawake : d.session.machine.halted = false := by decide
  obtain ⟨⟨hmarked, -⟩, -⟩ :=
    hrun .standard "+-" "" signals area (by decide) hawake
  exact ⟨⟨hwindow, hnearest⟩, hmarked⟩

end ProgramPane

end TapeDebugger
