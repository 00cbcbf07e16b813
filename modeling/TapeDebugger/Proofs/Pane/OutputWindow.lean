/-
Which lines of the output are shown.

* `splitLines_eq_splitOn`: the lines are the pieces between line feeds;
* `OutputPane.intercalate_lines`: together they are the output, with a point
  for each control character;
* `OutputPane.lastScroll`, `OutputPane.window_eq`: the offset up to which a
  window is full, and the window of any offset;
* `Debugger.outputScroll_step`, `Debugger.outputScroll_tick`: what leads to
  the end of the output;
* `Arrow`, `Arrow.walk`: the arrow keys as steps of a walk that stops at both
  ends;
* `Debugger.Browses.move`, `Debugger.Browses.walk`: the offset follows this
  walk;
* `Debugger.output_window_follows`: what follows for every output, and for the
  pane of every debugger.

A key changes the offset as far as a word of 64 bits allows, and the frame
behind it cuts it to the lines that there are. As no output has more lines
than a word can count, only the second of these bounds is ever met.
-/
import Mathlib.Tactic
import TapeDebugger.Proofs.Debugger.Faultless
import TapeDebugger.Proofs.Pane.Typesetting

namespace TapeDebugger

/-! ### Pieces between line feeds -/

lemma consFirst_of_ne_nil {α : Type} (a : α) {pieces : List (List α)}
    (h : pieces ≠ []) : consFirst a pieces = pieces.modifyHead (a :: ·) := by
  cases pieces with
  | nil => exact absurd rfl h
  | cons first others => rfl

lemma splitLines_eq_splitOn (chars : List Char) :
    splitLines chars = chars.splitOn '\n' := by
  induction chars with
  | nil => rfl
  | cons c rest ih =>
      have hrest : splitLines (c :: rest) =
          if c = '\n' then [] :: splitLines rest
          else consFirst c (splitLines rest) := rfl
      rw [hrest, ih, consFirst_of_ne_nil c (List.splitOn_ne_nil '\n' rest),
        List.splitOn_cons_eq_if_modifyHead]
      simp only [beq_iff_eq]

lemma not_mem_of_mem_splitOn {chars piece : List Char}
    (h : piece ∈ chars.splitOn '\n') : '\n' ∉ piece := by
  induction chars generalizing piece with
  | nil =>
      obtain rfl := List.mem_singleton.mp h
      exact List.not_mem_nil
  | cons c rest ih =>
      rw [List.splitOn_cons_eq_if_modifyHead] at h
      split_ifs at h with hc
      · obtain rfl | hmem := List.mem_cons.mp h
        · exact List.not_mem_nil
        · exact ih hmem
      · cases hrest : rest.splitOn '\n' with
        | nil => exact absurd hrest (List.splitOn_ne_nil '\n' rest)
        | cons first others =>
            rw [hrest] at h ih
            obtain rfl | hmem := List.mem_cons.mp h
            · have hne : '\n' ≠ c := fun heq => hc (by simp [← heq])
              simpa [hne] using ih List.mem_cons_self
            · exact ih (List.mem_cons_of_mem first hmem)

/-- A change of characters that keeps line feeds can be made piece by
piece. -/
lemma intercalate_map_map {f : Char → Char} (hf : f '\n' = '\n')
    (pieces : List (List Char)) :
    ['\n'].intercalate (pieces.map (List.map f)) =
      (['\n'].intercalate pieces).map f := by
  induction pieces with
  | nil => rfl
  | cons first others ih =>
      obtain rfl | hne := eq_or_ne others []
      · simp
      · rw [List.map_cons, List.intercalate_cons_of_ne_nil (by simpa using hne),
          List.intercalate_cons_of_ne_nil hne, ih]
        simp [hf]

namespace OutputPane

variable {output : String} {scroll : Nat}

/-! ### The lines of an output -/

/-- What is shown of a character of the output. A line feed is not shown: it
ends a line. -/
def shownAs (c : Char) : Char :=
  if c ≠ '\n' ∧ isControl c then '.' else c

lemma lines_eq (output : String) :
    lines output =
      (output.toList.splitOn '\n').map (List.map shownAs) := by
  rw [lines, splitLines_eq_splitOn]
  refine List.map_congr_left fun piece hpiece => ?_
  refine List.map_congr_left fun c hc => ?_
  have hne : c ≠ '\n' := by
    rintro rfl
    exact not_mem_of_mem_splitOn hpiece hc
  simp [shownAs, hne]

lemma length_lines (output : String) :
    (lines output).length = output.toList.count '\n' + 1 := by
  rw [lines_eq, List.length_map, ProgramPane.length_splitOn]

lemma not_mem_of_mem_lines {piece : List Char} (h : piece ∈ lines output) :
    '\n' ∉ piece := by
  rw [lines_eq] at h
  obtain ⟨original, horiginal, rfl⟩ := List.mem_map.mp h
  intro hfeed
  obtain ⟨c, hc, hshown⟩ := List.mem_map.mp hfeed
  -- a line feed is shown for no other character
  have hc' : c = '\n' := by
    rw [shownAs] at hshown
    split_ifs at hshown
    · exact absurd hshown (by decide)
    · exact hshown
  exact not_mem_of_mem_splitOn horiginal (hc' ▸ hc)

/-- The lines, with the line feeds put back between them. -/
lemma intercalate_lines (output : String) :
    ['\n'].intercalate (lines output) = output.toList.map shownAs := by
  rw [lines_eq, intercalate_map_map (by decide), List.intercalate_splitOn]

/-! ### The window -/

/-- How far a window of `visible` lines can move down on `count` lines before
it would show fewer of them. -/
def lastScroll (count visible : Nat) : Nat :=
  count - min count visible

/-- No output of a length that a word can hold has more lines than a scroll
offset can count. -/
lemma lastScroll_le (hlength : output.length < UInt64.size) (height : Nat) :
    lastScroll (lines output).length (visibleLines height)
      ≤ Debugger.scrollEnd := by
  have hcount : output.toList.count '\n' ≤ output.length :=
    List.count_le_length
  have hvisible : 1 ≤ visibleLines height := le_max_right _ _
  rw [lastScroll, length_lines, Debugger.scrollEnd]
  omega

/-- The window of an offset. -/
lemma window_eq (lines : List (List Char)) (visible scroll : Nat) :
    let count := lines.length
    let scroll' := min scroll (lastScroll count visible)
    window lines visible scroll =
      (scroll', (lines.drop scroll').take (min count visible)) := by
  intro count scroll'
  have hscroll : min scroll (count - visible) = scroll' := by
    simp only [scroll', lastScroll]
    omega
  rw [window, hscroll, Prod.mk.injEq, List.take_eq_take_iff, List.length_drop]
  exact ⟨rfl, by omega⟩

/-- As many lines are shown as there are, or as there is room for. -/
lemma length_window (lines : List (List Char)) (visible scroll : Nat) :
    (window lines visible scroll).2.length = min lines.length visible := by
  rw [window_eq, List.length_take, List.length_drop, lastScroll]
  omega

/-- Fewer lines than there is room for are all shown. -/
lemma window_of_short {lines : List (List Char)} {visible : Nat}
    (h : lines.length ≤ visible) : (window lines visible scroll).2 = lines := by
  rw [window, Nat.sub_eq_zero_of_le h, Nat.min_zero, List.drop_zero,
    List.take_of_length_le h]

/-- At an offset from the last one on the window has the last lines. -/
lemma window_of_le {lines : List (List Char)} {visible : Nat}
    (h : lastScroll lines.length visible ≤ scroll) :
    (window lines visible scroll).2 = lines.drop (lines.length - visible) := by
  have hlast : lastScroll lines.length visible = lines.length - visible := by
    rw [lastScroll]
    omega
  rw [window_eq, min_eq_right h, hlast, List.take_of_length_le]
  rw [List.length_drop]
  omega

/-- The pane of an output that is not empty. -/
lemma view_eq (area : Area) (h : output ≠ "") (focused : Bool)
    (scroll : Nat) :
    let shown := window (lines output) (visibleLines area.height) scroll
    (view area output focused scroll).1 = shown.1 ∧
      (view area output focused scroll).2.panel.lines
        = shown.2.map Line.ofChars := by
  have hempty : output.isEmpty = false := by simpa using h
  simp only [view, hempty, Bool.false_eq_true, if_false, and_self]

/-- What is drawn depends on the old offset only through the new one. -/
lemma view_view_fst (area : Area) (h : output ≠ "") (focused : Bool)
    (scroll : Nat) :
    view area output focused (view area output focused scroll).1 =
      view area output focused scroll := by
  have hempty : output.isEmpty = false := by simpa using h
  have hwindow (lines : List (List Char)) (visible : Nat) :
      window lines visible (window lines visible scroll).1 =
        window lines visible scroll := by
    rw [window, window, min_assoc, min_self]
  simp only [view, hempty, Bool.false_eq_true, if_false, hwindow]

end OutputPane

namespace Debugger

open OutputPane (lines lastScroll)

variable {source input : String} {d : Debugger} {now : Time}

/-! ### The end of the output -/

/-- A step key that finds a run leads to the end of the output. -/
lemma outputScroll_step (h : d.ensureStarted.1 = true) (count : Nat) :
    (d.step count).outputScroll = scrollEnd := by
  rw [step]
  rcases hd : d.ensureStarted with ⟨started, e⟩
  rw [hd] at h
  obtain rfl : started = true := h
  rfl

/-- So does a tick that executes a batch. -/
lemma outputScroll_tick (h : (d.session.poll now).1 ≠ none) :
    (d.tick now).outputScroll = scrollEnd := by
  obtain ⟨outcome, houtcome⟩ := Option.ne_none_iff_exists'.mp h
  rw [tick]
  rcases hpoll : d.session.poll now with ⟨outcome?, session⟩
  rw [hpoll] at houtcome
  obtain rfl : outcome? = some outcome := houtcome
  rfl

/-- There is no output of a program that does not pass the bracket check. -/
lemma Sound.balanced_of_output (h : d.Sound source input)
    (houtput : d.session.machine.output ≠ "") : imbalance? source = none := by
  by_contra hsome
  obtain ⟨e, he⟩ := Option.ne_none_iff_exists'.mp hsome
  rw [h.session.stage.of_unbalanced he] at houtput
  exact houtput rfl

lemma Sound.outputScroll_press (h : d.Sound source input) {key : Key}
    {count : Nat} (hkey : key.order? = some (.step count))
    (hrun : imbalance? source = none ∨
      (d.press now key).session.machine.output ≠ "") :
    (d.press now key).outputScroll = scrollEnd := by
  have hbalanced : imbalance? source = none :=
    hrun.elim id (h.react (.press now key)).balanced_of_output
  rw [press_of_order hkey]
  refine outputScroll_step ?_ count
  rw [h.ensureStarted_eq, hbalanced]
  rfl

/-! ### The pane of a debugger -/

/-- The area of the output pane on a screen. -/
def outputArea (screen : Area) : Area :=
  (screen.aboveLast.columnsBetween 0 45).rowsBetween 75 100

/-- The output pane of a debugger on a screen, and its new scroll offset. -/
def outputPane (d : Debugger) (screen : Area) : Nat × Placement :=
  OutputPane.view (outputArea screen) d.session.machine.output
    (d.focus == .output) d.outputScroll

/-- The last scroll offset of the output pane on a screen. -/
def lastOutputScroll (d : Debugger) (screen : Area) : Nat :=
  lastScroll (lines d.session.machine.output).length
    (visibleLines (outputArea screen).height)

/-- It depends on the output alone. -/
lemma lastOutputScroll_congr {d' : Debugger} (h : d'.session = d.session)
    (screen : Area) : d'.lastOutputScroll screen = d.lastOutputScroll screen := by
  rw [lastOutputScroll, h, lastOutputScroll]

lemma outputPane_mem_view (d : Debugger) (screen : Area) :
    (d.outputPane screen).2 ∈ (d.view screen).1 := by
  simp [view, outputPane, outputArea]

/-- The signals by which a debugger is drawn again. -/
def redraw (width height : Nat) : List Signal :=
  [.expose, .frame width height]

/-- The debugger behind a frame. -/
lemma reactAll_redraw (d : Debugger) (width height : Nat) :
    let screen := (Screen.blank width height).area
    let d' := d.reactAll (redraw width height)
    d'.session = d.session ∧ d'.focus = d.focus ∧
      d'.outputScroll = (d.outputPane screen).1 :=
  ⟨rfl, rfl, rfl⟩

lemma outputPane_fst {screen : Area} (h : d.session.machine.output ≠ "") :
    (d.outputPane screen).1 =
      min d.outputScroll (d.lastOutputScroll screen) := by
  rw [outputPane, (OutputPane.view_eq _ h _ _).1, OutputPane.window_eq]
  rfl

end Debugger

/-! ### The arrow keys -/

/-- The keys that scroll by a line. -/
inductive Arrow where
  | up
  | down
  deriving DecidableEq, Repr

namespace Arrow

def key : Arrow → Key
  | up => .up
  | down => .down

/-- The lines by which a key scrolls. -/
def delta : Arrow → ℤ
  | up => -1
  | down => 1

/-- The offset after a key, which a bound keeps in its word. -/
def offset (bound position : Nat) : Arrow → Nat
  | up => position - 1
  | down => min (position + 1) bound

/-- One step of a walk between zero and `last`. -/
def move (last : Nat) (position : ℤ) (a : Arrow) : ℤ :=
  max 0 (min (position + a.delta) last)

/-- A walk that stops at zero and at `last`. -/
def walk (last : Nat) (start : ℤ) (arrows : List Arrow) : ℤ :=
  arrows.foldl (Arrow.move last) start

/-- The bound of the word is never met within the walk. -/
lemma min_offset_eq {bound last position : Nat} (hlast : last ≤ bound)
    (hposition : position ≤ last) (a : Arrow) :
    ((min (offset bound position a) last : ℕ) : ℤ) =
      Arrow.move last position a := by
  cases a with
  | up =>
      simp only [offset, Arrow.move, delta]
      omega
  | down =>
      simp only [offset, Arrow.move, delta]
      omega

end Arrow

namespace Debugger

open OutputPane (lines lastScroll)

variable {d : Debugger} {now : Time} {width height : Nat}

lemma press_arrow (hfocus : d.focus = .output) (now : Time) (a : Arrow) :
    d.press now a.key =
      { d with outputScroll := a.offset scrollEnd d.outputScroll } := by
  cases a with
  | up =>
      show d.scrollUp = _
      rw [scrollUp, hfocus]
      rfl
  | down =>
      show d.scrollDown = _
      rw [scrollDown, hfocus]
      rfl

/-! ### Walks over the output -/

/-- The signals of an arrow key, behind which the debugger is drawn again. -/
def moveSignals (width height : Nat) (now : Time) (a : Arrow) : List Signal :=
  .press now a.key :: redraw width height

/-- The output pane has the focus and shows some output, on a screen on which
`last` is its last scroll offset. -/
structure Browses (d : Debugger) (screen : Area) (last : Nat) : Prop where
  focus_eq : d.focus = .output
  output_ne : d.session.machine.output ≠ ""
  last_eq : d.lastOutputScroll screen = last
  outputScroll_le : d.outputScroll ≤ last

/-- **One arrow key is one step of the walk**, once the debugger is drawn
again. -/
lemma Browses.move {last : Nat} (hlast : last ≤ scrollEnd)
    (h : d.Browses (Screen.blank width height).area last) (now : Time)
    (a : Arrow) :
    let d' := d.reactAll (moveSignals width height now a)
    d'.Browses (Screen.blank width height).area last ∧
      (d'.outputScroll : ℤ) = Arrow.move last d.outputScroll a := by
  intro d'
  have hpress := press_arrow h.focus_eq now a
  have hsession : (d.press now a.key).session = d.session := by rw [hpress]
  have hfocus : (d.press now a.key).focus = .output := by
    rw [hpress]
    exact h.focus_eq
  obtain ⟨hsession', hfocus', hscroll⟩ :=
    reactAll_redraw (d.press now a.key) width height
  have hsame : d'.session = d.session := hsession'.trans hsession
  -- the key leaves the output alone, so the frame cuts at the same offset
  have hscroll' : d'.outputScroll = min (d.press now a.key).outputScroll last := by
    refine hscroll.trans ?_
    rw [outputPane_fst (by rw [hsession]; exact h.output_ne),
      lastOutputScroll_congr hsession, h.last_eq]
  constructor
  · refine ⟨hfocus'.trans hfocus, ?_, ?_, ?_⟩
    · rw [hsame]
      exact h.output_ne
    · rw [lastOutputScroll_congr hsame, h.last_eq]
    · rw [hscroll']
      exact min_le_right _ _
  · rw [hscroll', hpress]
    exact Arrow.min_offset_eq hlast h.outputScroll_le a

/-- The signals of a sequence of arrow keys, each at its time. -/
def movesSignals (width height : Nat) (moves : List (Time × Arrow)) :
    List Signal :=
  moves.flatMap fun m => moveSignals width height m.1 m.2

/-- The offset follows the walk, key by key. -/
lemma Browses.walk {last : Nat} (hlast : last ≤ scrollEnd)
    (h : d.Browses (Screen.blank width height).area last)
    (moves : List (Time × Arrow)) :
    ((d.reactAll (movesSignals width height moves)).outputScroll : ℤ) =
      Arrow.walk last d.outputScroll (moves.map Prod.snd) := by
  induction moves generalizing d with
  | nil => rfl
  | cons m moves ih =>
      obtain ⟨hbrowses, hmove⟩ := h.move hlast m.1 m.2
      rw [movesSignals, List.flatMap_cons, reactAll_append, List.map_cons,
        Arrow.walk, List.foldl_cons]
      exact (ih hbrowses).trans (by rw [hmove]; rfl)

/-- A debugger that was just drawn has an offset up to the last one. -/
lemma browses_redraw (d : Debugger) (width height : Nat) :
    let d' := d.reactAll (redraw width height)
    let screen := (Screen.blank width height).area
    d'.focus = .output → d'.session.machine.output ≠ "" →
      d'.Browses screen (d'.lastOutputScroll screen) := by
  intro d' screen hfocus houtput
  obtain ⟨hsession, -, hscroll⟩ := reactAll_redraw d width height
  refine ⟨hfocus, houtput, rfl, ?_⟩
  rw [lastOutputScroll_congr hsession, hscroll,
    outputPane_fst (hsession ▸ houtput)]
  exact min_le_right _ _

/-! ### All outputs and all debuggers -/

/-- **The window of the output pane.** For every output that is not empty,
every area and every offset: the pieces of the output between line feeds, put
together again, are the output with a point for each other control character;
the offset is cut to the last one at which the window is full, and the pieces
from there on are the lines of the pane, as many as there are or as there is
room for. The offset that stands for the end shows the last lines, and the new
offset shows the same once more.

Whatever keys, ticks and frames reach a new debugger: a step key that leaves
some output behind, or is pressed on a program that passes the bracket check,
sets this offset, and so does a tick that executes a batch.

If the output pane of a debugger that was just drawn has the focus, and its
output is not longer than a word can tell, then the arrow keys, with a frame of
the same size behind each of them, move the offset by one and stop at zero and
at the last offset. -/
theorem output_window_follows :
    (∀ (area : Area) (output : String) (focused : Bool) (scroll : Nat),
      output ≠ "" →
      let pieces := lines output
      let count := pieces.length
      let visible := max (area.height - 2) 1
      let drawn := OutputPane.view area output focused scroll
      let shown := drawn.2.panel.lines
      (count = output.toList.count '\n' + 1 ∧
          (∀ piece ∈ pieces, '\n' ∉ piece) ∧
          ['\n'].intercalate pieces =
            output.toList.map fun c =>
              if c ≠ '\n' ∧ isControl c then '.' else c) ∧
        (drawn.1 = min scroll (count - min count visible) ∧
          shown =
            ((pieces.drop drawn.1).take (min count visible)).map
              Line.ofChars ∧
          shown.length = min count visible) ∧
        (shown.length < visible → shown = pieces.map Line.ofChars) ∧
        (scroll = scrollEnd → output.length < UInt64.size →
          shown = (pieces.drop (count - visible)).map Line.ofChars) ∧
        OutputPane.view area output focused drawn.1 = drawn) ∧
    (∀ (config : Config) (source input : String) (signals : List Signal),
      let d := (new (.new config) source input).reactAll signals
      (∀ now key count, key.order? = some (.step count) →
          (imbalance? source = none ∨
            (d.press now key).session.machine.output ≠ "") →
          (d.press now key).outputScroll = scrollEnd) ∧
        ∀ now, (d.session.poll now).1 ≠ none →
          (d.tick now).outputScroll = scrollEnd) ∧
    ∀ (d₀ : Debugger) (width height : Nat),
      let screen := (Screen.blank width height).area
      let d := d₀.reactAll (redraw width height)
      let output := d.session.machine.output
      let count := (lines output).length
      let visible := max ((outputArea screen).height - 2) 1
      (d.outputPane screen).2 ∈ (d.view screen).1 ∧
        (output ≠ "" → output.length < UInt64.size → d.focus = .output →
          ∀ moves : List (Time × Arrow),
            ((d.reactAll (movesSignals width height moves)).outputScroll : ℤ)
              = Arrow.walk (count - min count visible) d.outputScroll
                  (moves.map Prod.snd)) := by
  refine ⟨fun area output focused scroll hne => ?_,
    fun config source input signals => ?_, fun d₀ width height => ?_⟩
  · intro pieces count visible drawn shown
    obtain ⟨hscroll, hshown⟩ := OutputPane.view_eq area hne focused scroll
    have hlength : shown.length = min count visible := by
      refine (congrArg List.length hshown).trans ?_
      rw [List.length_map]
      exact OutputPane.length_window pieces visible scroll
    rw [OutputPane.window_eq] at hscroll
    have hdrawn : drawn.1 = min scroll (count - min count visible) := hscroll
    have hwindow : shown =
        ((pieces.drop drawn.1).take (min count visible)).map
          Line.ofChars := by
      refine hshown.trans ?_
      rw [OutputPane.window_eq, hdrawn]
      rfl
    refine ⟨⟨OutputPane.length_lines output,
        fun piece => OutputPane.not_mem_of_mem_lines,
        OutputPane.intercalate_lines output⟩,
      ⟨hdrawn, hwindow, hlength⟩, fun hshort => ?_, fun hend hword => ?_,
      OutputPane.view_view_fst area hne focused scroll⟩
    · have hall : count ≤ visible := by omega
      exact hshown.trans
        (congrArg (List.map Line.ofChars) (OutputPane.window_of_short hall))
    · have hlast := OutputPane.lastScroll_le hword area.height
      rw [← hend] at hlast
      exact hshown.trans
        (congrArg (List.map Line.ofChars) (OutputPane.window_of_le hlast))
  · intro d
    have hd : d.Sound source input :=
      (sound_new config source input).reactAll signals
    exact ⟨fun now key count => hd.outputScroll_press,
      fun now => outputScroll_tick⟩
  · intro screen d output count visible
    refine ⟨d.outputPane_mem_view screen,
      fun hne hword hfocus moves => ?_⟩
    have hbrowses : d.Browses screen (d.lastOutputScroll screen) :=
      browses_redraw d₀ width height hfocus hne
    have hlast : d.lastOutputScroll screen ≤ scrollEnd :=
      OutputPane.lastScroll_le hword _
    exact hbrowses.walk hlast moves

/-- Of the three lines of an output with a tab and with a line feed at its end
a pane with room for two shows the last two. Five line feeds are six lines, of
which the pane on a screen of 24 rows shows four: the step key `9` leads to
offset 2, and from there three keys up and one down lead to offset 1. -/
theorem output_window_follows_feeds :
    let area : Area := ⟨0, 0, 20, 4⟩
    let typed : List Signal :=
      [.press 1 (.char '9'), .press 2 .tab]
    let fresh := new (.new .standard) ",....." "\n"
    let d := (fresh.reactAll typed).reactAll (redraw 80 24)
    let moves : List (Time × Arrow) :=
      [(3, .up), (4, .up), (5, .up), (6, .down)]
    ((OutputPane.view area "a\n\tb\n" false scrollEnd).1 = 1 ∧
        (OutputPane.view area "a\n\tb\n" false scrollEnd).2.panel.lines =
          [.ofChars ['.', 'b'], .ofChars []]) ∧
      (fresh.press 1 (.char '9')).outputScroll = scrollEnd ∧
      d.outputScroll = 2 ∧
      (d.reactAll (movesSignals 80 24 moves)).outputScroll = 1 := by
  intro area typed fresh d moves
  obtain ⟨hpane, hkeys, hwalk⟩ := output_window_follows
  obtain ⟨-, ⟨hscroll, -⟩, -, hend, -⟩ :=
    hpane area "a\n\tb\n" false scrollEnd (by decide)
  obtain ⟨-, hmoves⟩ := hwalk (fresh.reactAll typed) 80 24
  have hd : d.outputScroll = 2 := by decide
  have hlines := hmoves (by decide) (by decide) (by decide) moves
  refine ⟨⟨hscroll.trans (by decide), (hend rfl (by decide)).trans (by decide)⟩,
    ?_, hd, ?_⟩
  · exact (hkeys .standard ",....." "\n" []).1 1 (.char '9') 9 (by decide)
      (.inl (by decide))
  · have hone : (d.reactAll (movesSignals 80 24 moves)).outputScroll = (1 : ℤ) :=
      hlines.trans (by decide)
    exact_mod_cast hone

end Debugger

end TapeDebugger
