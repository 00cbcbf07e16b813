/-
Looking never disturbs the run.

* `Key.drives`, `Debugger.Signal.drives`: the keys and signals that the run
  can depend on;
* `Debugger.SameRun`: two debuggers that differ at most in what they show and
  in whether they are to be left;
* `Debugger.SameRun.press`, `Debugger.SameRun.tick`: a signal that drives the
  run leads two such debuggers to two such debuggers;
* `Debugger.sameRun_react`: any other signal leads a debugger to one with the
  same run;
* `Debugger.memoryOffset_react_le`: no signal moves the dump off the tape;
* `Debugger.looking_never_disturbs`: what follows for every sequence of
  signals.

A key that drives the run also moves the scroll offsets, and the end key asks
the session for its pointer. The run never depends on what they leave behind.
-/
import Mathlib.Tactic
import TapeDebugger.Proofs.Debugger.Signals

namespace TapeDebugger

/-! ### Signals that drive the run -/

/-- Whether a key can do something to the run: `r`, `b`, `s`, the right arrow,
the digits from one to nine, `p`, the space key, `x` and the escape key can.
All other keys scroll, move the focus, ask to leave or mean nothing. -/
def Key.drives : Key → Bool
  | .right | .escape => true
  | .char c => c = 'r' ∨ c = 'b' ∨ c = 's' ∨ c = 'p' ∨ c = 'x' ∨ c = ' ' ∨
      '1' ≤ c ∧ c ≤ '9'
  | _ => false

/-- A key that drives the run has an order, or is the space key. -/
lemma Key.order?_of_not_drives {key : Key} (h : key.drives = false) :
    key ≠ .char ' ' ∧ key.order? = none := by
  cases key with
  | char c =>
      simp only [Key.drives, decide_eq_false_iff_not, not_or] at h
      obtain ⟨hr, hb, hs, hp, hx, hspace, hdigit⟩ := h
      refine ⟨fun hc => hspace (Key.char.inj hc), ?_⟩
      have horder : Debugger.Order.ofChar? c
          = (Debugger.stepDigit? c).map .step := by
        rw [Debugger.Order.ofChar?] <;> assumption
      have hdigits : Debugger.stepDigit? c = none := if_neg hdigit
      show Debugger.Order.ofChar? c = none
      rw [horder, hdigits, Option.map_none]
  | right => exact absurd h (by decide)
  | escape => exact absurd h (by decide)
  | _ => exact ⟨Key.noConfusion, rfl⟩

namespace Debugger

/-- Whether a signal can do something to the run. -/
def Signal.drives : Signal → Bool
  | .press _ key => key.drives
  | .tick _ => true
  | .expose => false
  | .frame _ _ => false

variable {d d' : Debugger} {now : Time}

/-! ### Debuggers with the same run -/

/-- Two debuggers that differ at most in the focus, in the scroll offsets, in
whether they are to be left and in whether their screens are outdated. -/
structure SameRun (d d' : Debugger) : Prop where
  session_eq : d.session = d'.session
  inbox_eq : d.inbox = d'.inbox
  source_eq : d.source = d'.source
  input_eq : d.input = d'.input
  errorIndex_eq : d.errorIndex = d'.errorIndex
  status_eq : d.status = d'.status
  lastSpace_eq : d.lastSpace = d'.lastSpace

lemma SameRun.refl (d : Debugger) : SameRun d d :=
  ⟨rfl, rfl, rfl, rfl, rfl, rfl, rfl⟩

lemma SameRun.symm (h : SameRun d d') : SameRun d' d where
  session_eq := h.session_eq.symm
  inbox_eq := h.inbox_eq.symm
  source_eq := h.source_eq.symm
  input_eq := h.input_eq.symm
  errorIndex_eq := h.errorIndex_eq.symm
  status_eq := h.status_eq.symm
  lastSpace_eq := h.lastSpace_eq.symm

lemma SameRun.trans {d'' : Debugger} (h : SameRun d d')
    (h' : SameRun d' d'') : SameRun d d'' where
  session_eq := h.session_eq.trans h'.session_eq
  inbox_eq := h.inbox_eq.trans h'.inbox_eq
  source_eq := h.source_eq.trans h'.source_eq
  input_eq := h.input_eq.trans h'.input_eq
  errorIndex_eq := h.errorIndex_eq.trans h'.errorIndex_eq
  status_eq := h.status_eq.trans h'.status_eq
  lastSpace_eq := h.lastSpace_eq.trans h'.lastSpace_eq

/-! ### Signals that drive the run do the same to both -/

lemma SameRun.ensureStarted (h : SameRun d d') :
    d.ensureStarted.1 = d'.ensureStarted.1 ∧
      SameRun d.ensureStarted.2 d'.ensureStarted.2 := by
  rw [Debugger.ensureStarted, Debugger.ensureStarted, ← h.session_eq,
    ← h.source_eq]
  split_ifs
  · cases imbalance? d.source with
    | some e =>
        exact ⟨rfl, rfl, h.inbox_eq, rfl, h.input_eq, rfl, rfl,
          h.lastSpace_eq⟩
    | none =>
        dsimp only
        rw [← h.input_eq]
        rcases d.session.start d.source d.input with ⟨result, session⟩
        cases result with
        | ok _ =>
            exact ⟨rfl, rfl, h.inbox_eq, rfl, rfl, rfl, h.status_eq,
              h.lastSpace_eq⟩
        | error e =>
            exact ⟨rfl, rfl, h.inbox_eq, rfl, rfl, rfl, rfl, h.lastSpace_eq⟩
  · exact ⟨rfl, h⟩

/-- What is done only with a run at hand is done by both or by neither. -/
lemma SameRun.started (h : SameRun d d') {operate : Debugger → Debugger}
    (hoperate : ∀ {d d' : Debugger}, SameRun d d' →
      SameRun (operate d) (operate d')) :
    SameRun
      (match d.ensureStarted with
        | (false, d) => d
        | (true, d) => operate d)
      (match d'.ensureStarted with
        | (false, d') => d'
        | (true, d') => operate d') := by
  obtain ⟨hstarted, hsame⟩ := h.ensureStarted
  rcases hd : d.ensureStarted with ⟨started, e⟩
  rcases hd' : d'.ensureStarted with ⟨started', e'⟩
  rw [hd, hd'] at hstarted hsame
  obtain rfl : started = started' := hstarted
  cases started with
  | false => exact hsame
  | true => exact hoperate hsame

/-- The orders do the same to both. -/
lemma SameRun.obey (h : SameRun d d') (now : Time) (o : Order) :
    SameRun (d.obey now o) (d'.obey now o) := by
  cases o with
  | run mode =>
      cases mode with
      | continuous =>
          refine h.started fun h => ?_
          dsimp only
          rw [← h.session_eq]
          exact { h with session_eq := rfl, status_eq := rfl }
      | breakpoint =>
          refine h.started fun h => ?_
          dsimp only
          rw [← h.session_eq]
          exact { h with session_eq := rfl, status_eq := rfl }
  | step count =>
      refine h.started fun h => ?_
      dsimp only
      rw [← h.session_eq]
      exact { h with session_eq := rfl, status_eq := rfl }
  | pause =>
      rw [Debugger.obey, Debugger.obey, pause, pause, ← h.session_eq]
      rcases d.session.pause with ⟨result, session⟩
      cases result <;> exact { h with session_eq := rfl, status_eq := rfl }
  | stop =>
      rw [Debugger.obey, Debugger.obey, stop, stop, ← h.session_eq]
      exact { h with session_eq := rfl, status_eq := rfl }

/-- A key without an order only changes what the screen shows. -/
lemma sameRun_press_of_no_order (d : Debugger) (now : Time) {key : Key}
    (hspace : key ≠ .char ' ') (h : key.order? = none) :
    SameRun d (d.press now key) := by
  obtain ⟨quit, focus, memoryOffset, outputScroll, hpress⟩ :=
    press_of_no_order d now hspace h
  rw [hpress]
  exact ⟨rfl, rfl, rfl, rfl, rfl, rfl, rfl⟩

/-- A key does the same to both. -/
lemma SameRun.press (h : SameRun d d') (now : Time) (key : Key) :
    SameRun (d.press now key) (d'.press now key) := by
  by_cases hspace : key = .char ' '
  · subst hspace
    have hheeds : d.heedsSpace now = d'.heedsSpace now := by
      rw [heedsSpace, heedsSpace, h.lastSpace_eq]
    have horder : d.spaceOrder = d'.spaceOrder := by
      rw [spaceOrder, spaceOrder, h.session_eq]
    rw [press_space, press_space, hheeds, horder]
    split_ifs
    · have hnoted : SameRun { d with lastSpace := some now }
          { d' with lastSpace := some now } := { h with lastSpace_eq := rfl }
      exact hnoted.obey now _
    · exact h
  · cases horder : key.order? with
    | some o =>
        rw [press_of_order horder, press_of_order horder]
        exact h.obey now o
    | none =>
        have hd := sameRun_press_of_no_order d now hspace horder
        have hd' := sameRun_press_of_no_order d' now hspace horder
        exact hd.symm.trans (h.trans hd')

lemma SameRun.tick (h : SameRun d d') (now : Time) :
    SameRun (d.tick now) (d'.tick now) := by
  rw [Debugger.tick, Debugger.tick, ← h.session_eq, ← h.inbox_eq]
  rcases d.session.poll now with ⟨outcome?, session⟩
  cases outcome? with
  | some outcome =>
      exact ⟨rfl, rfl, h.source_eq, h.input_eq, h.errorIndex_eq, rfl,
        h.lastSpace_eq⟩
  | none =>
      exact ⟨rfl, rfl, h.source_eq, h.input_eq, h.errorIndex_eq, h.status_eq,
        h.lastSpace_eq⟩

/-! ### Signals that only look -/

/-- **A signal that does not drive the run** leads to a debugger with the same
run. -/
lemma sameRun_react (d : Debugger) {e : Signal} (h : e.drives = false) :
    SameRun d (d.react e) := by
  cases e with
  | press now key =>
      obtain ⟨hspace, horder⟩ := Key.order?_of_not_drives h
      exact sameRun_press_of_no_order d now hspace horder
  | tick now => exact Bool.noConfusion h
  | expose => exact ⟨rfl, rfl, rfl, rfl, rfl, rfl, rfl⟩
  | frame width height =>
      rw [react, frame]
      dsimp only
      split_ifs <;> exact ⟨rfl, rfl, rfl, rfl, rfl, rfl, rfl⟩

/-- The signals that drive the run lead two debuggers with the same run to two
such debuggers, whatever else reaches the first of them in between. -/
lemma SameRun.reactAll_filter (h : SameRun d d') (signals : List Signal) :
    SameRun (d.reactAll signals)
      (d'.reactAll (signals.filter Signal.drives)) := by
  induction signals generalizing d d' with
  | nil => exact h
  | cons e rest ih =>
      cases hdrives : e.drives with
      | false =>
          rw [List.filter_cons_of_neg (by simp [hdrives])]
          exact ih ((sameRun_react d hdrives).symm.trans h)
      | true =>
          rw [List.filter_cons_of_pos hdrives]
          refine ih ?_
          cases e with
          | press now key => exact h.press now key
          | tick now => exact h.tick now
          | expose => exact Bool.noConfusion hdrives
          | frame width height => exact Bool.noConfusion hdrives

/-! ### The dump stays on the tape -/

lemma memoryOffset_ensureStarted (d : Debugger) :
    d.ensureStarted.2.memoryOffset = d.memoryOffset := by
  rw [ensureStarted]
  split_ifs
  · cases imbalance? d.source with
    | some e => rfl
    | none =>
        dsimp only
        split <;> rfl
  · rfl

/-- No order moves the dump. -/
lemma memoryOffset_obey (d : Debugger) (now : Time) (o : Order) :
    (d.obey now o).memoryOffset = d.memoryOffset := by
  have hstarted := memoryOffset_ensureStarted d
  cases o with
  | run mode =>
      cases mode with
      | continuous =>
          rw [obey, runToEnd, ← hstarted]
          rcases d.ensureStarted with ⟨started, e⟩
          cases started <;> rfl
      | breakpoint =>
          rw [obey, runToBreakpoint, ← hstarted]
          rcases d.ensureStarted with ⟨started, e⟩
          cases started <;> rfl
  | step count =>
      rw [obey, step, ← hstarted]
      rcases d.ensureStarted with ⟨started, e⟩
      cases started <;> rfl
  | pause =>
      rw [obey, pause]
      split <;> rfl
  | stop => rfl

/-- The keys that move the dump stop at its ends, and the end key leads to a
cell of the tape. -/
lemma memoryOffset_press_of_no_order_le (h : d.memoryOffset ≤ Tape.lastAddress)
    (now : Time) {key : Key} (hspace : key ≠ .char ' ')
    (horder : key.order? = none) :
    (d.press now key).memoryOffset ≤ Tape.lastAddress := by
  cases key with
  | char c =>
      obtain ⟨quit, hpress⟩ :=
        pressChar_eq d now fun hc => hspace (congrArg Key.char hc)
      have hchar : Order.ofChar? c = none := horder
      rw [hchar] at hpress
      show (d.pressChar now c).memoryOffset ≤ Tape.lastAddress
      rw [hpress]
      exact h
  | right => cases horder
  | escape => cases horder
  | up =>
      show d.scrollUp.memoryOffset ≤ Tape.lastAddress
      rw [scrollUp]
      cases d.focus with
      | memory => exact min_le_right _ _
      | output => exact h
  | down =>
      show d.scrollDown.memoryOffset ≤ Tape.lastAddress
      rw [scrollDown]
      cases d.focus with
      | memory => exact min_le_right _ _
      | output => exact h
  | pageUp => exact min_le_right _ _
  | pageDown => exact min_le_right _ _
  | home => exact Nat.zero_le _
  | «end» => exact Nat.le_sub_one_of_lt d.session.machine.store.pointer.isLt
  | _ => exact h

lemma memoryOffset_press_le (h : d.memoryOffset ≤ Tape.lastAddress)
    (now : Time) (key : Key) :
    (d.press now key).memoryOffset ≤ Tape.lastAddress := by
  by_cases hspace : key = .char ' '
  · rw [hspace, press_space]
    split_ifs
    · rw [memoryOffset_obey]
      exact h
    · exact h
  · cases horder : key.order? with
    | some o =>
        rw [press_of_order horder, memoryOffset_obey]
        exact h
    | none => exact memoryOffset_press_of_no_order_le h now hspace horder

lemma memoryOffset_react_le (h : d.memoryOffset ≤ Tape.lastAddress)
    (e : Signal) : (d.react e).memoryOffset ≤ Tape.lastAddress := by
  cases e with
  | press now key => exact memoryOffset_press_le h now key
  | tick now =>
      rw [react, tick]
      dsimp only
      split <;> exact h
  | expose => exact h
  | frame width height =>
      rw [react, frame]
      dsimp only
      split_ifs <;> exact h

lemma memoryOffset_reactAll_le (h : d.memoryOffset ≤ Tape.lastAddress)
    (signals : List Signal) :
    (d.reactAll signals).memoryOffset ≤ Tape.lastAddress := by
  induction signals generalizing d with
  | nil => exact h
  | cons e rest ih => exact ih (memoryOffset_react_le h e)

/-! ### All signals -/

/-- **Looking never disturbs the run.** Whatever keys, ticks and frames reach a
new debugger, its session, its status message and the mark of its bracket
check are in the end those of a debugger that only the ticks and the keys that
drive the run have reached, at the same times. All the while the memory dump
begins at a cell of the tape. -/
theorem looking_never_disturbs (config : Config) (source input : String)
    (signals : List Signal) :
    let fresh := new (.new config) source input
    let d := fresh.reactAll signals
    let undisturbed := fresh.reactAll (signals.filter Signal.drives)
    (d.session = undisturbed.session ∧ d.status = undisturbed.status ∧
        d.errorIndex = undisturbed.errorIndex) ∧
      ∀ n, (fresh.reactAll (signals.take n)).memoryOffset ≤ 29999 := by
  intro fresh d undisturbed
  have hsame : SameRun d undisturbed :=
    (SameRun.refl fresh).reactAll_filter signals
  have hfresh : fresh.memoryOffset ≤ Tape.lastAddress := Nat.zero_le _
  exact ⟨⟨hsame.session_eq, hsame.status_eq, hsame.errorIndex_eq⟩,
    fun n => memoryOffset_reactAll_le hfresh (signals.take n)⟩

end Debugger

end TapeDebugger
