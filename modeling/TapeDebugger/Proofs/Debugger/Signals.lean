/-
What the signals that reach a debugger do to it, said once for all of them.

* `Debugger.Signal`, `Debugger.react` and `Debugger.reactAll`: keys, ticks and
  frames, and the debugger after them;
* `Debugger.Order` and `Key.order?`: what a key asks of the run;
* `Debugger.requests`: what a signal asks of the session;
* `Debugger.Readies`: a run is at hand, or is loaded, or cannot be;
* `Debugger.Reacts`: the session has served these requests, the texts are as
  they were, and the mark of a failed bracket check is the given one;
* `Debugger.reacts_react`: every signal does this, and its requests and its
  mark are told by the debugger before it.

A key that asks for a run or for steps loads the program first if the run has
ended, and does nothing if its brackets do not balance.
-/
import Mathlib.Tactic
import TapeDebugger.Debugger.Frame
import TapeDebugger.Proofs.Session.Restart

namespace TapeDebugger

/-! ### Orders -/

/-- What a user can ask of a run. -/
inductive Debugger.Order where
  /-- To go on by itself. -/
  | run (mode : RunMode)
  /-- To make so many steps. -/
  | step (count : Nat)
  | pause
  | stop
  deriving DecidableEq

/-- What a character key asks of the run, if it does. The space key is not
among these: what it asks depends on the run. -/
def Debugger.Order.ofChar? : Char → Option Debugger.Order
  | 'r' => some (.run .continuous)
  | 'b' => some (.run .breakpoint)
  | 's' => some (.step 1)
  | 'p' => some .pause
  | 'x' => some .stop
  | c => (Debugger.stepDigit? c).map .step

/-- What a key asks of the run, if it does. -/
def Key.order? : Key → Option Debugger.Order
  | .char c => Debugger.Order.ofChar? c
  | .right => some (.step 1)
  | .escape => some .stop
  | _ => none

/-- Whether a key asks for a run or for steps: `r`, `b`, `s`, the right arrow
and the digits from one to nine do. -/
def Key.asksToRun : Key → Bool
  | .right => true
  | .char c => c = 'r' ∨ c = 'b' ∨ c = 's' ∨ '1' ≤ c ∧ c ≤ '9'
  | _ => false

namespace Debugger

/-- Whether an order needs a run that can go on. -/
def Order.needsRun : Order → Bool
  | .run _ | .step _ => true
  | .pause | .stop => false

/-- Carries out an order at the time `now`. -/
def obey (d : Debugger) (now : Time) : Order → Debugger
  | .run .continuous => d.runToEnd now
  | .run .breakpoint => d.runToBreakpoint now
  | .step count => d.step count
  | .pause => d.pause
  | .stop => d.stop

/-- Whether a press of the space key at the time `now` is heeded. -/
def heedsSpace (d : Debugger) (now : Time) : Bool :=
  match d.lastSpace with
  | some last => spaceRest ≤ now - last
  | none => true

/-- What the space key asks of the run, if it is heeded. -/
def spaceOrder (d : Debugger) : Order :=
  if d.session.schedule.isActive then .pause else .run .continuous

variable {d d' : Debugger} {now : Time} {key : Key}

/-! ### Keys -/

/-- A key asks for a run or for steps exactly if its order is one. -/
lemma asksToRun_eq (key : Key) :
    key.asksToRun = (key.order?.map Order.needsRun).getD false := by
  cases key with
  | char c =>
      show decide (c = 'r' ∨ c = 'b' ∨ c = 's' ∨ '1' ≤ c ∧ c ≤ '9')
        = ((Order.ofChar? c).map Order.needsRun).getD false
      rw [Order.ofChar?.eq_def]
      split
      · rfl
      · rfl
      · rfl
      · rfl
      · rfl
      · next hr hb hs hp hx =>
          rw [stepDigit?]
          split_ifs with hdigit
          · simp [hdigit, Order.needsRun]
          · simp only [hdigit, iff_false_intro hr, iff_false_intro hb,
              iff_false_intro hs, or_false, decide_false]
            rfl
  | _ => rfl

/-- A character key other than the space key carries out its order, or it has
none and at most ends the debugger. -/
lemma pressChar_eq (d : Debugger) (now : Time) {c : Char} (hspace : c ≠ ' ') :
    ∃ quit, d.pressChar now c =
      match Order.ofChar? c with
      | some o => d.obey now o
      | none => { d with quit := quit } := by
  rw [pressChar.eq_def]
  split
  · exact ⟨true, rfl⟩
  · exact ⟨true, rfl⟩
  · exact ⟨d.quit, rfl⟩
  · exact ⟨d.quit, rfl⟩
  · exact ⟨d.quit, rfl⟩
  · exact ⟨d.quit, rfl⟩
  · exact absurd rfl hspace
  · exact ⟨d.quit, rfl⟩
  · next _ _ hr hb hs hp _ hx =>
      have horder : Order.ofChar? c = (stepDigit? c).map .step := by
        rw [Order.ofChar?] <;> assumption
      rw [horder]
      cases stepDigit? c <;> exact ⟨d.quit, rfl⟩

lemma press_of_order {o : Order} (h : key.order? = some o) :
    d.press now key = d.obey now o := by
  cases key with
  | char c =>
      have hchar : Order.ofChar? c = some o := h
      have hspace : c ≠ ' ' := by
        rintro rfl
        have hnone : Order.ofChar? ' ' = none := by decide
        exact absurd (hnone.symm.trans hchar) (by simp)
      obtain ⟨quit, hpress⟩ := pressChar_eq d now hspace
      rw [hchar] at hpress
      exact hpress
  | right => cases h; rfl
  | escape => cases h; rfl
  | _ => cases h

lemma press_space (d : Debugger) (now : Time) :
    d.press now (.char ' ') =
      if d.heedsSpace now then
        { d with lastSpace := some now }.obey now d.spaceOrder
      else d := by
  show d.toggle now = _
  rw [toggle, spaceOrder, heedsSpace]
  dsimp only
  cases d.lastSpace <;> split_ifs <;> rfl

/-- A key without an order only changes what the screen shows. -/
lemma press_of_no_order (d : Debugger) (now : Time)
    (hspace : key ≠ .char ' ') (h : key.order? = none) :
    ∃ quit focus memoryOffset outputScroll, d.press now key =
      { d with
        quit := quit
        focus := focus
        memoryOffset := memoryOffset
        outputScroll := outputScroll } := by
  cases key with
  | char c =>
      have hchar : Order.ofChar? c = none := h
      obtain ⟨quit, hpress⟩ :=
        pressChar_eq d now fun hc => hspace (congrArg Key.char hc)
      rw [hchar] at hpress
      exact ⟨quit, _, _, _, hpress⟩
  | right => cases h
  | escape => cases h
  | up =>
      show ∃ _ _ _ _, d.scrollUp = _
      rw [scrollUp]
      cases d.focus <;> exact ⟨_, _, _, _, rfl⟩
  | down =>
      show ∃ _ _ _ _, d.scrollDown = _
      rw [scrollDown]
      cases d.focus <;> exact ⟨_, _, _, _, rfl⟩
  | _ => exact ⟨_, _, _, _, rfl⟩

/-! ### Signals -/

/-- What reaches a debugger. -/
inductive Signal where
  /-- A key is pressed at a time. -/
  | press (now : Time) (key : Key)
  /-- It is a time at which a batch may be due. -/
  | tick (now : Time)
  /-- The screen no longer shows the debugger. -/
  | expose
  /-- The debugger is drawn on a screen of the given size. -/
  | frame (width height : Nat)

/-- The debugger after a signal. -/
def react (d : Debugger) : Signal → Debugger
  | .press now key => d.press now key
  | .tick now => d.tick now
  | .expose => { d with outdated := true }
  | .frame width height => (d.frame width height).2

/-- The debugger after a sequence of signals. -/
def reactAll (d : Debugger) : List Signal → Debugger
  | [] => d
  | e :: rest => (d.react e).reactAll rest

lemma reactAll_append (d : Debugger) (signals rest : List Signal) :
    d.reactAll (signals ++ rest) = (d.reactAll signals).reactAll rest := by
  induction signals generalizing d with
  | nil => rfl
  | cons e signals ih => exact ih (d.react e)

/-! ### What a signal asks of the session -/

/-- The commands by which a run that can go on is asked for `c`: the program
is loaded first if the run has ended, and if it cannot be loaded, nothing is
asked for. -/
def demand (d : Debugger) (c : Command) : List Command :=
  if d.session.machine.halted then
    match imbalance? d.source with
    | some _ => []
    | none => [.start d.source d.input, c]
  else [c]

/-- The commands of an order. -/
def commands (d : Debugger) : Order → List Command
  | .run mode => d.demand mode.command
  | .step count => d.demand (.stepMany count)
  | .pause => [.pause]
  | .stop => [.stop]

/-- The order that a key gives at the time `now`, if it gives one. -/
def orderAt? (d : Debugger) (now : Time) (key : Key) : Option Order :=
  if key = .char ' ' then
    if d.heedsSpace now then some d.spaceOrder else none
  else key.order?

/-- What a signal asks of the session. -/
def requests (d : Debugger) : Signal → List Request
  | .press now key =>
      match d.orderAt? now key with
      | some o => (d.commands o).map (.command now)
      | none => []
  | .tick now => [.command now .poll, .drain d.inbox]
  | .expose => []
  | .frame _ _ => []

/-- Whether a signal is a key that asks for a run or for steps; the space key
counts if it is heeded. -/
def asks (d : Debugger) : Signal → Bool
  | .press now key =>
      key.asksToRun || (decide (key = .char ' ') && d.heedsSpace now)
  | .tick _ => false
  | .expose => false
  | .frame _ _ => false

/-- Whether one of the signals is a key that asks for a run or for steps. -/
def asked (d : Debugger) : List Signal → Bool
  | [] => false
  | e :: rest => d.asks e || (d.react e).asked rest

/-- The mark of a bracket check that is made now. No check is made while the
run can go on. -/
def verdict (d : Debugger) : Option Nat :=
  if d.session.machine.halted then (imbalance? d.source).map (·.index)
  else d.errorIndex

/-! ### Reactions -/

/-- From `d` to `d'` the session has served the requests, the mark of a failed
bracket check has become `mark`, and the texts and the inbox have stayed. -/
structure Reacts (d : Debugger) (requests : List Request)
    (mark : Option Nat) (d' : Debugger) : Prop where
  session_eq : d'.session = d.session.serveAll requests
  errorIndex_eq : d'.errorIndex = mark
  source_eq : d'.source = d.source
  input_eq : d'.input = d.input
  inbox_eq : d'.inbox = d.inbox

lemma Reacts.trans {requests₁ requests₂ : List Request}
    {mark₁ mark₂ : Option Nat} {d₁ d₂ : Debugger}
    (h₁ : Reacts d requests₁ mark₁ d₁) (h₂ : Reacts d₁ requests₂ mark₂ d₂) :
    Reacts d (requests₁ ++ requests₂) mark₂ d₂ where
  session_eq := by
    rw [h₂.session_eq, h₁.session_eq, Session.serveAll_append]
  errorIndex_eq := h₂.errorIndex_eq
  source_eq := h₂.source_eq.trans h₁.source_eq
  input_eq := h₂.input_eq.trans h₁.input_eq
  inbox_eq := h₂.inbox_eq.trans h₁.inbox_eq

/-- The debugger after its program was loaded. -/
def reloaded (d : Debugger) : Debugger :=
  { d with
    session := (d.session.start d.source d.input).2
    errorIndex := none
    programScroll := 0
    outputScroll := 0 }

/-- What becomes of a debugger that has to make sure that its run can go on,
and whether it can. -/
inductive Readies (d : Debugger) : Bool × Debugger → Prop
  /-- The run can go on already. -/
  | awake (hawake : d.session.machine.halted = false) : Readies d (true, d)
  /-- The program cannot be loaded. -/
  | unbalanced {e : Imbalance} (hhalted : d.session.machine.halted = true)
      (he : imbalance? d.source = some e) :
      Readies d
        (false, { d with errorIndex := some e.index, status := e.message })
  /-- The program is loaded. -/
  | loaded (hhalted : d.session.machine.halted = true)
      (hbalanced : imbalance? d.source = none) :
      Readies d (true, d.reloaded)

/-- Nothing else can happen: once the check has passed, the program is
loaded. -/
lemma readies_ensureStarted (h : d.session.Coherent) :
    d.Readies d.ensureStarted := by
  rw [ensureStarted]
  cases hhalted : d.session.machine.halted with
  | false => exact .awake hhalted
  | true =>
      rw [if_pos rfl]
      cases he : imbalance? d.source with
      | some e => exact .unbalanced hhalted he
      | none =>
          have hstart := h.start_ok hhalted d.source d.input
          have hloaded := Readies.loaded hhalted he
          rw [reloaded] at hloaded
          dsimp only
          generalize d.session.start d.source d.input = started
            at hstart hloaded
          obtain ⟨result, session⟩ := started
          obtain rfl : result = .ok () := hstart
          exact hloaded

/-- An operation that needs a run that can go on is carried out after the
program was loaded, if that was needed and possible. -/
lemma reacts_demand (h : d.session.Coherent) (now : Time) (c : Command)
    {operate : Debugger → Debugger}
    (hoperate : ∀ d, Reacts d [.command now c] d.errorIndex (operate d)) :
    Reacts d ((d.demand c).map (.command now)) d.verdict
      (match d.ensureStarted with
        | (false, d) => d
        | (true, d) => operate d) := by
  have hready := readies_ensureStarted h
  rw [demand, verdict]
  generalize d.ensureStarted = readied at hready
  cases hready with
  | awake hawake =>
      rw [hawake]
      exact hoperate d
  | unbalanced hhalted he =>
      rw [hhalted, he]
      exact ⟨rfl, rfl, rfl, rfl, rfl⟩
  | loaded hhalted hbalanced =>
      rw [hhalted, hbalanced]
      have hload : Reacts d [.command now (.start d.source d.input)] none
          d.reloaded := ⟨rfl, rfl, rfl, rfl, rfl⟩
      exact hload.trans (hoperate _)

/-- **An order is carried out by its commands**, and one that needs a run
renews the mark of the bracket check. -/
lemma reacts_obey (h : d.session.Coherent) (now : Time) (o : Order) :
    Reacts d ((d.commands o).map (.command now))
      (if o.needsRun then d.verdict else d.errorIndex) (d.obey now o) := by
  cases o with
  | run mode =>
      cases mode with
      | continuous =>
          exact reacts_demand h now .runToEnd fun d => ⟨rfl, rfl, rfl, rfl, rfl⟩
      | breakpoint =>
          exact reacts_demand h now .runToBreakpoint
            fun d => ⟨rfl, rfl, rfl, rfl, rfl⟩
  | step count =>
      exact reacts_demand h now (.stepMany count)
        fun d => ⟨rfl, rfl, rfl, rfl, rfl⟩
  | pause =>
      have hpause : d.session.serveAll [.command now .pause]
          = d.session.pause.2 := rfl
      rw [commands, List.map_singleton, obey, pause]
      rcases hresult : d.session.pause with ⟨result, session⟩
      have hsession : session = d.session.serveAll [.command now .pause] := by
        rw [hpause, hresult]
      cases result <;> exact ⟨hsession, rfl, rfl, rfl, rfl⟩
  | stop => exact ⟨rfl, rfl, rfl, rfl, rfl⟩

lemma asks_of_order {o : Order} (hspace : key ≠ .char ' ')
    (h : key.order? = some o) : d.asks (.press now key) = o.needsRun := by
  rw [asks, asksToRun_eq, h, decide_eq_false hspace]
  simp

lemma asks_of_no_order (hspace : key ≠ .char ' ') (h : key.order? = none) :
    d.asks (.press now key) = false := by
  rw [asks, asksToRun_eq, h, decide_eq_false hspace]
  rfl

/-- While a run is active no bracket check is made, so its mark stays. -/
lemma verdict_of_active (h : d.session.Coherent)
    (hactive : d.session.schedule.isActive = true) :
    d.verdict = d.errorIndex := by
  rw [verdict, h.awake_of_active hactive]
  rfl

/-- The space key asks for a pause only while a run is active. -/
lemma mark_spaceOrder (h : d.session.Coherent) :
    (if d.spaceOrder.needsRun then d.verdict else d.errorIndex)
      = d.verdict := by
  rw [spaceOrder]
  cases hactive : d.session.schedule.isActive with
  | false => rfl
  | true => exact (verdict_of_active h hactive).symm

lemma reacts_press (h : d.session.Coherent) (now : Time) (key : Key) :
    Reacts d (d.requests (.press now key))
      (if d.asks (.press now key) then d.verdict else d.errorIndex)
      (d.press now key) := by
  by_cases hspace : key = .char ' '
  · subst hspace
    rw [press_space, requests, orderAt?, if_pos rfl]
    have hasks : d.asks (.press now (.char ' ')) = d.heedsSpace now := rfl
    rw [hasks]
    cases d.heedsSpace now with
    | false => exact ⟨rfl, rfl, rfl, rfl, rfl⟩
    | true =>
        have hobey := reacts_obey (d := { d with lastSpace := some now }) h now
          d.spaceOrder
        rw [if_pos rfl, if_pos rfl, if_pos rfl, ← mark_spaceOrder h]
        exact ⟨hobey.session_eq, hobey.errorIndex_eq, hobey.source_eq,
          hobey.input_eq, hobey.inbox_eq⟩
  · rw [requests, orderAt?, if_neg hspace]
    cases horder : key.order? with
    | some o =>
        rw [asks_of_order hspace horder, press_of_order horder]
        exact reacts_obey h now o
    | none =>
        obtain ⟨quit, focus, memoryOffset, outputScroll, hpress⟩ :=
          press_of_no_order d now hspace horder
        rw [asks_of_no_order hspace horder, hpress]
        exact ⟨rfl, rfl, rfl, rfl, rfl⟩

lemma reacts_tick (d : Debugger) (now : Time) :
    Reacts d (d.requests (.tick now)) d.errorIndex (d.tick now) := by
  rw [tick]
  dsimp only
  split <;> exact ⟨rfl, rfl, rfl, rfl, rfl⟩

/-- Drawing moves the scroll offsets at most. -/
lemma reacts_frame (d : Debugger) (width height : Nat) :
    Reacts d [] d.errorIndex (d.frame width height).2 := by
  rw [frame]
  dsimp only
  split_ifs <;> exact ⟨rfl, rfl, rfl, rfl, rfl⟩

/-- **What a signal does** is told by the debugger before it. A key that asks
for a run or for steps renews the mark of the bracket check, and no other
signal touches it. -/
lemma reacts_react (h : d.session.Coherent) (e : Signal) :
    Reacts d (d.requests e) (if d.asks e then d.verdict else d.errorIndex)
      (d.react e) := by
  cases e with
  | press now key => exact reacts_press h now key
  | tick now => exact reacts_tick d now
  | expose => exact ⟨rfl, rfl, rfl, rfl, rfl⟩
  | frame width height => exact reacts_frame d width height

end Debugger

end TapeDebugger
