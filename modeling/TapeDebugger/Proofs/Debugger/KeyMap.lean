/-
The keys that drive the run, and where each of them leads.

* `Key.Gives`: the map of these keys;
* `Machine.StepsUpTo`: the machine after up to a number of steps;
* `Debugger.Order.LeadsTo`: what an order makes of a session, for each of its
  states;
* `Debugger.readied`: the debugger once a run is at hand, which for a text
  that passes the bracket check is always possible;
* `Debugger.leadsTo_obey`: an order leads there if no step of the run at hand
  fails;
* `Debugger.ReportsHalted`: the status bar says that the program is halted;
* `Debugger.press_space_eq`: the space key is one of two others;
* `Debugger.keys_drive_the_run`: where the keys lead in every debugger that a
  user can come to.

A key that needs a run asks only whether the machine is halted, and leaves it
to the session to refuse what does not fit its state.
-/
import Mathlib.Tactic
import TapeDebugger.Proofs.Debugger.Faultless
import TapeDebugger.Proofs.Session.StepsAtOnce

namespace TapeDebugger

/-! ### The map of the keys -/

/-- The order that a key gives: `r` and `b` ask for a timed run, `s`, the
right arrow and the digits from one to nine for steps, `p` for a pause, and
`x` and the escape key for a stop. -/
inductive Key.Gives : Key → Debugger.Order → Prop
  | run : Key.Gives (.char 'r') (.run .continuous)
  | runToBreakpoint : Key.Gives (.char 'b') (.run .breakpoint)
  | step : Key.Gives (.char 's') (.step 1)
  | right : Key.Gives .right (.step 1)
  | digit (n : Nat) (hlow : 1 ≤ n) (hhigh : n ≤ 9) :
      Key.Gives (.char n.digitChar) (.step n)
  | pause : Key.Gives (.char 'p') .pause
  | stop : Key.Gives (.char 'x') .stop
  | escape : Key.Gives .escape .stop

lemma Key.Gives.order?_eq {key : Key} {o : Debugger.Order}
    (h : key.Gives o) : key.order? = some o := by
  cases h with
  | digit n hlow hhigh => interval_cases n <;> decide
  | _ => rfl

/-! ### Steps up to a number -/

/-- From `m` to `m'` there are up to `count` steps. None of them fails or is
made on a halted machine, and there are fewer only if `m'` is halted. -/
def Machine.StepsUpTo (m : Machine) (count : Nat) (m' : Machine) : Prop :=
  ∃ k ≤ count, m.Unhindered k ∧ m' = Machine.after k m ∧
    (k < count → m'.halted = true)

/-- If no step fails, a burst makes its steps up to the bound or the halt. -/
lemma Machine.stepsUpTo_burst {m : Machine}
    (hok : ∀ k, (Machine.after k m).step.1 = none) (count : Nat) :
    (m.burst true count).fault? = none ∧
      m.StepsUpTo count (m.burst true count).machine := by
  obtain ⟨k, hmost, ⟨hend, hburst⟩ | ⟨f, -, hf, -⟩⟩ := m.burst_cases count
  · rw [hburst]
    exact ⟨rfl, k, hmost.1.1, hmost.1.2, rfl,
      fun hk => hend.resolve_left hk.ne⟩
  · exact absurd ((hok k).symm.trans hf) (by simp)

/-! ### Refusals -/

namespace Session

variable {s : Session} {now : Time} {c : Command}

/-- A command that the state refuses leaves the session as it is. -/
lemma perform_of_refused (h : s.runState.refusal? c ≠ none) :
    (s.perform now c).2 = s := by
  obtain ⟨r, hr⟩ := Option.ne_none_iff_exists'.mp h
  rcases hperform : s.perform now c with ⟨reply, s'⟩
  have heffect := effect_of_perform hperform
  obtain rfl := heffect.rejected_iff.mpr hr
  exact heffect.eq_of_rejected

lemma Coherent.pause_of_active (h : s.Coherent)
    (hactive : s.schedule.isActive = true) :
    s.pause.2.runState = .paused ∧ s.pause.2.machine = s.machine := by
  rw [pause, if_pos hactive]
  exact ⟨runState_eq_paused_iff.mpr ⟨rfl, h.awake_of_active hactive⟩, rfl⟩

/-- A session whose machine is not halted is paused, or refuses because a run
is active. -/
lemma paused_or_busy (h : s.machine.halted = false) (operation : String) :
    s.runState = .paused ∨ s.refusal? operation = some (.busy operation) := by
  rw [runState_eq_paused_iff, refusal?, Schedule.isActive, h]
  cases s.schedule.active with
  | none => exact Or.inl ⟨rfl, rfl⟩
  | some mode => exact Or.inr rfl

lemma arm_of_awake (h : s.machine.halted = false) (mode : RunMode)
    (operation : String) (now : Time) :
    (s.arm mode operation now).1 = .ok () ∨
      (s.arm mode operation now).1 = .error (.rejected (.busy operation)) := by
  rw [arm]
  obtain hpaused | hbusy := paused_or_busy h operation
  · rw [refusal?_eq_none_of_paused hpaused]
    exact Or.inl rfl
  · rw [hbusy]
    exact Or.inr rfl

lemma stepMany_of_awake (h : s.machine.halted = false)
    (hok : ∀ k, (Machine.after k s.machine).step.1 = none) (count : Nat) :
    (∃ steps, (s.stepMany count).1 = .ok steps) ∨
      (s.stepMany count).1 = .error (.rejected (.busy "step")) := by
  obtain hpaused | hbusy := paused_or_busy h "step"
  · rw [stepMany_eq hpaused, (Machine.stepsUpTo_burst hok count).1]
    exact Or.inl ⟨_, rfl⟩
  · rw [stepMany, hbusy]
    exact Or.inr rfl

end Session

namespace Debugger

variable {d : Debugger} {source input : String} {now : Time}

/-- What an order makes of the session `s`, if `fresh` is the machine of a run
that is loaded anew. A run or steps begin with that machine if the run has
ended, go on with the present one if it is paused, and are refused while it
is active; a pause does something only then, and a stop always does. -/
def Order.LeadsTo (fresh : Machine) (s : Session) :
    Order → Session → Prop
  | .run mode, t =>
      match s.runState with
      | .halted => t.runState = .running mode ∧ t.machine = fresh
      | .paused => t.runState = .running mode ∧ t.machine = s.machine
      | .running _ => t = s
  | .step count, t =>
      match s.runState with
      | .halted => t.runState = (if t.machine.halted then .halted else .paused)
          ∧ fresh.StepsUpTo count t.machine
      | .paused => t.runState = (if t.machine.halted then .halted else .paused)
          ∧ s.machine.StepsUpTo count t.machine
      | .running _ => t = s
  | .pause, t =>
      match s.runState with
      | .running _ => t.runState = .paused ∧ t.machine = s.machine
      | _ => t = s
  | .stop, t =>
      t.runState = .halted ∧ t.machine = { s.machine with halted := true }

/-! ### A run at hand -/

/-- The debugger with a run at hand: the program is loaded if the run has
ended. -/
def readied (d : Debugger) : Debugger :=
  if d.session.machine.halted then d.reloaded else d

/-- A program that passes the bracket check can always be made ready. -/
lemma ensureStarted_of_balanced (h : d.session.Coherent)
    (hbalanced : imbalance? d.source = none) :
    d.ensureStarted = (true, d.readied) := by
  have hready := readies_ensureStarted h
  rw [readied]
  generalize d.ensureStarted = readied at hready
  cases hready with
  | awake hawake => rw [hawake]; rfl
  | unbalanced _ he => exact absurd (hbalanced.symm.trans he) (by simp)
  | loaded hhalted _ => rw [hhalted]; rfl

/-- The states of a debugger with a run at hand, by those before: the run is
paused or active, and it is a new one only if the old one has ended. -/
lemma readied_cases (h : d.session.Coherent) :
    (d.session.runState = .halted ∧
        d.readied.session.runState = .paused ∧
        d.readied.session.machine = .load d.source d.input) ∨
      (d.session.runState = .paused ∧
        d.readied.session.runState = .paused ∧
        d.readied.session.machine = d.session.machine) ∨
      ∃ mode, d.session.runState = .running mode ∧
        d.readied.session = d.session := by
  cases hhalted : d.session.machine.halted with
  | true =>
      have hstate := h.runState_eq_halted hhalted
      rw [readied, hhalted, if_pos rfl, reloaded,
        Session.start_of_halted hstate]
      refine Or.inl ⟨hstate, ?_, rfl⟩
      exact Session.runState_eq_paused_iff.mpr
        ⟨(Session.runState_eq_halted_iff.mp hstate).1, rfl⟩
  | false =>
      rw [readied, hhalted, if_neg Bool.false_ne_true]
      cases hactive : d.session.schedule.active with
      | none =>
          have hstate :=
            Session.runState_eq_paused_iff.mpr ⟨hactive, hhalted⟩
          exact Or.inr (Or.inl ⟨hstate, hstate, rfl⟩)
      | some mode =>
          have hstate := Session.runState_eq_running_iff.mpr hactive
          exact Or.inr (Or.inr ⟨mode, hstate, rfl⟩)

/-- Whatever needs a run is asked of the session with a run at hand. -/
lemma serveAll_demand (hbalanced : imbalance? d.source = none) (now : Time)
    (c : Command) :
    d.session.serveAll ((d.demand c).map (.command now))
      = (d.readied.session.perform now c).2 := by
  rw [demand, readied]
  cases d.session.machine.halted with
  | true => rw [if_pos rfl, if_pos rfl, hbalanced]; rfl
  | false => rfl

/-! ### Where the orders lead -/

lemma leadsTo_run (h : d.session.Coherent)
    (hbalanced : imbalance? d.source = none) (now : Time) (mode : RunMode) :
    (Order.run mode).LeadsTo (.load d.source d.input) d.session
      (d.obey now (.run mode)).session := by
  rw [(reacts_obey h now (.run mode)).session_eq, commands,
    serveAll_demand hbalanced, Order.LeadsTo]
  obtain ⟨hstate, hready, hmachine⟩ | ⟨hstate, hready, hmachine⟩ |
    ⟨other, hstate, hsame⟩ := readied_cases h
  · rw [hstate, Session.perform_command hready]
    exact ⟨rfl, hmachine⟩
  · rw [hstate, Session.perform_command hready]
    exact ⟨rfl, hmachine⟩
  · have hrefused : d.session.runState.refusal? mode.command ≠ none := by
      rw [hstate]
      cases mode <;> exact Option.some_ne_none _
    rw [hsame, Session.perform_of_refused hrefused, hstate]

/-- Steps of a paused session on which no step of the machine fails. -/
lemma stepMany_of_faultless {s : Session} (h : s.runState = .paused)
    (hok : ∀ k, (Machine.after k s.machine).step.1 = none) (count : Nat) :
    let t := (s.perform now (.stepMany count)).2
    t.runState = (if t.machine.halted then .halted else .paused) ∧
      s.machine.StepsUpTo count t.machine := by
  intro t
  have ht : t = (s.stepMany count).2 := rfl
  have hidle := (Session.runState_eq_paused_iff.mp h).1
  rw [Session.stepMany_eq h] at ht
  rw [ht]
  refine ⟨?_, (Machine.stepsUpTo_burst hok count).2⟩
  rw [Session.runState]
  dsimp only
  rw [hidle]

lemma leadsTo_step (h : d.session.Coherent)
    (hbalanced : imbalance? d.source = none)
    (hok : ∀ k, (Machine.after k d.readied.session.machine).step.1 = none)
    (now : Time) (count : Nat) :
    (Order.step count).LeadsTo (.load d.source d.input) d.session
      (d.obey now (.step count)).session := by
  rw [(reacts_obey h now (.step count)).session_eq, commands,
    serveAll_demand hbalanced, Order.LeadsTo]
  obtain ⟨hstate, hready, hmachine⟩ | ⟨hstate, hready, hmachine⟩ |
    ⟨other, hstate, hsame⟩ := readied_cases h
  · rw [hstate, ← hmachine]
    exact stepMany_of_faultless hready hok count
  · rw [hstate, ← hmachine]
    exact stepMany_of_faultless hready hok count
  · have hrefused : d.session.runState.refusal? (.stepMany count) ≠ none := by
      rw [hstate]
      exact Option.some_ne_none _
    rw [hsame, Session.perform_of_refused hrefused, hstate]

lemma leadsTo_pause (h : d.session.Coherent) (fresh : Machine) (now : Time) :
    Order.pause.LeadsTo fresh d.session (d.obey now .pause).session := by
  have hsession : (d.obey now .pause).session
      = (d.session.perform now .pause).2 :=
    (reacts_obey h now .pause).session_eq
  rw [hsession, Order.LeadsTo]
  cases hstate : d.session.runState with
  | running mode =>
      exact h.pause_of_active
        (Session.isActive_iff_running.mpr ⟨mode, hstate⟩)
  | _ =>
      refine Session.perform_of_refused ?_
      rw [hstate]
      exact Option.some_ne_none _

/-- **An order leads where it should**, if no step of the run at hand
fails. -/
lemma leadsTo_obey (h : d.session.Coherent)
    (hbalanced : imbalance? d.source = none)
    (hok : ∀ k, (Machine.after k d.readied.session.machine).step.1 = none)
    (now : Time) (o : Order) :
    o.LeadsTo (.load d.source d.input) d.session (d.obey now o).session := by
  cases o with
  | run mode => exact leadsTo_run h hbalanced now mode
  | step count => exact leadsTo_step h hbalanced hok now count
  | pause => exact leadsTo_pause h _ now
  | stop => exact ⟨rfl, rfl⟩

/-! ### What the status bar says -/

/-- The status bar reports that an operation was refused because there is no
run that could go on. -/
def ReportsHalted (d : Debugger) : Prop :=
  ∃ operation : String,
    (Rejection.halted operation).message.toList <:+: d.status.toList

/-- Such a report is told by its end. -/
lemma not_reportsHalted
    (h : ¬ "program is halted".toList <:+: d.status.toList) :
    ¬ d.ReportsHalted := by
  rintro ⟨operation, hreport⟩
  have hend : "program is halted".toList
      <:+ (Rejection.halted operation).message.toList := by
    have hlast : "program is halted".toList
        <:+ ": program is halted".toList := by decide
    rw [Rejection.message, String.toList_append]
    exact hlast.trans (List.suffix_append _ _)
  exact h (hend.isInfix.trans hreport)

/-- A message about steps that were made lacks a letter of the report. -/
lemma not_mem_stepMessage (halted : Bool) (steps : Nat) :
    'l' ∉ (stepMessage halted (.ok steps)).toList := by
  have hdigits : 'l' ∉ Nat.toDigits 10 steps := by
    intro hmem
    have hdigit := Nat.isDigit_of_mem_toDigits (by decide) le_rfl hmem
    exact absurd hdigit (by decide)
  rw [stepMessage]
  split_ifs <;> simp [hdigits]

/-- With a run at hand, an order that needs one is not refused for the want
of it. -/
lemma not_reportsHalted_obey (h : d.session.Coherent)
    (hbalanced : imbalance? d.source = none)
    (hawake : d.readied.session.machine.halted = false)
    (hok : ∀ k, (Machine.after k d.readied.session.machine).step.1 = none)
    {o : Order} (hneeds : o.needsRun = true) :
    ¬ (d.obey now o).ReportsHalted := by
  have hstarted := ensureStarted_of_balanced h hbalanced
  apply not_reportsHalted
  cases o with
  | run mode =>
      cases mode with
      | continuous =>
          rw [obey, runToEnd, hstarted]
          show ¬ _ <:+: (runMessage _ (Session.arm _ _ _ now).1).toList
          obtain hr | hr := Session.arm_of_awake hawake .continuous "run" now <;>
          · rw [hr]
            decide
      | breakpoint =>
          rw [obey, runToBreakpoint, hstarted]
          show ¬ _ <:+: (runMessage _ (Session.arm _ _ _ now).1).toList
          obtain hr | hr := Session.arm_of_awake hawake .breakpoint
            "run to breakpoint" now <;>
          · rw [hr]
            decide
  | step count =>
      rw [obey, step, hstarted]
      show ¬ _ <:+: (stepMessage _ (Session.stepMany _ count).1).toList
      obtain ⟨steps, hr⟩ | hr := Session.stepMany_of_awake hawake hok count
      · rw [hr]
        intro hreport
        exact not_mem_stepMessage _ steps (hreport.subset (by decide))
      · rw [hr, stepMessage]
        decide
  | pause => exact absurd hneeds (by decide)
  | stop => exact absurd hneeds (by decide)

/-! ### The space key -/

lemma ensureStarted_with_lastSpace (d : Debugger) (last? : Option Time) :
    { d with lastSpace := last? }.ensureStarted
      = (d.ensureStarted.1,
        { d.ensureStarted.2 with lastSpace := last? }) := by
  rw [ensureStarted, ensureStarted]
  dsimp only
  split_ifs
  · cases imbalance? d.source with
    | some e => rfl
    | none =>
        rcases d.session.start d.source d.input with ⟨result, session⟩
        cases result <;> rfl
  · rfl

/-- No order looks at the time of the last press of the space key. -/
lemma obey_with_lastSpace (d : Debugger) (last? : Option Time) (now : Time)
    (o : Order) :
    { d with lastSpace := last? }.obey now o
      = { d.obey now o with lastSpace := last? } := by
  have hstarted := ensureStarted_with_lastSpace d last?
  rcases hd : d.ensureStarted with ⟨started, d'⟩
  rw [hd] at hstarted
  cases o with
  | run mode =>
      cases mode with
      | continuous =>
          rw [obey, obey, runToEnd, runToEnd, hstarted, hd]
          cases started <;> rfl
      | breakpoint =>
          rw [obey, obey, runToBreakpoint, runToBreakpoint, hstarted, hd]
          cases started <;> rfl
  | step count =>
      rw [obey, obey, step, step, hstarted, hd]
      cases started <;> rfl
  | pause =>
      rw [obey, obey, pause, pause]
      rcases d.session.pause with ⟨result, session⟩
      cases result <;> rfl
  | stop => rfl

/-- The key that the space key stands for. -/
def spaceKey : RunState → Key
  | .running _ => .char 'p'
  | _ => .char 'r'

/-- **A press of the space key that is heeded is one of another key**, but for
the time that is noted. -/
lemma press_space_eq (h : d.heedsSpace now = true) :
    d.press now (.char ' ') =
      { d.press now (spaceKey d.session.runState) with
        lastSpace := some now } := by
  have hkey : d.press now (spaceKey d.session.runState)
      = d.obey now d.spaceOrder := by
    rw [spaceOrder, Schedule.isActive, Session.runState]
    cases d.session.schedule.active with
    | some mode => rfl
    | none => cases d.session.machine.halted <;> rfl
  rw [press_space, if_pos h, obey_with_lastSpace, hkey]

/-! ### The keys -/

open Machine (after load)

/-- The run at hand is one of the program, and has not ended. -/
lemma Sound.at_hand (h : d.Sound source input) :
    d.readied.session.machine.halted = false ∧
      ∃ n, d.readied.session.machine = after n (load source input) := by
  rw [readied]
  cases hhalted : d.session.machine.halted with
  | true =>
      have hstate := h.session.coherent.runState_eq_halted hhalted
      rw [if_pos rfl, reloaded, Session.start_of_halted hstate, h.source_eq,
        h.input_eq]
      exact ⟨rfl, 0, rfl⟩
  | false =>
      rw [if_neg Bool.false_ne_true]
      exact ⟨hhalted, (h.session.stage.of_awake hhalted).2⟩

/-- **Where the keys lead.** Let a debugger be for a text that passes the
bracket check, and let any keys, ticks and frames have reached it. Then each
of the keys that drive the run leads where its order should: a run or steps
begin with the program loaded anew if the run has ended, go on with the
present machine if it is paused, and change nothing in the session while it is
active; a pause does something only then, and a stop only sets the halted
flag. A key that needs a run is never told that the program is halted. A press
of the space key that is heeded is one of `p` while a run is active, and
otherwise one of `r`. -/
theorem keys_drive_the_run (config : Config) {source : String}
    (hbalanced : imbalance? source = none) (input : String)
    (signals : List Signal) (now : Time) :
    let d := (new (.new config) source input).reactAll signals
    (∀ (key : Key) (o : Order), key.Gives o →
        o.LeadsTo (load source input) d.session
          (d.press now key).session) ∧
      (∀ (key : Key) (o : Order), key.Gives o → o.needsRun = true →
        ¬ (d.press now key).ReportsHalted) ∧
      (d.heedsSpace now = true →
        d.press now (.char ' ') =
          { d.press now (spaceKey d.session.runState) with
            lastSpace := some now }) := by
  intro d
  have hd : d.Sound source input :=
    (sound_new config source input).reactAll signals
  obtain ⟨hawake, n, hn⟩ := hd.at_hand
  have hcoherent := hd.session.coherent
  have hpasses : imbalance? d.source = none := by rwa [hd.source_eq]
  have hok : ∀ k, (after k d.readied.session.machine).step.1 = none := by
    intro k
    rw [hn, ← Machine.after_add]
    exact Machine.step_of_balanced hbalanced input (n + k)
  refine ⟨fun key o hkey => ?_, fun key o hkey hneeds => ?_, press_space_eq⟩
  · have hleads := leadsTo_obey hcoherent hpasses hok now o
    rw [hd.source_eq, hd.input_eq] at hleads
    rwa [press_of_order hkey.order?_eq]
  · rw [press_of_order hkey.order?_eq]
    exact not_reportsHalted_obey hcoherent hpasses hawake hok hneeds

/-- After three steps and a stop the run of `+[-]` has ended. Each of the keys
`r`, `2` and the space key begins with the program loaded anew. -/
theorem keys_drive_the_run_stopped :
    let signals : List Signal :=
      [.press 1 (.char '3'), .press 2 .escape]
    let d := (new (.new .standard) "+[-]" "").reactAll signals
    let fresh := load "+[-]" ""
    (imbalance? "+[-]" = none ∧ d.session.runState = .halted ∧
        d.session.machine.pc = 3) ∧
      ((d.press 3 (.char 'r')).session.runState = .running .continuous ∧
        (d.press 3 (.char 'r')).session.machine = fresh) ∧
      (fresh.StepsUpTo 2 (d.press 3 (.char '2')).session.machine ∧
        ¬ (d.press 3 (.char '2')).ReportsHalted) ∧
      d.press 3 (.char ' ') =
        { d.press 3 (.char 'r') with lastSpace := some 3 } := by
  intro signals d fresh
  have hbalanced : imbalance? "+[-]" = none := by decide
  have hstate : d.session.runState = .halted := by decide
  obtain ⟨hleads, hanswers, hspace⟩ :=
    keys_drive_the_run .standard hbalanced "" signals 3
  have hrun := hleads _ _ .run
  have hdigit := Key.Gives.digit 2 (by decide) (by decide)
  have hstep := hleads _ _ hdigit
  rw [Order.LeadsTo, hstate] at hrun
  rw [Order.LeadsTo, hstate] at hstep
  rw [hstate] at hspace
  exact ⟨⟨hbalanced, hstate, by decide⟩, hrun,
    ⟨hstep.2, hanswers _ _ hdigit rfl⟩, hspace rfl⟩

end Debugger

end TapeDebugger
