/-
A debugger checks the brackets of its program before it loads it, and so no
run that a user can bring about has a fault.

* `Machine.Stage`: what the machine of a debugger can be: nothing is loaded,
  or a program that passes the bracket check has made some steps;
* `Session.Faultless`: a session at such a stage that remembers no fault;
* `Session.Faultless.effect`: a command keeps this, if it loads nothing else;
* `Debugger.Sound`: a debugger with such a session, and without the mark of a
  failed check if its program passes;
* `Debugger.Sound.react`: a signal keeps this, whichever it is;
* `Debugger.Sound.errorIndex_reactAll`: the mark is there from the first key on
  that asks for a run or for steps;
* `Debugger.never_faults`: what follows for every sequence of signals.
-/
import Mathlib.Tactic
import TapeDebugger.Proofs.Machine.Faults
import TapeDebugger.Proofs.Debugger.Signals

namespace TapeDebugger

/-! ### Machines -/

namespace Machine

variable {source input : String} {m m' : Machine} {k : Nat}
  {f? : Option Fault}

/-- What a machine can be on which nothing but the given texts is ever loaded,
and these only if the brackets balance. -/
inductive Stage (source input : String) : Machine → Prop
  /-- Nothing was loaded. -/
  | unloaded : Stage source input .unloaded
  /-- The program has made some steps. -/
  | running (hbalanced : imbalance? source = none) (n : Nat) :
      Stage source input (after n (load source input))
  /-- The program has made some steps, and was stopped. -/
  | stopped (hbalanced : imbalance? source = none) (n : Nat) :
      Stage source input (after n (load source input)).halt

lemma Stage.halt (h : m.Stage source input) : m.halt.Stage source input := by
  cases h with
  | unloaded => exact .unloaded
  | running hbalanced n => exact .stopped hbalanced n
  | stopped hbalanced n => exact .stopped hbalanced n

/-- Only a program that was not stopped can go on. -/
lemma Stage.of_awake (h : m.Stage source input) (hm : m.halted = false) :
    imbalance? source = none ∧ ∃ n, m = after n (load source input) := by
  cases h with
  | unloaded => exact absurd hm (by decide)
  | running hbalanced n => exact ⟨hbalanced, n, rfl⟩
  | stopped hbalanced n => exact absurd hm (by simp [Machine.halt])

/-- A program that does not pass the bracket check is never loaded. -/
lemma Stage.of_unbalanced (h : m.Stage source input) {e : Imbalance}
    (he : imbalance? source = some e) : m = .unloaded := by
  cases h with
  | unloaded => rfl
  | running hbalanced n => simp [hbalanced] at he
  | stopped hbalanced n => simp [hbalanced] at he

/-- Steps lead to a further stage, and none of them fails. -/
lemma Stage.stretch (h : m.Stage source input) (hm : m.halted = false)
    (hsteps : m.Stretch k f? m') : m'.Stage source input ∧ f? = none := by
  obtain ⟨hbalanced, n, rfl⟩ := h.of_awake hm
  constructor
  · rw [hsteps.machine_eq, ← after_add]
    exact .running hbalanced (n + k)
  · rw [hsteps.fault_eq]
    exact faultOf_of_balanced hbalanced input n k

end Machine

/-! ### Sessions -/

/-- A request loads the given texts or nothing, and only if the brackets
balance. -/
def Request.LoadsOnly (source input : String) : Request → Prop
  | .command _ (.start code text) =>
      code = source ∧ text = input ∧ imbalance? source = none
  | _ => True

namespace Session

variable {source input : String} {s s' : Session} {now : Time} {c : Command}
  {reply : Reply}

/-- The session is coherent, its machine is at a stage of the given program,
and it remembers no fault. -/
structure Faultless (source input : String) (s : Session) : Prop where
  coherent : s.Coherent
  stage : s.machine.Stage source input
  lastFault_eq : s.lastFault = none

lemma faultless_new (config : Config) (source input : String) :
    (new config).Faultless source input :=
  ⟨coherent_new config, .unloaded, rfl⟩

/-- A batch has no fault, and leads to a further stage. -/
lemma Faultless.batch (h : s.Faultless source input) {mode : RunMode}
    {outcome : Outcome} {m : Machine}
    (hactive : s.schedule.active = some mode)
    (hbatch : s.machine.batch mode s.config.batchSize = (outcome, m)) :
    m.Stage source input ∧ outcome.fault? = none := by
  obtain ⟨hawake, hsteps, -⟩ := h.coherent.batch hactive hbatch
  exact h.stage.stretch hawake hsteps

/-- **One command keeps a session without faults**, whatever its effect. -/
lemma Faultless.effect (h : s.Faultless source input)
    (hc : (Request.command now c).LoadsOnly source input)
    (heffect : Effect now s c reply s') : s'.Faultless source input := by
  have hcoherent := h.coherent.effect heffect
  cases heffect with
  | refused => exact h
  | loaded =>
      obtain ⟨rfl, rfl, hbalanced⟩ := hc
      exact ⟨hcoherent, .running hbalanced 0, rfl⟩
  | stepped hpaused _ _ hsteps =>
      have hawake := (runState_eq_paused_iff.mp hpaused).2
      obtain ⟨hstage, rfl⟩ := h.stage.stretch hawake hsteps
      exact ⟨hcoherent, hstage, h.lastFault_eq⟩
  | armed => exact ⟨hcoherent, h.stage, h.lastFault_eq⟩
  | paused => exact ⟨hcoherent, h.stage, h.lastFault_eq⟩
  | stopped => exact ⟨hcoherent, h.stage.halt, h.lastFault_eq⟩
  | waited => exact h
  | yielded hactive _ hbatch =>
      exact ⟨hcoherent, (h.batch hactive hbatch).1, h.lastFault_eq⟩
  | ended hactive _ _ hbatch =>
      obtain ⟨hstage, hok⟩ := h.batch hactive hbatch
      refine ⟨hcoherent, hstage, ?_⟩
      rw [endRun, notify, hok]
      exact h.lastFault_eq

lemma Faultless.serve (h : s.Faultless source input) {r : Request}
    (hr : r.LoadsOnly source input) : (s.serve r).Faultless source input := by
  cases r with
  | command now c => exact h.effect hr (effect_of_perform rfl)
  | _ => exact ⟨h.coherent.serve _, h.stage, h.lastFault_eq⟩

lemma Faultless.serveAll (h : s.Faultless source input)
    {requests : List Request}
    (hrequests : ∀ r ∈ requests, r.LoadsOnly source input) :
    (s.serveAll requests).Faultless source input := by
  induction requests generalizing s with
  | nil => exact h
  | cons r rest ih =>
      obtain ⟨hr, hrest⟩ := List.forall_mem_cons.mp hrequests
      exact ih (h.serve hr) hrest

lemma Faultless.poll_ne_faulted (h : s.Faultless source input) (now : Time)
    (f : Fault) : (s.poll now).1 ≠ some (.faulted f) := by
  intro hpoll
  have heffect := effect_poll now s
  rw [hpoll] at heffect
  generalize (s.poll now).2 = s' at heffect
  cases heffect with
  | stepped _ hc => simp at hc
  | ended hactive _ _ hbatch =>
      have hok := (h.batch hactive hbatch).2
      exact absurd hok (by simp [Outcome.fault?])

end Session

/-! ### Debuggers -/

namespace Debugger

open Machine (after load)

variable {source input : String} {d : Debugger}

/-- The debugger is one for the given texts, its session has no faults, and
it bears the mark of a failed bracket check only if the check fails. -/
structure Sound (source input : String) (d : Debugger) : Prop where
  source_eq : d.source = source
  input_eq : d.input = input
  session : d.session.Faultless source input
  errorIndex_eq : imbalance? source = none → d.errorIndex = none

lemma sound_new (config : Config) (source input : String) :
    (new (.new config) source input).Sound source input where
  source_eq := rfl
  input_eq := rfl
  session :=
    (Session.faultless_new config source input).serve (r := .subscribe) trivial
  errorIndex_eq := fun _ => rfl

/-- The mark that a key may set is that of the program. -/
lemma Sound.verdict_eq (h : d.Sound source input) :
    d.verdict = (imbalance? source).map (·.index) := by
  rw [verdict, h.source_eq]
  split_ifs with hhalted
  · rfl
  · -- a run that can go on has passed the check
    obtain ⟨hbalanced, -⟩ :=
      h.session.stage.of_awake (Bool.not_eq_true _ ▸ hhalted)
    rw [h.errorIndex_eq hbalanced, hbalanced]
    rfl

/-- A demand loads the texts of the debugger, and only after the check. -/
lemma Sound.loadsOnly_demand (h : d.Sound source input) {now : Time}
    {c : Command} (hc : (Request.command now c).LoadsOnly source input) :
    ∀ c' ∈ d.demand c, (Request.command now c').LoadsOnly source input := by
  rw [demand, h.source_eq, h.input_eq]
  intro c' hc'
  split_ifs at hc'
  · split at hc'
    · exact absurd hc' List.not_mem_nil
    · next hbalanced =>
        obtain rfl | hmem := List.mem_cons.mp hc'
        · exact ⟨rfl, rfl, hbalanced⟩
        · obtain rfl := List.mem_singleton.mp hmem
          exact hc
  · obtain rfl := List.mem_singleton.mp hc'
    exact hc

lemma Sound.loadsOnly_commands (h : d.Sound source input) (now : Time)
    (o : Order) :
    ∀ c ∈ d.commands o, (Request.command now c).LoadsOnly source input := by
  cases o with
  | run mode => cases mode <;> exact h.loadsOnly_demand trivial
  | step count => exact h.loadsOnly_demand trivial
  | pause =>
      intro c hc
      obtain rfl := List.mem_singleton.mp hc
      trivial
  | stop =>
      intro c hc
      obtain rfl := List.mem_singleton.mp hc
      trivial

/-- No signal makes the session load anything but the checked program. -/
lemma Sound.loadsOnly_requests (h : d.Sound source input) (e : Signal) :
    ∀ r ∈ d.requests e, r.LoadsOnly source input := by
  intro r hr
  cases e with
  | press now key =>
      rw [requests] at hr
      split at hr
      · next o _ =>
          obtain ⟨c, hc, rfl⟩ := List.mem_map.mp hr
          exact h.loadsOnly_commands now o c hc
      · exact absurd hr List.not_mem_nil
  | tick now =>
      rw [requests] at hr
      obtain rfl | hmem := List.mem_cons.mp hr
      · trivial
      · obtain rfl := List.mem_singleton.mp hmem
        trivial
  | expose => exact absurd hr List.not_mem_nil
  | frame width height => exact absurd hr List.not_mem_nil

lemma Sound.errorIndex_react (h : d.Sound source input) (e : Signal) :
    (d.react e).errorIndex =
      if d.asks e then (imbalance? source).map (·.index)
      else d.errorIndex := by
  rw [(reacts_react h.session.coherent e).errorIndex_eq, h.verdict_eq]

/-- **One signal keeps a debugger sound.** -/
lemma Sound.react (h : d.Sound source input) (e : Signal) :
    (d.react e).Sound source input := by
  have hreacts := reacts_react h.session.coherent e
  refine ⟨hreacts.source_eq.trans h.source_eq,
    hreacts.input_eq.trans h.input_eq, ?_, fun hbalanced => ?_⟩
  · rw [hreacts.session_eq]
    exact h.session.serveAll (h.loadsOnly_requests e)
  · rw [h.errorIndex_react, h.errorIndex_eq hbalanced, hbalanced]
    exact ite_self none

lemma Sound.reactAll (h : d.Sound source input) (signals : List Signal) :
    (d.reactAll signals).Sound source input := by
  induction signals generalizing d with
  | nil => exact h
  | cons e rest ih => exact ih (h.react e)

/-- The mark is set by the first key that asks for a run or for steps, and
stays. -/
lemma Sound.errorIndex_reactAll (h : d.Sound source input)
    (signals : List Signal) :
    (d.reactAll signals).errorIndex =
      if d.asked signals then (imbalance? source).map (·.index)
      else d.errorIndex := by
  induction signals generalizing d with
  | nil => rfl
  | cons e rest ih =>
      rw [Debugger.reactAll, ih (h.react e), h.errorIndex_react, asked]
      cases d.asks e <;> cases (d.react e).asked rest <;> rfl

lemma Sound.ensureStarted_eq (h : d.Sound source input) :
    d.ensureStarted.1 = (imbalance? source).isNone := by
  have hready := readies_ensureStarted h.session.coherent
  generalize d.ensureStarted = readied at hready
  cases hready with
  | awake hawake => rw [(h.session.stage.of_awake hawake).1]; rfl
  | unbalanced _ he => rw [← h.source_eq, he]; rfl
  | loaded _ hbalanced => rw [← h.source_eq, hbalanced]; rfl

/-- **A debugger never faults.** For all texts and every tuning, and whatever
keys, ticks and frames reach a new debugger: it remembers no fault, and no
poll runs into one. If its run can go on, the program is the source text,
which passes the bracket check, and the machine is the one loaded with it
after some number of steps. A run that has ended can always be started anew,
so it depends on the check alone whether a run is at hand when one is needed.
If the check fails, nothing is ever loaded or run, and the place where it
fails is marked exactly from the first key on that asks for a run or for
steps. If it succeeds, nothing is ever marked. -/
theorem never_faults (config : Config) (source input : String)
    (signals : List Signal) :
    let fresh := new (.new config) source input
    let d := fresh.reactAll signals
    let s := d.session
    (d.source = source ∧ d.input = input) ∧
      (s.lastFault = none ∧ ∀ now f, (s.poll now).1 ≠ some (.faulted f)) ∧
      (s.machine.halted = false →
        imbalance? source = none ∧
          s.machine.program = Program.ofString source ∧
          ∃ n, s.machine = after n (load source input)) ∧
      ((s.machine.halted = true →
          (s.start d.source d.input).1 = .ok ()) ∧
        d.ensureStarted.1 = (imbalance? source).isNone) ∧
      (∀ e, imbalance? source = some e →
        (s.machine = .unloaded ∧ s.machine.program.size = 0 ∧
            s.machine.store.tape = .blank ∧ s.machine.output = "") ∧
          (s.runState = .halted ∧ s.schedule.isActive = false) ∧
          d.errorIndex =
            if fresh.asked signals then some e.index else none) ∧
      (imbalance? source = none → d.errorIndex = none) := by
  intro fresh d s
  have hfresh : fresh.Sound source input := sound_new config source input
  have hd : d.Sound source input := hfresh.reactAll signals
  refine ⟨⟨hd.source_eq, hd.input_eq⟩,
    ⟨hd.session.lastFault_eq, hd.session.poll_ne_faulted⟩, fun hawake => ?_,
    ⟨fun hhalted => hd.session.coherent.start_ok hhalted _ _,
      hd.ensureStarted_eq⟩,
    fun e he => ?_, hd.errorIndex_eq⟩
  · obtain ⟨hbalanced, n, hn⟩ := hd.session.stage.of_awake hawake
    refine ⟨hbalanced, ?_, n, hn⟩
    rw [hn, Machine.after_program]
    rfl
  · have hunloaded : s.machine = .unloaded := hd.session.stage.of_unbalanced he
    have hhalted : s.runState = .halted :=
      hd.session.coherent.runState_eq_halted (by rw [hunloaded]; rfl)
    have hidle := (Session.runState_eq_halted_iff.mp hhalted).1
    refine ⟨⟨hunloaded, ?_, ?_, ?_⟩, ⟨hhalted, ?_⟩, ?_⟩
    · rw [hunloaded]; rfl
    · rw [hunloaded]; rfl
    · rw [hunloaded]; rfl
    · rw [Schedule.isActive, hidle]; rfl
    · rw [hfresh.errorIndex_reactAll signals, he]
      rfl

/-- Two steps, a stop and another step: `+[` is never loaded and its last
character is marked, while `+[-]` is loaded twice and can go on. -/
theorem never_faults_applied :
    let signals : List Signal :=
      [.press 1 (.char '2'), .tick 2, .press 3 .escape, .press 4 .right]
    ((imbalance? "+[" = some ⟨1, .unclosed⟩ ∧
          (new (.new .standard) "+[" "").asked signals = true) ∧
        ((new (.new .standard) "+[" "").reactAll signals).errorIndex
          = some 1) ∧
      ((new (.new .standard) "+[-]" "").reactAll
          signals).session.machine.halted = false ∧
      ∃ n, ((new (.new .standard) "+[-]" "").reactAll signals).session.machine
        = after n (load "+[-]" "") := by
  intro signals
  have hasked : (new (.new .standard) "+[" "").asked signals = true := by
    decide
  have hawake : ((new (.new .standard) "+[-]" "").reactAll
      signals).session.machine.halted = false := by decide
  obtain ⟨-, -, -, -, hunbalanced, -⟩ := never_faults .standard "+[" "" signals
  obtain ⟨-, -, hmark⟩ := hunbalanced ⟨1, .unclosed⟩ (by decide)
  obtain ⟨-, -, hrun, -⟩ := never_faults .standard "+[-]" "" signals
  rw [if_pos hasked] at hmark
  exact ⟨⟨⟨by decide, hasked⟩, hmark⟩, hawake, (hrun hawake).2.2⟩

end Debugger

end TapeDebugger
