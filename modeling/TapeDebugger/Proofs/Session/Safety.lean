/-
No session ever looks outside the tape or the program.

* `Session.stepsInRun`: the number of steps in the present run, which is the
  one since the last start that was accepted;
* `Session.driven_serve`: a request drives the machine by the steps that it
  makes, halts it, or loads a new one;
* `Session.driven_serveAll`: so the machine of every session that a host can
  come to is one that was driven by as many steps as its run has made;
* `Session.machine_safety`: it is safe therefore, within a batch as well as
  between two requests, and so is every machine outside of a session.
-/
import Mathlib.Tactic
import TapeDebugger.Snapshot
import TapeDebugger.Proofs.Machine.Safety
import TapeDebugger.Proofs.Session.Restart

namespace TapeDebugger

namespace Session

open Machine (after load unloaded Driven Safe)

variable {s : Session} {n : Nat}

/-! ### The steps of the present run -/

/-- The number of steps in the present run after a request, if there were `n`
before. A start that is accepted begins a new run. -/
def stepsAfter (s : Session) (n : Nat) : Request → Nat
  | .command _ (.start _ _) => if s.runState = .halted then 0 else n
  | .command now c => n + s.stepsMade now c
  | _ => n

/-- The number of steps in the present run after a sequence of requests. -/
def stepsInRun (s : Session) (n : Nat) : List Request → Nat
  | [] => n
  | r :: rest => (s.serve r).stepsInRun (s.stepsAfter n r) rest

/-- A command that keeps the run drives its machine further. -/
lemma Coherent.driven_of_keeps (hs : s.Coherent) (h : s.machine.Driven n)
    (now : Time) {c : Command} (hkeeps : s.Keeps c) :
    (s.perform now c).2.machine.Driven (n + s.stepsMade now c) := by
  obtain ⟨f?, hsteps⟩ := hs.stretch now hkeeps
  rw [hsteps.machine_eq]
  exact h.after (s.stepsMade now c)

/-- **A request drives the machine** by the steps that it makes in its run,
halts it, or replaces it by a fresh one. -/
lemma Coherent.driven_serve (hs : s.Coherent) (h : s.machine.Driven n)
    (r : Request) : (s.serve r).machine.Driven (s.stepsAfter n r) := by
  cases r with
  | command now c =>
      cases c with
      | start code input =>
          rw [stepsAfter]
          split_ifs with hstate
          · rw [Session.serve, perform, start_of_halted hstate]
            exact .loaded code input
          · have hkeeps : s.Keeps (.start code input) := by
              rw [Keeps, Session.start]
              split_ifs with hactive hhalted
              · simp
              · have hidle := Option.not_isSome_iff_eq_none.mp hactive
                exact absurd (runState_eq_halted_iff.mpr ⟨hidle, hhalted⟩)
                  hstate
              · simp
            exact hs.driven_of_keeps h now hkeeps
      | stop => exact h.stopped
      | _ => exact hs.driven_of_keeps h now trivial
  | _ => exact h

lemma driven_serveAll (hs : s.Coherent) (h : s.machine.Driven n)
    (requests : List Request) :
    (s.serveAll requests).machine.Driven (s.stepsInRun n requests) := by
  induction requests generalizing s n with
  | nil => exact h
  | cons r rest ih => exact ih (hs.serve r) (hs.driven_serve h r)

/-! ### Safety -/

/-- **No machine ever looks outside its tape or its program.** After any
requests to a new session the tape has its 30000 cells, the pointer lies on
it, the program counter within the program or at its end, and all loops
entered were opened by a `[` of the program. The same holds of all machines
that further steps lead to, those within a batch among them, and a snapshot
finds the cell under its pointer. It holds of every machine that was driven
by steps and halts alone.

Once a step was made, the program counter is at an instruction or at the end;
steps alone set the halted flag exactly at the end and where one of them has
failed; and the only machine at its end that is not halted is a fresh one
without a text. -/
theorem machine_safety (config : Config) (requests : List Request) :
    let s := (new config).serveAll requests
    let n := (new config).stepsInRun 0 requests
    ((∀ k, (after k s.machine).Safe (n + k)) ∧
        s.snapshot.memory.size = 30000 ∧
        s.snapshot.cell? = some s.machine.cell) ∧
      (∀ (m : Machine) (k : Nat), m.Driven k → m.Safe k) ∧
      (∀ code input k, 0 < k ∨ code ≠ "" →
        let m := after k (load code input)
        (m.halted = true ↔ m.pc = m.program.size ∨
          ∃ j < k, (after j (load code input)).step.1.isSome = true)) ∧
      ∀ k, let m := after k unloaded
        m.halted = true ∧ m.pc = m.program.size := by
  intro s n
  have hdriven : s.machine.Driven n :=
    driven_serveAll (coherent_new config) .empty requests
  refine ⟨⟨fun k => (hdriven.after k).safe, hdriven.safe.tape_size,
    hdriven.safe.cell_on_tape⟩, fun m k h => h.safe, fun code input k h =>
    Machine.halted_after_load_iff code input h, fun k => ?_⟩
  intro m
  have hm : m = unloaded := Machine.after_unloaded k
  rw [hm]
  exact ⟨rfl, rfl⟩

/-- A run of `x+[>` that is stopped within its loop has made three steps, and
the loop that it is in was opened at position two. The bracket of `+]` halts
its machine with the second step, also if a host had halted it before. -/
theorem machine_safety_stopped :
    let requests : List Request :=
      [.command 0 (.start "x+[>" ""), .command 0 (.stepMany 3),
        .command 0 .stop]
    let s := (new .standard).serveAll requests
    let m := (load "+]" "").step.2.halt
    ((new .standard).stepsInRun 0 requests = 3 ∧ 2 ∈ s.machine.loops ∧
        m.Driven 1) ∧
      s.machine.program.charAt? 2 = some '[' ∧
      (m.program.instructionAt? m.pc).isSome = true ∧
      (after 2 (load "+]" "")).halted = true := by
  intro requests s m
  obtain ⟨⟨hsteps, -, -⟩, hbare, hflag, -⟩ :=
    machine_safety .standard requests
  have hsteps' : (new .standard).stepsInRun 0 requests = 3 := by decide
  have hloop : 2 ∈ s.machine.loops := by decide
  have hdriven : m.Driven 1 := .stopped (.stepped (.loaded "+]" ""))
  have hhere := (hbare m 1 hdriven).pc_settled one_pos
  have hfailed : ∃ j < 2,
      (after j (load "+]" "")).step.1.isSome = true := ⟨1, by decide⟩
  exact ⟨⟨hsteps', hloop, hdriven⟩, (hsteps 0).loops_open 2 hloop,
    hhere.resolve_left (by decide),
    (hflag "+]" "" 2 (Or.inl two_pos)).mpr (Or.inr hfailed)⟩

end Session

end TapeDebugger
