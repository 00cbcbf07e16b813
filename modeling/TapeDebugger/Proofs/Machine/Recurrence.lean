/-
What a snapshot shows, together with the input that is left, determines how a
run goes on.

* `Machine.SameScene`: two machines agree in the program counter, the
  pointer, the tape and the input that is left;
* `Machine.SameScene.inStep`: if both have come there by steps, they have
  entered the same loops, and go on in step;
* `Machine.InStep.halted_eq_of_pos`: from the next step on they are halted
  together;
* `Machine.never_halts_of_recurrence`: a run that comes back to a scene
  before it halts never halts;
* `Machine.scene_determines_future`: the same for all runs from the start.

A snapshot does not record the loops entered. It need not: they are a
function of the text and the program counter, on every text.
-/
import Mathlib.Tactic
import TapeDebugger.Proofs.Machine.LoopStack
import TapeDebugger.Proofs.Machine.Lockstep
import TapeDebugger.Proofs.Machine.Rest

namespace TapeDebugger

namespace Machine

variable {m m' : Machine} {i j k n : Nat}

/-! ### Scenes -/

/-- The two machines agree in the program counter, the pointer, the tape and
the input that is left. -/
structure SameScene (m m' : Machine) : Prop where
  pc_eq : m.pc = m'.pc
  pointer_eq : m.store.pointer = m'.store.pointer
  tape_eq : m.store.tape = m'.store.tape
  remaining_eq : m.remainingInput = m'.remainingInput

/-- In the same scene of one program the loops entered are the same. -/
lemma SameScene.inStep (h : m.SameScene m')
    (hprogram : m.program = m'.program) (halign : m.Aligned)
    (halign' : m'.Aligned) : m.InStep (· = ·) m' where
  program_eq := hprogram
  store := ⟨h.tape_eq, h.pointer_eq, String.ofList_injective h.remaining_eq⟩
  pc_eq := h.pc_eq
  loops_eq := by
    calc m.loops = m.program.openBefore m.pc := halign
      _ = m'.program.openBefore m'.pc := by rw [hprogram, h.pc_eq]
      _ = m'.loops := halign'.symm

lemma InStep.sameScene (h : m.InStep (· = ·) m') : m.SameScene m' where
  pc_eq := h.pc_eq
  pointer_eq := h.store.pointer_eq
  tape_eq := h.store.tape_eq
  remaining_eq := congrArg String.ofList h.store.pending

/-- After a common step the halted flags agree, whatever they were before. -/
lemma InStep.halted_eq_of_pos (h : m.InStep (· = ·) m')
    (hrest : m.HaltedAtRest) (hrest' : m'.HaltedAtRest) (hk : 0 < k) :
    (Machine.after k m).halted = (Machine.after k m').halted := by
  obtain ⟨l, rfl⟩ : ∃ l, k = l + 1 := ⟨k - 1, by omega⟩
  have hl := h.after Console.feeds_eq l
  obtain ⟨hfault, hnext⟩ := hl.step Console.feeds_eq
  rw [after_succ, after_succ, Bool.eq_iff_iff,
    (hrest.after l).step_halted_iff, (hrest'.after l).step_halted_iff,
    hfault, hl.program_eq, hnext.pc_eq]

/-! ### Recurrence -/

/-- A machine that is not halted was not halted before. -/
lemma awake_of_le (hn : (after n m).halted = false) (hkn : k ≤ n) :
    (after k m).halted = false := by
  rw [← Bool.not_eq_true] at hn ⊢
  intro hk
  apply hn
  obtain ⟨d, rfl⟩ := Nat.exists_eq_add_of_le hkn
  rw [after_add]
  refine after_preserves (P := fun m' => m'.halted = true) hk ?_ d
  intro m' hm'
  rw [step_halted, hm']
  rfl

/-- **A run that comes back to a scene before it halts never halts.** From
there on it repeats what it did since the first time. -/
lemma never_halts_of_recurrence (halign : m.Aligned)
    (hrest : m.HaltedAtRest) (hij : i < j)
    (hscene : (after i m).SameScene (after j m))
    (hawake : (after j m).halted = false) (n : Nat) :
    (after n m).halted = false := by
  have hprogram : (after i m).program = (after j m).program := by
    rw [after_program, after_program]
  have hstep := hscene.inStep hprogram (halign.after i) (halign.after j)
  induction n using Nat.strong_induction_on with
  | _ n ih =>
      rcases Nat.le_total n j with hle | hle
      · exact awake_of_le hawake hle
      · obtain ⟨k, rfl⟩ := Nat.exists_eq_add_of_le hle
        rcases Nat.eq_zero_or_pos k with rfl | hk
        · exact hawake
        · calc (after (j + k) m).halted
              = (after k (after j m)).halted := by rw [after_add]
            _ = (after k (after i m)).halted :=
                (hstep.halted_eq_of_pos (hrest.after i) (hrest.after j) hk).symm
            _ = (after (i + k) m).halted := by rw [after_add]
            _ = false := ih (i + k) (by omega)

/-! ### From the start -/

/-- **A scene determines the future.** Take two runs of one program, on any
inputs, that have come to the same program counter, pointer, tape and input
left. They go on alike: after any number of further steps they are in the
same scene again, with the same loops entered, the next step has the same
result, and the same was printed in between; from the first of these steps on
they are halted together. A single run that comes back to a scene, and is not
halted then, never halts. -/
theorem scene_determines_future (code u v : String) (i j : Nat)
    {m m' : Machine} (hm : after i (load code u) = m)
    (hm' : after j (load code v) = m') :
    (m.SameScene m' → ∀ k,
      (after k m).SameScene (after k m') ∧
        (after k m).loops = (after k m').loops ∧
        (after k m).step.1 = (after k m').step.1 ∧
        (∃ w, (after k m).output = m.output ++ w ∧
          (after k m').output = m'.output ++ w) ∧
        (0 < k → (after k m).halted = (after k m').halted)) ∧
      (i < j → m.SameScene (after j (load code u)) →
        (after j (load code u)).halted = false →
          ∀ n, (after n (load code u)).halted = false) := by
  subst hm hm'
  refine ⟨fun hscene k => ?_, fun hij hscene hawake n => ?_⟩
  · have hprogram : (after i (load code u)).program
        = (after j (load code v)).program := by
      rw [after_program, after_program]
      rfl
    have hstep := hscene.inStep hprogram (aligned_after code u i)
      (aligned_after code v j)
    have hk := hstep.after Console.feeds_eq k
    refine ⟨hk.sameScene, hk.loops_eq, (hk.step Console.feeds_eq).1,
      hstep.outputs_grow Console.feeds_eq k, fun hpos => ?_⟩
    exact hstep.halted_eq_of_pos ((haltedAtRest_load code u).after i)
      ((haltedAtRest_load code v).after j) hpos
  · exact never_halts_of_recurrence (aligned_load code u)
      (haltedAtRest_load code u) hij hscene hawake n

/-- The loop of `+[.]` prints without end: after two steps and after four the
scene is the same, though the outputs differ. -/
theorem scene_determines_future_loop :
    let m := load "+[.]" ""
    ((after 2 m).SameScene (after 4 m) ∧ (after 4 m).halted = false ∧
        (after 2 m).output ≠ (after 4 m).output) ∧
      (after 1 (after 2 m)).loops = (after 1 (after 4 m)).loops ∧
      ∀ n, (after n m).halted = false := by
  intro m
  -- neither the `.` nor the `]` of the loop touches the tape
  have hkeeps : ∀ m : Machine, (after 2 m).current? = some .output →
      (after 3 m).current? = some .loopClose →
        (after 2 m).store.tape = (after 4 m).store.tape := by
    intro m hprint hclose
    rw [after_succ 3, store_step, hclose, after_succ 2, store_step, hprint]
    rfl
  have hscene : (after 2 m).SameScene (after 4 m) :=
    ⟨by decide, by decide, hkeeps m (by decide) (by decide), by decide⟩
  have hawake : (after 4 m).halted = false := by decide
  obtain ⟨hfuture, hrecur⟩ :=
    scene_determines_future "+[.]" "" "" 2 4 rfl rfl
  exact ⟨⟨hscene, hawake, by decide⟩, (hfuture hscene 1).2.1,
    hrecur (by decide) hscene hawake⟩

end Machine

end TapeDebugger
