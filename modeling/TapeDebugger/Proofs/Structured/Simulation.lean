/-
A machine computes the meaning of the tree of its program.

* `Program.Continues`: how the data end if the blocks at some positions are
  run one after the other;
* `Machine.Ends`: how they end from a machine on, which has the block at the
  program counter to run, and then once more each loop that it has entered;
* `Machine.ends_step`: a step leaves that end as it is, and brings it nearer
  unless it only passes a comment or a marker;
* `Machine.exists_halted_of_ends`: a machine that has an end reaches it;
* `machine_computes_meaning`: on a balanced text the machine halts if and
  only if the tree of the text has a meaning, and then with just these data.

The loops entered and the program counter take the place of the recursion in
the meaning of the tree: when a block ends at the `]` of a loop, what lies
ahead is that loop from its `[` on.
-/
import Mathlib.Tactic
import TapeDebugger.Proofs.Machine.Faults
import TapeDebugger.Proofs.Structured.Meaning

namespace TapeDebugger

/-! ### What lies ahead at several positions -/

namespace Program

variable {p : Program} {pos pos' n : Nat} {outer : List Nat} {d d₁ d' : Data}

/-- The data `d` become `d'` when the blocks at the positions are run in
order, in `n` operations and tests altogether. -/
def Continues (p : Program) : List Nat → Nat → Data → Data → Prop
  | [], n, d, d' => n = 0 ∧ d = d'
  | pos :: outer, n, d, d' =>
      ∃ n₁ n₂ d₁, n = n₁ + n₂ ∧ (p.blockAt pos).RunsIn n₁ d d₁ ∧
        p.Continues outer n₂ d₁ d'

lemma continues_congr (h : p.blockAt pos = p.blockAt pos') :
    p.Continues (pos :: outer) n d d' ↔ p.Continues (pos' :: outer) n d d' := by
  rw [Continues, Continues, h]

/-- A block with nothing to do can be left out. -/
lemma continues_of_done (h : p.blockAt pos = .done) :
    p.Continues (pos :: outer) n d d' ↔ p.Continues outer n d d' := by
  rw [Continues, h]
  constructor
  · rintro ⟨n₁, n₂, d₁, rfl, hrun, hrest⟩
    obtain ⟨rfl, rfl⟩ := Block.runsIn_done_iff.mp hrun
    rwa [Nat.zero_add]
  · intro hrest
    exact ⟨0, n, d, (Nat.zero_add n).symm, .done d, hrest⟩

/-- If a block does one thing more than another, then so does all that lies
ahead. -/
lemma continues_of_runsIn
    (h : ∀ k d', (p.blockAt pos).RunsIn k d d' ↔
      ∃ l, k = l + 1 ∧ (p.blockAt pos').RunsIn l d₁ d') :
    p.Continues (pos :: outer) n d d' ↔
      ∃ k, n = k + 1 ∧ p.Continues (pos' :: outer) k d₁ d' := by
  rw [Continues]
  constructor
  · rintro ⟨n₁, n₂, d₂, rfl, hrun, hrest⟩
    obtain ⟨l, rfl, hrun'⟩ := (h n₁ d₂).mp hrun
    exact ⟨l + n₂, by omega, l, n₂, d₂, rfl, hrun', hrest⟩
  · rintro ⟨k, rfl, n₁, n₂, d₂, rfl, hrun, hrest⟩
    exact ⟨n₁ + 1, n₂, d₂, by omega, (h _ d₂).mpr ⟨n₁, rfl, hrun⟩, hrest⟩

lemma continues_of_operation {op : Operation}
    (h : p.blockAt pos = .operation op (p.blockAt pos')) :
    p.Continues (pos :: outer) n d d' ↔
      ∃ k, n = k + 1 ∧ p.Continues (pos' :: outer) k (d.perform op) d' := by
  refine continues_of_runsIn fun k d' => ?_
  rw [h, Block.runsIn_operation_iff]

/-- A loop on a zero cell: what follows it lies ahead. -/
lemma continues_of_loop_of_zero {inside : Nat} (hzero : d.current = 0)
    (h : p.blockAt pos = .loop (p.blockAt inside) (p.blockAt pos')) :
    p.Continues (pos :: outer) n d d' ↔
      ∃ k, n = k + 1 ∧ p.Continues (pos' :: outer) k d d' := by
  refine continues_of_runsIn fun k d' => ?_
  rw [h, Block.runsIn_loop_of_zero_iff hzero]

/-- A loop on any other cell: its body lies ahead, and then the loop. -/
lemma continues_of_loop_of_ne_zero {behind : Nat} (hcell : d.current ≠ 0)
    (h : p.blockAt pos = .loop (p.blockAt pos') (p.blockAt behind)) :
    p.Continues (pos :: outer) n d d' ↔
      ∃ k, n = k + 1 ∧ p.Continues (pos' :: pos :: outer) k d d' := by
  rw [Continues]
  constructor
  · rintro ⟨n₁, n₂, d₁, rfl, hrun, hrest⟩
    rw [h, Block.runsIn_loop_of_ne_zero_iff hcell] at hrun
    obtain ⟨k₁, k₂, d₂, rfl, hbody, hloop⟩ := hrun
    rw [← h] at hloop
    exact ⟨k₁ + (k₂ + n₂), by omega, k₁, k₂ + n₂, d₂, rfl, hbody,
      k₂, n₂, d₁, rfl, hloop, hrest⟩
  · rintro ⟨k, rfl, k₁, k₂, d₂, rfl, hbody, l₁, l₂, d₁, rfl, hloop, hrest⟩
    refine ⟨k₁ + l₁ + 1, l₂, d₁, by omega, ?_, hrest⟩
    rw [h] at hloop ⊢
    exact .again hcell hbody hloop

lemma blockAt_nextInstruction (pos : Nat) :
    p.blockAt (p.nextInstruction pos) = p.blockAt (pos + 1) :=
  apply_nextInstruction p.blockAt (fun pos hnone =>
    blockAt_of_silent (by rw [lexemeAt, hnone]; rfl)) pos

end Program

/-! ### What lies ahead of a machine -/

namespace Machine

variable {m : Machine} {n : Nat} {d : Data}

/-- From the machine on the data end as `d`, in `n` operations and tests: the
block at the program counter is run, and then, from the inside out, each loop
entered once more from its `[`. -/
def Ends (m : Machine) (n : Nat) (d : Data) : Prop :=
  m.program.Continues (m.pc :: m.loops) n m.store.data d

/-- The operations and tests that the next step makes. -/
def cost (m : Machine) : Nat :=
  if m.program.lexemeAt m.pc = .silent then 0 else 1

lemma cost_of_charAt? {c : Char} (h : m.program.charAt? m.pc = some c)
    (hc : Lexeme.ofChar c ≠ .silent) : m.cost = 1 := by
  rw [cost, Program.lexemeAt_of_charAt? h, if_neg hc]

/-- A bracket costs a test and leaves the store alone. -/
lemma cost_and_store_of_bracket
    (h : m.program.charAt? m.pc = some '[' ∨
      m.program.charAt? m.pc = some ']') :
    m.cost = 1 ∧ m.store.execute m.current? = m.store := by
  rcases h with hopen | hclose
  · have hcur : m.current? = some .loopOpen :=
      Program.instructionAt?_eq_some_iff.mpr hopen
    rw [hcur]
    exact ⟨cost_of_charAt? hopen (by decide), rfl⟩
  · have hcur : m.current? = some .loopClose :=
      Program.instructionAt?_eq_some_iff.mpr hclose
    rw [hcur]
    exact ⟨cost_of_charAt? hclose (by decide), rfl⟩

/-- At a `]` nothing is left of the body: the loop around it lies ahead, from
its `[` on. -/
lemma ends_of_close (hp : m.program.Structured)
    (h : m.program.charAt? m.pc = some ']') :
    m.Ends n d ↔ m.program.Continues m.loops n m.store.data d :=
  Program.continues_of_done (Program.blockAt_of_close hp h)

/-- A step without a bracket does the operation at hand, if there is one. -/
lemma ends_of_plain (hp : m.program.Structured)
    (h : m.program.charAt? m.pc ≠ some '[' ∧
      m.program.charAt? m.pc ≠ some ']') :
    m.Ends n d ↔ ∃ k, n = k + m.cost ∧
      m.program.Continues ((m.pc + 1) :: m.loops) k
        (m.store.execute m.current?).data d := by
  cases hlex : m.program.lexemeAt m.pc with
  | silent =>
      have hcost : m.cost = 0 := by rw [cost, if_pos hlex]
      rw [Ends, current?, Store.execute_of_silent hlex, hcost,
        Program.continues_congr (Program.blockAt_of_silent hlex).symm]
      simp
  | operation op =>
      have hcost : m.cost = 1 := by rw [cost, hlex]; rfl
      rw [Ends, current?, Store.execute_of_operation hlex, hcost, Store.data_apply,
        Program.continues_of_operation (Program.blockAt_of_operation hp hlex)]
  | opening =>
      exact absurd (Program.charAt?_of_lexemeAt (by rw [hlex]; rfl)) h.1
  | closing =>
      exact absurd (Program.charAt?_of_lexemeAt (by rw [hlex]; rfl)) h.2

/-- Where control stands, the end is that of the blocks behind it. The
brackets cost one test each, and they leave the data alone. -/
lemma ends_of_control (halign : m.Aligned) (hp : m.program.WellNested)
    {c : Control} (hc : m.control = .ok c) :
    m.Ends n d ↔ ∃ k, n = k + m.cost ∧
      m.program.Continues ((c.pc + 1) :: c.loops) k
        (m.store.execute m.current?).data d := by
  have hzero : m.store.data.current = 0 ↔ m.cell = 0 :=
    Store.data_current_eq_zero_iff
  have hdec := decision_control halign
  rw [hc] at hdec
  cases hdec with
  | plain hother => exact ends_of_plain hp.structured hother
  | enter hopen hcell =>
      obtain ⟨hcost, hstore⟩ := cost_and_store_of_bracket (.inl hopen)
      obtain ⟨close, hpartner⟩ := hp.partner_of_open _ hopen
      rw [hcost, hstore, Ends]
      exact Program.continues_of_loop_of_ne_zero (mt hzero.mp hcell)
        (Program.blockAt_of_partner hp.structured hpartner)
  | skip hcell hpartner =>
      obtain ⟨hcost, hstore⟩ := cost_and_store_of_bracket (.inl hpartner.open_lt.1)
      rw [hcost, hstore, Ends]
      exact Program.continues_of_loop_of_zero (hzero.mpr hcell)
        (Program.blockAt_of_partner hp.structured hpartner)
  | leave hclose hcell =>
      obtain ⟨hcost, hstore⟩ := cost_and_store_of_bracket (.inr hclose)
      obtain ⟨opened, hpartner⟩ := hp.partner_of_close _ hclose
      have hloops := halign.trans (Program.partner_iff.mp hpartner).2
      rw [hcost, hstore, ends_of_close hp.structured hclose, hloops]
      exact Program.continues_of_loop_of_zero (hzero.mpr hcell)
        (Program.blockAt_of_partner hp.structured hpartner)
  | again hcell hpartner =>
      have hclose := hpartner.1
      obtain ⟨hcost, hstore⟩ := cost_and_store_of_bracket (.inr hclose)
      have hloops := halign.trans (Program.partner_iff.mp hpartner).2
      rw [hcost, hstore, ends_of_close hp.structured hclose, hloops]
      exact Program.continues_of_loop_of_ne_zero (mt hzero.mp hcell)
        (Program.blockAt_of_partner hp.structured hpartner)

/-! ### Steps and runs -/

/-- The machine runs a program whose brackets all have partners, and the
loops that it has entered are those open before it. -/
structure OnCourse (m : Machine) : Prop where
  aligned : m.Aligned
  wellNested : m.program.WellNested

lemma onCourse_load {code : String} (h : imbalance? code = none)
    (input : String) : (load code input).OnCourse :=
  ⟨aligned_load code input, Program.wellNested_of_balanced h⟩

lemma OnCourse.step (h : m.OnCourse) : m.step.2.OnCourse :=
  ⟨h.aligned.step, by rw [step_program]; exact h.wellNested⟩

lemma OnCourse.after (h : m.OnCourse) (k : Nat) : (after k m).OnCourse :=
  after_preserves h (fun _ h => h.step) k

/-- On course, no step fails. -/
lemma OnCourse.exists_control (h : m.OnCourse) : ∃ c, m.control = .ok c := by
  have hok := h.aligned.step_of_matched h.wellNested.toMatched
  obtain ⟨c, hc, -⟩ | ⟨f, -, hstep⟩ := m.step_cases
  · exact ⟨c, hc⟩
  · rw [hstep] at hok
    exact absurd hok (by simp)

/-- **A step keeps the end**: the data end as before, with what the step has
cost taken off. -/
lemma ends_step (h : m.OnCourse) :
    m.Ends n d ↔ ∃ k, n = k + m.cost ∧ m.step.2.Ends k d := by
  obtain ⟨c, hc⟩ := h.exists_control
  have hnext : ∀ k, m.step.2.Ends k d ↔
      m.program.Continues ((c.pc + 1) :: c.loops) k
        (m.store.execute m.current?).data d := by
    intro k
    rw [step_of_control_ok hc]
    exact Program.continues_congr (Program.blockAt_nextInstruction c.pc)
  rw [ends_of_control h.aligned h.wellNested hc]
  simp only [hnext]

/-- A run keeps the end. -/
lemma exists_ends_after (h : m.OnCourse) (k : Nat) :
    (∃ n, m.Ends n d) ↔ ∃ n, (Machine.after k m).Ends n d := by
  induction k with
  | zero => rfl
  | succ k ih =>
      rw [ih, after_succ]
      constructor
      · rintro ⟨n, hn⟩
        obtain ⟨l, -, hl⟩ := (ends_step (h.after k)).mp hn
        exact ⟨l, hl⟩
      · rintro ⟨l, hl⟩
        exact ⟨l + _, (ends_step (h.after k)).mpr ⟨l, rfl, hl⟩⟩

/-- A step that costs nothing moves the program counter on. -/
lemma pc_lt_step_pc_of_cost_eq_zero (hcost : m.cost = 0)
    (hhalt : m.step.2.halted = false) : m.pc < m.step.2.pc := by
  have hsilent : m.program.lexemeAt m.pc = .silent := by
    by_contra hne
    rw [cost, if_neg hne] at hcost
    exact absurd hcost (by decide)
  have hplain : ∀ i, m.current? = some i → i.isLoop = false := by
    intro i hcur
    rw [Program.lexemeAt, ← current?, hcur] at hsilent
    cases i with
    | loopOpen => exact absurd hsilent (by decide)
    | loopClose => exact absurd hsilent (by decide)
    | _ => rfl
  rw [step_of_control_ok (control_of_not_loop hplain)] at hhalt ⊢
  simp only [advance, Bool.or_eq_false_iff, decide_eq_false_iff_not] at hhalt
  refine Program.lt_nextInstruction ?_
  by_contra hsize
  rw [Program.nextInstruction_of_size_le (by omega)] at hhalt
  exact hhalt.2 le_rfl

lemma step_pc_lt_size_of_not_halted (h : m.OnCourse)
    (hhalt : m.step.2.halted = false) : m.step.2.pc < m.program.size := by
  obtain ⟨c, hc⟩ := h.exists_control
  rw [step_of_control_ok hc] at hhalt ⊢
  simp only [advance, Bool.or_eq_false_iff, decide_eq_false_iff_not] at hhalt ⊢
  omega

/-- **A machine that has an end halts.** Each step that costs something
brings the end nearer, and between two of them the program counter only
moves on. -/
lemma exists_halted_of_ends (h : m.OnCourse) (hends : m.Ends n d) :
    ∃ k, (Machine.after k m).halted = true := by
  induction hμ : n * (m.program.size + 1) + (m.program.size - m.pc)
    using Nat.strong_induction_on generalizing m n with
  | _ μ ih =>
      by_cases hhalt : m.step.2.halted = true
      · exact ⟨1, hhalt⟩
      · rw [Bool.not_eq_true] at hhalt
        obtain ⟨l, hl, hnext⟩ := (ends_step h).mp hends
        have hpc := step_pc_lt_size_of_not_halted h hhalt
        have hless : l * (m.step.2.program.size + 1)
            + (m.step.2.program.size - m.step.2.pc) < μ := by
          rw [step_program, ← hμ, hl]
          by_cases hcost : m.cost = 0
          · have hon := pc_lt_step_pc_of_cost_eq_zero hcost hhalt
            simp only [hcost, Nat.add_zero]
            omega
          · have hone : m.cost = 1 := by
              rw [cost] at hcost ⊢
              split_ifs at hcost ⊢ <;> trivial
            rw [hone, Nat.add_mul, Nat.one_mul]
            omega
        obtain ⟨k, hk⟩ := ih _ hless h.step hnext rfl
        exact ⟨k + 1, hk⟩

/-! ### The start and the end of a run -/

/-- At the start the tree of the program lies ahead. -/
lemma ends_load_iff {code input : String} {tree : Block}
    (htree : outlook? code.toList = some ⟨tree, []⟩) :
    (load code input).Ends n d ↔ tree.RunsIn n (Data.ofInput input) d := by
  have hblock : (Program.ofString code).blockAt 0 = tree := by
    refine Program.blockAt_of_outlookAt? (o := ⟨tree, []⟩) ?_
    rw [Program.outlookAt?, Program.charsFrom_zero_ofString, htree]
  rw [Ends]
  simp only [load, Program.Continues, hblock, Store.data_ofInput]
  constructor
  · rintro ⟨n₁, n₂, d₁, rfl, hrun, rfl, rfl⟩
    exact hrun
  · intro hrun
    exact ⟨n, 0, d, rfl, hrun, rfl, rfl⟩

/-- Behind the program nothing lies ahead. -/
lemma exists_ends_iff_of_end (hpc : m.pc = m.program.size)
    (hloops : m.loops = []) : (∃ n, m.Ends n d) ↔ d = m.store.data := by
  have hends : ∀ n, m.Ends n d ↔ n = 0 ∧ m.store.data = d := by
    intro n
    rw [Ends, hloops,
      Program.continues_of_done (Program.blockAt_of_size_le hpc.ge)]
    rfl
  simp only [hends, exists_eq_left]
  exact eq_comm

/-- A run on a balanced text that halts has come to its end, with all loops
left. -/
lemma end_of_haltsAfter {code input : String} {k : Nat}
    (h : imbalance? code = none) (hk : (load code input).HaltsAfter k) :
    (Machine.after k (load code input)).pc = (Program.ofString code).size ∧
      (Machine.after k (load code input)).loops = [] := by
  have hpc : (Machine.after k (load code input)).pc
      = (Program.ofString code).size := by
    cases k with
    | zero => exact absurd hk.2 (by simp [load])
    | succ k =>
        have hcourse := (onCourse_load h input).after k
        have hhalt := hk.2
        rw [after_succ] at hhalt ⊢
        rw [pc_eq_size_of_step_halted (hk.1 k (Nat.lt_succ_self k))
          (hcourse.aligned.step_of_matched hcourse.wellNested.toMatched) hhalt,
          after_program]
        rfl
  refine ⟨hpc, ?_⟩
  rw [aligned_after code input k, hpc, after_program]
  exact (Program.imbalance?_eq_none_iff.mp h).2

end Machine

/-- **The machine computes the meaning of the tree**: a text that passes the
bracket check has a tree, which is the text without comments and markers. On
every input the machine halts if and only if that tree has a meaning. It then
has made no step that failed, its data are those of the meaning, it stands
behind the program, and it has left all loops. -/
theorem machine_computes_meaning (code : String)
    (h : imbalance? code = none) :
    ∃ tree, Block.parse? code = some tree ∧
      tree.chars = code.toList.filter Lexeme.isStructural ∧
      ∀ input,
        ((∃ k, (Machine.load code input).HaltsAfter k) ↔
          ∃ d, tree.Runs (Data.ofInput input) d) ∧
        ∀ k, (Machine.load code input).HaltsAfter k →
          (∀ j < k,
            (Machine.after j (Machine.load code input)).step.1 = none) ∧
          (∀ d, tree.Runs (Data.ofInput input) d ↔
            d = (Machine.after k (Machine.load code input)).store.data) ∧
          (Machine.after k (Machine.load code input)).pc
            = (Program.ofString code).size ∧
          (Machine.after k (Machine.load code input)).loops = [] := by
  obtain ⟨tree, houtlook, hparse, hchars⟩ := Block.parse?_of_balanced h
  refine ⟨tree, hparse, hchars, fun input => ?_⟩
  have hcourse := Machine.onCourse_load h input
  have hruns : ∀ d, tree.Runs (Data.ofInput input) d ↔
      ∃ n, (Machine.load code input).Ends n d := by
    intro d
    simp only [Block.runs_iff_exists_runsIn, Machine.ends_load_iff houtlook]
  -- a halted machine tells what the tree means
  have hmeaning : ∀ k, (Machine.load code input).HaltsAfter k →
      ∀ d, tree.Runs (Data.ofInput input) d ↔
        d = (Machine.after k (Machine.load code input)).store.data := by
    intro k hk d
    obtain ⟨hpc, hloops⟩ := Machine.end_of_haltsAfter h hk
    rw [hruns, Machine.exists_ends_after hcourse k]
    refine Machine.exists_ends_iff_of_end ?_ hloops
    rw [hpc, Machine.after_program]
    rfl
  refine ⟨⟨fun ⟨k, hk⟩ => ?_, fun ⟨d, hd⟩ => ?_⟩, fun k hk => ?_⟩
  · exact ⟨_, (hmeaning k hk _).mpr rfl⟩
  · obtain ⟨n, hn⟩ := (hruns d).mp hd
    obtain ⟨k, hk⟩ := Machine.exists_halted_of_ends hcourse hn
    exact Machine.exists_haltsAfter hk
  · refine ⟨fun j _ => ?_, hmeaning k hk, Machine.end_of_haltsAfter h hk⟩
    have hj := hcourse.after j
    exact hj.aligned.step_of_matched hj.wellNested.toMatched

/-- The machine for `++[-]x` halts after seven steps, so its tree has a
meaning. -/
theorem machine_computes_meaning_drain :
    imbalance? "++[-]x" = none ∧ (Machine.load "++[-]x" "").HaltsAfter 7 ∧
      ∃ tree, Block.parse? "++[-]x" = some tree ∧
        ∃ d, tree.Runs (Data.ofInput "") d := by
  have hhalts : (Machine.load "++[-]x" "").HaltsAfter 7 :=
    ⟨by decide, by decide⟩
  obtain ⟨tree, hparse, -, hall⟩ :=
    machine_computes_meaning "++[-]x" (by decide)
  exact ⟨by decide, hhalts, tree, hparse, (hall "").1.mp ⟨7, hhalts⟩⟩

end TapeDebugger
