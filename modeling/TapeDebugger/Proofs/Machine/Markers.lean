/-
Breakpoint markers do not change what a program computes.

* `Instruction.acts`: a character stands for an instruction other than a
  marker;
* `Machine.Idle`: the machine stands at a comment, at a marker or behind its
  program;
* `Machine.Renumbers.step_of_idle` and `Machine.Renumbers.step_of_acts`: a
  machine that has only the acting characters waits while one with the whole
  text is idle, and makes all its other steps with it;
* `Machine.Renumbers.exists_poised`: it does not wait for ever;
* `Machine.exists_rests_of_same_acting`: two texts with the same acting
  characters come to rest together, with the same data;
* `Machine.markers_are_transparent`: a text and the text without its markers
  are two such texts.

A marker costs a step of its own, so the two runs do not go in lockstep. Both
are compared with the run of the acting characters alone. There nothing is
idle, and the rank of a position does not change over an idle step.
-/
import Mathlib.Tactic
import TapeDebugger.Proofs.Machine.Safety

namespace TapeDebugger

/-! ### Acting characters and markers -/

/-- Whether a character is no marker. -/
def Instruction.unmarked (c : Char) : Bool :=
  c != Instruction.marker

/-- Whether a character stands for an instruction other than a marker. -/
def Instruction.acts (c : Char) : Bool :=
  Instruction.recognised c && Instruction.unmarked c

open Instruction (acts unmarked recognised marker)

/-- A text without its markers. -/
def withoutMarkers (code : String) : String :=
  String.ofList (code.toList.filter unmarked)

/-- The acting characters of a text. -/
def actingText (code : String) : String :=
  String.ofList (code.toList.filter acts)

/-- The number of markers before a position of a text. -/
def markersBefore (code : String) (pos : Nat) : Nat :=
  (code.toList.take pos).count marker

/-- The fault at its place in the text without markers. -/
def Fault.unmark (code : String) (f : Fault) : Fault :=
  f.renumber fun pos => pos - markersBefore code pos

lemma Instruction.recognised_of_acts {c : Char} (h : acts c = true) :
    recognised c = true :=
  (Bool.and_eq_true _ _ ▸ h).1

lemma Instruction.unmarked_of_acts {c : Char} (h : acts c = true) :
    unmarked c = true :=
  (Bool.and_eq_true _ _ ▸ h).2

lemma actingText_withoutMarkers (code : String) :
    actingText (withoutMarkers code) = actingText code := by
  rw [actingText, withoutMarkers, String.toList_ofList, List.filter_filter,
    actingText]
  congr 2
  funext c
  cases h : acts c with
  | false => rfl
  | true => rw [Instruction.unmarked_of_acts h]; rfl

/-- The markers before a position are those characters before it that do not
count when markers are left out. -/
lemma rank_unmarked {code : String} {pos : Nat}
    (h : pos ≤ (Program.ofString code).size) :
    (Program.ofString code).rank unmarked pos
      = pos - markersBefore code pos := by
  have hsplit := List.length_eq_countP_add_countP unmarked
    (l := code.toList.take pos)
  have hmarkers : (code.toList.take pos).countP (fun c => ¬ unmarked c)
      = markersBefore code pos := by
    rw [markersBefore, List.count]
    refine List.countP_congr fun c _ => ?_
    simp [unmarked]
  have hlength : (code.toList.take pos).length = pos := by
    rw [List.length_take, min_eq_left]
    simpa [Program.ofString, Program.size] using h
  have hrank : (Program.ofString code).rank unmarked pos
      = (code.toList.take pos).countP unmarked := by
    simp [Program.rank, Program.ofString]
  omega

namespace Machine

variable {m b : Machine} {n k l : Nat} {f? g? : Option Fault}

/-! ### Idle steps -/

/-- No acting character stands at the program counter. -/
def Idle (m : Machine) : Prop :=
  ∀ c, m.program.charAt? m.pc = some c → acts c = false

lemma exists_acts_of_not_idle (h : ¬ m.Idle) :
    ∃ c, m.program.charAt? m.pc = some c ∧ acts c = true := by
  simpa [Idle] using h

/-- There is a marker then, a comment or nothing. -/
lemma Idle.current? (h : m.Idle) :
    m.current? = none ∨ m.current? = some .breakpoint := by
  cases hcur : m.current? with
  | none => exact Or.inl rfl
  | some i =>
      have hc := Program.instructionAt?_eq_some_iff.mp hcur
      have hidle := h i.toChar hc
      cases i with
      | breakpoint => exact Or.inr rfl
      | _ => exact absurd hidle (by decide)

/-! ### With and without idle steps -/

/-- At an acting character the two machines have the same instruction. -/
lemma Renumbers.current?_eq (h : b.Renumbers acts m) (hact : ¬ m.Idle) :
    b.current? = m.current? := by
  obtain ⟨c, hc, hacts⟩ := exists_acts_of_not_idle hact
  rw [current?, current?, h.program_eq, h.pc_eq, Program.instructionAt?,
    Program.instructionAt?, Program.charAt?_select hc hacts, hc]

/-- While a machine is idle, the other one waits: there are no acting
characters that were passed. -/
lemma Renumbers.step_of_idle (h : b.Renumbers acts m) (hidle : m.Idle) :
    b.Renumbers acts m.step.2 := by
  have hrank : m.program.rank acts (m.program.nextInstruction m.pc)
      = m.program.rank acts m.pc := by
    rw [Program.rank_nextInstruction_eq fun _ =>
      Instruction.recognised_of_acts]
    exact Program.rank_succ_of_not_keep hidle
  rw [step_of_silent hidle.current?]
  exact ⟨h.program_eq, h.store_eq, h.pc_eq.trans hrank.symm, h.loops_eq⟩

/-- From an acting character control goes to an acting one: it stays, or it
jumps to a bracket. -/
lemma exists_acts_of_control (halign : m.Aligned) (hact : ¬ m.Idle)
    {c : Control} (hc : m.control = .ok c) :
    ∃ d, m.program.charAt? c.pc = some d ∧ acts d = true := by
  rcases halign.pc_of_control hc with hstay | hopen | hclose
  · rw [hstay]
    exact exists_acts_of_not_idle hact
  · exact ⟨'[', hopen, rfl⟩
  · exact ⟨']', hclose, rfl⟩

/-- **All other steps are made together**, and fail together. -/
lemma Renumbers.step_of_acts (h : b.Renumbers acts m) (halign : m.Aligned)
    (hact : ¬ m.Idle) :
    b.step.1 = m.step.1.map (Fault.renumber (m.program.rank acts)) ∧
      b.step.2.Renumbers acts m.step.2 := by
  refine h.step rfl rfl (h.current?_eq hact) fun c hc => ?_
  obtain ⟨d, hd, hacts⟩ := exists_acts_of_control halign hact hc
  rw [h.program_eq]
  exact (Program.rank_nextInstruction
    (fun _ => Instruction.recognised_of_acts) hd hacts).symm

/-- A run of the whole text passes only through machines to which one of the
acting characters corresponds. -/
lemma Renumbers.exists_after (h : b.Renumbers acts m) (halign : m.Aligned)
    (n : Nat) : ∃ l, (after l b).Renumbers acts (after n m) := by
  induction n with
  | zero => exact ⟨0, h⟩
  | succ n ih =>
      obtain ⟨l, hl⟩ := ih
      rw [after_succ]
      by_cases hidle : (after n m).Idle
      · exact ⟨l, hl.step_of_idle hidle⟩
      · refine ⟨l + 1, ?_⟩
        rw [after_succ]
        exact (hl.step_of_acts (halign.after n) hidle).2

/-- **A machine does not idle for ever**: after some steps it is at an acting
character or behind its program, and the other machine has waited for it. -/
lemma Renumbers.exists_poised (h : b.Renumbers acts m) (hm : m.Driven n) :
    ∃ k, b.Renumbers acts (after k m) ∧
      (¬ (after k m).Idle ∨ (after k m).Rests none) := by
  induction hμ : m.program.size - m.pc using Nat.strong_induction_on
    generalizing m n with
  | _ μ ih =>
      by_cases hidle : m.Idle
      · rcases Nat.lt_or_eq_of_le hm.pc_le_size with hlt | hend
        · -- each idle step brings the end of the text nearer
          have hpc : m.step.2.pc = m.program.nextInstruction m.pc := by
            rw [step_of_silent hidle.current?]
          have hon := Program.lt_nextInstruction hlt
          have hless : m.step.2.program.size - m.step.2.pc < μ := by
            rw [step_program, hpc]
            omega
          obtain ⟨k, hk⟩ :=
            ih _ hless (h.step_of_idle hidle) hm.stepped rfl
          exact ⟨k + 1, hk⟩
        · exact ⟨0, h, Or.inr hend⟩
      · exact ⟨0, h, Or.inl hidle⟩

/-! ### Where the two come to rest -/

/-- If a machine comes to rest, so does the other one. -/
lemma Renumbers.rests (h : b.Renumbers acts m) (hrest : m.Rests f?) :
    b.Rests (f?.map (Fault.renumber (m.program.rank acts))) := by
  cases f? with
  | none =>
      have hend : m.pc = m.program.size := hrest
      show b.pc = b.program.size
      rw [h.pc_eq, h.program_eq, hend, Program.size_select]
  | some f =>
      have hfault : m.control = .error f := hrest
      have hact : ¬ m.Idle := by
        intro hidle
        rw [control_of_silent hidle.current?] at hfault
        exact absurd hfault (by simp)
      have hcontrol := h.control rfl rfl (h.current?_eq hact)
      rw [hfault] at hcontrol
      exact hcontrol

/-- The other way round, a machine that is not idle rests where the one of
the acting characters does. -/
lemma Renumbers.exists_rests (h : b.Renumbers acts m)
    (hpoised : ¬ m.Idle ∨ m.Rests none) (hrest : b.Rests g?) :
    ∃ f?, m.Rests f? ∧
      f?.map (Fault.renumber (m.program.rank acts)) = g? := by
  rcases hpoised with hact | hend
  · cases g? with
    | none =>
        -- behind the acting characters there is none to stand at
        obtain ⟨c, hc, hacts⟩ := exists_acts_of_not_idle hact
        have hlt := Program.lt_size_of_charAt? (Program.charAt?_select hc hacts)
        rw [← h.program_eq, ← h.pc_eq] at hlt
        exact absurd hrest hlt.ne
    | some g =>
        have hcontrol := h.control rfl rfl (h.current?_eq hact)
        have hfault : b.control = .error g := hrest
        cases hm : m.control with
        | ok c =>
            rw [hm, hfault] at hcontrol
            exact absurd hcontrol (by simp)
        | error f =>
            rw [hm, hfault] at hcontrol
            exact ⟨some f, hm, congrArg some (Except.error.inj hcontrol).symm⟩
  · exact ⟨none, hend, (h.rests hend).unique hrest⟩

/-- A run of the acting characters passes only through machines to which one
of the whole text corresponds, and that one is not idle. -/
lemma Renumbers.exists_after_poised (h : b.Renumbers acts m)
    (hm : m.Driven n) (l : Nat) :
    ∃ k, (after l b).Renumbers acts (after k m) ∧
      (¬ (after k m).Idle ∨ (after k m).Rests none) := by
  induction l with
  | zero => exact h.exists_poised hm
  | succ l ih =>
      obtain ⟨k, hk, hpoised⟩ := ih
      rw [after_succ]
      rcases hpoised with hact | hend
      · obtain ⟨d, hd⟩ := (hk.step_of_acts (hm.after k).aligned hact).2.exists_poised
          (hm.after k).stepped
        refine ⟨k + 1 + d, ?_⟩
        rw [after_add, after_succ]
        exact hd
      · -- at its end the machine of the acting characters stays
        rw [(hk.rests hend).step_eq]
        exact ⟨k, ⟨hk.program_eq, hk.store_eq, hk.pc_eq, hk.loops_eq⟩,
          Or.inr hend⟩

lemma renumbers_load (code input : String) :
    (load (actingText code) input).Renumbers acts (load code input) :=
  ⟨Program.ofString_select acts code, rfl, rfl, rfl⟩

/-- **The acting characters of a text decide how its run ends**: another text
with the same ones comes to rest with the same data, and with a fault at the
corresponding place, if there is one. -/
lemma exists_rests_of_same_acting {code code' : String} (input : String)
    (hacting : actingText code = actingText code')
    (hn : (after n (load code input)).Rests f?) :
    ∃ k g?, (after k (load code' input)).Rests g? ∧
      g?.map (Fault.renumber ((Program.ofString code').rank acts))
        = f?.map (Fault.renumber ((Program.ofString code).rank acts)) ∧
      (after k (load code' input)).store
        = (after n (load code input)).store := by
  obtain ⟨l, hl⟩ := (renumbers_load code input).exists_after
    (aligned_load code input) n
  have hrest := hl.rests hn
  have hother := renumbers_load code' input
  rw [← hacting] at hother
  obtain ⟨k, hk, hpoised⟩ :=
    hother.exists_after_poised (.loaded code' input) l
  obtain ⟨g?, hg, hmap⟩ := hk.exists_rests hpoised hrest
  rw [after_program, after_program] at hmap
  exact ⟨k, g?, hg, hmap, hk.store_eq.symm.trans hl.store_eq⟩

variable {code code' input : String}

/-- A run that ends shows that of another text with the same acting
characters to end, and with a fault if it has one itself. -/
lemma EndsWith.of_same_acting (hacting : actingText code = actingText code')
    (h : (load code input).EndsWith f?) :
    ∃ g?, (load code' input).EndsWith g? ∧ g?.isSome = f?.isSome := by
  obtain ⟨n, hn⟩ := (endsWith_iff_rests rfl).mp h
  obtain ⟨k, g?, hk, hmap, -⟩ := exists_rests_of_same_acting input hacting hn
  refine ⟨g?, (endsWith_iff_rests rfl).mpr ⟨k, hk⟩, ?_⟩
  simpa using congrArg Option.isSome hmap

lemma finishes_of_same_acting (hacting : actingText code = actingText code')
    (h : (load code input).EndsWith none) :
    (load code' input).EndsWith none := by
  obtain ⟨g?, hg, hnone⟩ := h.of_same_acting hacting
  obtain rfl : g? = none := Option.isNone_iff_eq_none.mp (by simpa using hnone)
  exact hg

lemma fails_of_same_acting (hacting : actingText code = actingText code')
    (h : ∃ f, (load code input).EndsWith (some f)) :
    ∃ g, (load code' input).EndsWith (some g) := by
  obtain ⟨f, hf⟩ := h
  obtain ⟨g?, hg, hsome⟩ := hf.of_same_acting hacting
  obtain ⟨g, rfl⟩ := Option.isSome_iff_exists.mp hsome
  exact ⟨g, hg⟩

/-! ### Texts without markers -/

/-- A fault tells an acting character. -/
lemma Rests.exists_acts {f : Fault} (h : m.Rests (some f)) :
    ∃ c, m.program.charAt? f.pc = some c ∧ acts c = true := by
  obtain ⟨hpc, hchar⟩ := standsAt_of_control h
  refine ⟨f.kind.bracket, hpc ▸ hchar, ?_⟩
  cases f.kind <;> rfl

/-- The fault of a run moves by the markers before it: what fails in the text
without them is the same bracket, and brackets are acting characters, so that
the numbers of acting characters before it tell where it stands. -/
lemma Rests.unmark {code : String} {f g : Fault}
    (hprogram : m.program = Program.ofString code)
    (hprogram' : b.program = Program.ofString (withoutMarkers code))
    (hf : m.Rests (some f)) (hg : b.Rests (some g))
    (h : g.renumber ((Program.ofString (withoutMarkers code)).rank acts)
      = f.renumber ((Program.ofString code).rank acts)) :
    g = f.unmark code := by
  obtain ⟨c, hc, hacts⟩ := hf.exists_acts
  obtain ⟨d, hd, hacts'⟩ := hg.exists_acts
  have hselect : Program.ofString (withoutMarkers code)
      = (Program.ofString code).select unmarked :=
    Program.ofString_select unmarked code
  rw [hprogram] at hc
  rw [hprogram', hselect] at hd
  have hthere := Program.charAt?_select hc (Instruction.unmarked_of_acts hacts)
  have hrank : ((Program.ofString code).select unmarked).rank acts g.pc
      = ((Program.ofString code).select unmarked).rank acts
          ((Program.ofString code).rank unmarked f.pc) := by
    rw [Program.rank_select fun _ => Instruction.unmarked_of_acts, ← hselect]
    exact congrArg Fault.pc h
  have hpc := Program.eq_of_rank_eq hd hacts' hthere hacts hrank
  rw [rank_unmarked (Program.lt_size_of_charAt? hc).le] at hpc
  obtain ⟨pc, kind⟩ := g
  obtain ⟨-, rfl⟩ := Fault.mk.inj h
  rw [Fault.unmark, Fault.renumber, ← hpc]

/-- Where the runs of a text and of the text without markers come to rest,
they have the same data and the same fault, up to its place. -/
lemma Rests.agree_unmarked {code input : String}
    (hk : (Machine.after k (load code input)).Rests f?)
    (hl : (Machine.after l (load (withoutMarkers code) input)).Rests g?) :
    (Machine.after l (load (withoutMarkers code) input)).store
        = (Machine.after k (load code input)).store ∧
      g? = f?.map (Fault.unmark code) := by
  obtain ⟨l', g'?, hl', hmap, hstore⟩ :=
    exists_rests_of_same_acting input (actingText_withoutMarkers code).symm hk
  obtain ⟨rfl, hsame⟩ := hl.agree hl'
  refine ⟨hsame.trans hstore, ?_⟩
  cases f? with
  | none => simpa using hmap
  | some f =>
      obtain ⟨g, rfl, hg⟩ := Option.map_eq_some_iff.mp hmap
      have hf := hk.unmark (after_program _ _) (after_program _ _) hl hg
      rw [hf]
      rfl

/-- **Breakpoint markers do not change what a program computes.** A text and
the text without its markers finish together and fail together. Where both
have ended they have the same data. A fault is of the same kind in both, and
its place in the text without markers is its place in the whole text less the
number of markers before it. -/
theorem markers_are_transparent (code input : String) {m b : Machine}
    (hm : load code input = m) (hb : load (withoutMarkers code) input = b) :
    (m.EndsWith none ↔ b.EndsWith none) ∧
      ((∃ f, m.EndsWith (some f)) ↔ ∃ g, b.EndsWith (some g)) ∧
      ∀ k l, m.HaltsAfter k → b.HaltsAfter l →
        (after l b).store = (after k m).store ∧
          b.faultOf l = (m.faultOf k).map (Fault.unmark code) := by
  subst hm hb
  have hacting := actingText_withoutMarkers code
  refine ⟨⟨finishes_of_same_acting hacting.symm,
      finishes_of_same_acting hacting⟩,
    ⟨fails_of_same_acting hacting.symm, fails_of_same_acting hacting⟩, ?_⟩
  intro k l hk hl
  exact (rests_of_haltsAfter rfl hk).agree_unmarked
    (rests_of_haltsAfter rfl hl)

/-- The markers of `+[*-*]*+]` cost three steps, two of them in the loop, and
move the fault of the last bracket by three places. -/
theorem markers_are_transparent_fault :
    let code := "+[*-*]*+]"
    let m := load code ""
    let b := load (withoutMarkers code) ""
    (m.HaltsAfter 9 ∧ b.HaltsAfter 6) ∧
      m.faultOf 9 = some ⟨8, .unmatchedClose⟩ ∧
      b.faultOf 6 = some ⟨5, .unmatchedClose⟩ ∧
      (after 6 b).store = (after 9 m).store := by
  intro code m b
  have hm : m.HaltsAfter 9 := ⟨by decide, by decide⟩
  have hb : b.HaltsAfter 6 := ⟨by decide, by decide⟩
  have hfault : m.faultOf 9 = some ⟨8, .unmatchedClose⟩ := by decide
  obtain ⟨-, -, hend⟩ :=
    markers_are_transparent code "" (m := m) (b := b) rfl rfl
  obtain ⟨hstore, hmoved⟩ := hend 9 6 hm hb
  exact ⟨⟨hm, hb⟩, hfault, hmoved.trans (by rw [hfault]; decide), hstore⟩

end Machine

end TapeDebugger
