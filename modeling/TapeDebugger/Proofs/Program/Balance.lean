/-
What the bracket check finds, told by the brackets that are open:

* `Program.Stray`: a `]` that finds no open bracket;
* `Program.Verdict` and `Program.verdict_imbalance?`: the check reports the
  first stray `]`, or else whether a bracket is open at the end;
* `Program.imbalance?_of_stray`: with a stray `]` in the text, the check
  reports one that does not stand behind it;
* `Program.matched_of_balanced`: in a text that passes the check every
  bracket has its partner.

The check only counts how many brackets are open; the proofs follow which
ones they are.
-/
import Mathlib.Tactic
import TapeDebugger.Program.Balance
import TapeDebugger.Proofs.Program.Brackets

namespace TapeDebugger

lemma imbalanceFrom_cons_of_not_bracket {depth pos : Nat} {c : Char}
    {rest : List Char} (hopen : c ≠ '[') (hclose : c ≠ ']') :
    imbalanceFrom depth pos (c :: rest)
      = imbalanceFrom depth (pos + 1) rest := by
  rw [imbalanceFrom]
  · exact hopen
  · exact hclose

namespace Program

variable {p : Program}

/-- A `]` that finds no open bracket when the text is read from left to
right. -/
def Stray (p : Program) (j : Nat) : Prop :=
  p.charAt? j = some ']' ∧ p.openBefore j = []

lemma not_stray_iff_partner {j : Nat} (hj : p.charAt? j = some ']') :
    ¬ p.Stray j ↔ ∃ i, p.Partner i j := by
  rw [Stray, not_and]
  constructor
  · intro h
    obtain ⟨i, outer, hi⟩ := List.exists_cons_of_ne_nil (h hj)
    exact ⟨i, hj, by rw [hi]; rfl⟩
  · rintro ⟨i, -, hi⟩ _ hnil
    rw [hnil] at hi
    exact absurd hi (by simp)

/-- What there is to report about the text from a position on: its first stray
`]`, or, if there is none, whether a bracket is open at the end. -/
def Verdict (p : Program) (pos : Nat) (report : Option Imbalance) : Prop :=
  (∃ i, report = some ⟨i, .unexpectedClose⟩ ∧
      pos ≤ i ∧ p.Stray i ∧ ∀ j, pos ≤ j → j < i → ¬ p.Stray j) ∨
    (∀ j, pos ≤ j → ¬ p.Stray j) ∧
      report = if p.openBefore p.size = [] then none
        else some ⟨p.size - 1, .unclosed⟩

/-- A character that is no stray `]` does not change the verdict. -/
lemma Verdict.of_succ {pos : Nat} {report : Option Imbalance}
    (h : p.Verdict (pos + 1) report) (hpos : ¬ p.Stray pos) :
    p.Verdict pos report := by
  have hextend {j : Nat} (hj : pos ≤ j)
      (hnot : pos + 1 ≤ j → ¬ p.Stray j) : ¬ p.Stray j := by
    rcases Nat.eq_or_lt_of_le hj with rfl | hlt
    · exact hpos
    · exact hnot hlt
  obtain ⟨i, hi, hle, hstray, hfirst⟩ | ⟨hnone, hend⟩ := h
  · refine Or.inl ⟨i, hi, by omega, hstray, fun j hj hji => ?_⟩
    exact hextend hj fun hj => hfirst j hj hji
  · exact Or.inr ⟨fun j hj => hextend hj (hnone j), hend⟩

/-- The check, begun at a position with the number of brackets open there,
gives the verdict on the text from that position on. -/
lemma verdict_imbalanceFrom (p : Program) {pos : Nat} (hpos : pos ≤ p.size) :
    p.Verdict pos
      (imbalanceFrom (p.openBefore pos).length pos (p.charsFrom pos)) := by
  generalize hrest : p.charsFrom pos = rest
  induction rest generalizing pos with
  | nil =>
      have hsize := charsFrom_eq_nil hrest
      refine Or.inr ⟨fun j hj hstray => ?_, ?_⟩
      · have := lt_size_of_charAt? hstray.1
        omega
      · rw [show pos = p.size by omega]
        simp only [imbalanceFrom, List.length_eq_zero_iff]
  | cons c rest ih =>
      obtain ⟨hc, hrest'⟩ := charsFrom_eq_cons hrest
      have hnext := ih (lt_size_of_charAt? hc) hrest'
      rcases bracket_cases (p.charAt? pos) with hopen | hclose | hother
      · obtain rfl : c = '[' := Option.some.inj (hc.symm.trans hopen)
        rw [openBefore_succ_of_open hopen] at hnext
        exact hnext.of_succ fun h =>
          absurd (hopen.symm.trans h.1) (by decide)
      · obtain rfl : c = ']' := Option.some.inj (hc.symm.trans hclose)
        rw [openBefore_succ_of_close hclose] at hnext
        cases hstack : p.openBefore pos with
        | nil =>
            refine Or.inl ⟨pos, rfl, le_rfl, ⟨hclose, hstack⟩, ?_⟩
            intro j hj hji
            omega
        | cons top outer =>
            rw [hstack] at hnext
            refine hnext.of_succ fun h => ?_
            rw [h.2] at hstack
            exact absurd hstack (by simp)
      · have hne : c ≠ '[' ∧ c ≠ ']' := by
          rw [hc] at hother
          exact ⟨fun h => hother.1 (by rw [h]), fun h => hother.2 (by rw [h])⟩
        rw [openBefore_succ_of_not_bracket hother] at hnext
        rw [imbalanceFrom_cons_of_not_bracket hne.1 hne.2]
        exact hnext.of_succ fun h => hother.2 h.1

/-- The check gives the verdict on the whole text. -/
lemma verdict_imbalance? (text : String) :
    (ofString text).Verdict 0 (imbalance? text) := by
  have h := (ofString text).verdict_imbalanceFrom (Nat.zero_le _)
  rwa [charsFrom_zero_ofString] at h

/-- A stray `]` makes the check report it or a stray `]` before it. -/
lemma imbalance?_of_stray {text : String} {j : Nat}
    (hj : (ofString text).Stray j) :
    ∃ i ≤ j, imbalance? text = some ⟨i, .unexpectedClose⟩ := by
  obtain ⟨i, hi, -, -, hfirst⟩ | ⟨hnone, -⟩ := verdict_imbalance? text
  · refine ⟨i, ?_, hi⟩
    by_contra hlt
    exact hfirst j (Nat.zero_le j) (by omega) hj
  · exact absurd hj (hnone j (Nat.zero_le j))

/-- A text passes the check if it has no stray `]` and no bracket is open at
its end. -/
lemma imbalance?_eq_none_iff {text : String} :
    imbalance? text = none ↔
      (∀ j, ¬ (ofString text).Stray j) ∧
        (ofString text).openBefore (ofString text).size = [] := by
  obtain ⟨i, hi, -, hstray, -⟩ | ⟨hnone, hend⟩ := verdict_imbalance? text
  · rw [hi]
    simp only [reduceCtorEq, false_iff]
    exact fun h => h.1 i hstray
  · rw [hend]
    by_cases hopen : (ofString text).openBefore (ofString text).size = []
    · simp [hopen, hnone]
    · simp [hopen]

/-- Every bracket has its partner. -/
structure Matched (p : Program) : Prop where
  partner_of_open : ∀ i, p.charAt? i = some '[' → ∃ j, p.Partner i j
  partner_of_close : ∀ j, p.charAt? j = some ']' → ∃ i, p.Partner i j

/-- **Partners of a balanced text**: every bracket of a text that passes the
check has its partner. -/
theorem matched_of_balanced {text : String} (h : imbalance? text = none) :
    (ofString text).Matched := by
  obtain ⟨hstray, hend⟩ := imbalance?_eq_none_iff.mp h
  refine ⟨fun i hi => ?_, fun j hj => ?_⟩
  · by_contra hnone
    rw [not_exists] at hnone
    have hmem := mem_openBefore_of_no_partner (lt_size_of_charAt? hi) hi hnone
    rw [hend] at hmem
    exact absurd hmem (by simp)
  · exact (not_stray_iff_partner hj).mp (hstray j)

end Program

end TapeDebugger
