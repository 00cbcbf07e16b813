/-
Which brackets of a program text belong together:

* `Program.openBefore`: the positions of the `[` still open when the
  characters before a position have been read from left to right;
* `Program.Partner`: the `[` that is innermost when the reading comes to a
  `]`, and that `]`;
* `Program.closing?_eq_some_iff`: the forward scan from a `[` finds exactly
  its partner;
* `Program.apply_nextInstruction`: what does not change at a comment does not
  change on the way to the next instruction;
* `Program.charsFrom`: the characters from a position on.

The reading is defined for every text. A `]` that finds no open bracket is
ignored, and a `[` that is never closed stays open to the end.
-/
import Mathlib.Tactic
import TapeDebugger.Program.Basic

namespace TapeDebugger

lemma Instruction.ofChar?_eq_some_iff {c : Char} {i : Instruction} :
    ofChar? c = some i ↔ c = i.toChar := by
  constructor
  · intro h
    exact (toChar_of_ofChar? h).symm
  · rintro rfl
    exact ofChar?_toChar i

namespace Program

variable {p : Program}

/-! ### Characters and instructions -/

/-- An instruction stands where its character stands. -/
lemma instructionAt?_eq_some_iff {pos : Nat} {i : Instruction} :
    p.instructionAt? pos = some i ↔ p.charAt? pos = some i.toChar := by
  rw [instructionAt?, Option.bind_eq_some_iff]
  simp only [Instruction.ofChar?_eq_some_iff, exists_eq_right]

lemma charAt?_eq_none_iff {pos : Nat} :
    p.charAt? pos = none ↔ p.size ≤ pos :=
  Array.getElem?_eq_none_iff

lemma lt_size_of_charAt? {pos : Nat} {c : Char}
    (h : p.charAt? pos = some c) : pos < p.size := by
  by_contra hge
  rw [charAt?_eq_none_iff.mpr (by omega)] at h
  exact absurd h (by simp)

lemma exists_charAt? {pos : Nat} (h : pos < p.size) :
    ∃ c, p.charAt? pos = some c := by
  rw [← Option.ne_none_iff_exists', ne_eq, charAt?_eq_none_iff]
  omega

/-- At a character there is one more to look at than behind it. -/
lemma size_sub_of_charAt? {pos : Nat} {c : Char}
    (h : p.charAt? pos = some c) :
    p.size - pos = p.size - (pos + 1) + 1 := by
  have := lt_size_of_charAt? h
  omega

lemma instructionAt?_eq_none_of_size_le {pos : Nat} (h : p.size ≤ pos) :
    p.instructionAt? pos = none := by
  rw [instructionAt?, charAt?_eq_none_iff.mpr h]
  rfl

/-- A character is an opening bracket, a closing one, or none. -/
lemma bracket_cases (c : Option Char) :
    c = some '[' ∨ c = some ']' ∨ c ≠ some '[' ∧ c ≠ some ']' := by
  by_cases hopen : c = some '['
  · exact Or.inl hopen
  · by_cases hclose : c = some ']'
    · exact Or.inr (Or.inl hclose)
    · exact Or.inr (Or.inr ⟨hopen, hclose⟩)

/-- No bracket stands at a comment. -/
lemma not_bracket_of_instructionAt?_eq_none {pos : Nat}
    (h : p.instructionAt? pos = none) :
    p.charAt? pos ≠ some '[' ∧ p.charAt? pos ≠ some ']' := by
  constructor <;> intro hc
  · rw [instructionAt?_eq_some_iff (i := .loopOpen) |>.mpr hc] at h
    exact absurd h (by simp)
  · rw [instructionAt?_eq_some_iff (i := .loopClose) |>.mpr hc] at h
    exact absurd h (by simp)

/-- Where no bracket stands, the instruction is none either. -/
lemma isLoop_of_not_bracket {pos : Nat} {i : Instruction}
    (h : p.charAt? pos ≠ some '[' ∧ p.charAt? pos ≠ some ']')
    (hi : p.instructionAt? pos = some i) : i.isLoop = false := by
  have hchar := instructionAt?_eq_some_iff.mp hi
  cases i with
  | loopOpen => exact absurd hchar h.1
  | loopClose => exact absurd hchar h.2
  | _ => rfl

/-! ### The rest of the text -/

/-- The characters from a position on. -/
def charsFrom (p : Program) (pos : Nat) : List Char :=
  p.chars.toList.drop pos

lemma charsFrom_zero_ofString (text : String) :
    (ofString text).charsFrom 0 = text.toList := by
  simp [charsFrom, ofString]

lemma charsFrom_of_size_le {pos : Nat} (h : p.size ≤ pos) :
    p.charsFrom pos = [] :=
  List.drop_eq_nil_of_le h

lemma charsFrom_of_charAt? {pos : Nat} {c : Char}
    (h : p.charAt? pos = some c) :
    p.charsFrom pos = c :: p.charsFrom (pos + 1) := by
  obtain ⟨hlt, hc⟩ := Array.getElem?_eq_some_iff.mp h
  rw [charsFrom, List.drop_eq_getElem_cons (by simpa using hlt), ← hc]
  rfl

/-- The rest of a text begins with the character at its position. -/
lemma charsFrom_eq_cons {pos : Nat} {c : Char} {rest : List Char}
    (h : p.charsFrom pos = c :: rest) :
    p.charAt? pos = some c ∧ p.charsFrom (pos + 1) = rest := by
  cases hc : p.charAt? pos with
  | none =>
      rw [charsFrom_of_size_le (charAt?_eq_none_iff.mp hc)] at h
      exact absurd h (by simp)
  | some d =>
      rw [charsFrom_of_charAt? hc] at h
      obtain ⟨rfl, rfl⟩ := List.cons.inj h
      exact ⟨rfl, rfl⟩

lemma charsFrom_eq_nil {pos : Nat} (h : p.charsFrom pos = []) :
    p.size ≤ pos := by
  cases hc : p.charAt? pos with
  | none => exact charAt?_eq_none_iff.mp hc
  | some d =>
      rw [charsFrom_of_charAt? hc] at h
      exact absurd h (by simp)

/-! ### The way to the next instruction -/

lemma seek_le (pos left : Nat) : p.seek pos left ≤ pos + left := by
  induction left generalizing pos with
  | zero => exact le_rfl
  | succ left ih =>
      rw [seek]
      split
      · omega
      · have := ih (pos + 1)
        omega

lemma le_seek (pos left : Nat) : pos ≤ p.seek pos left := by
  induction left generalizing pos with
  | zero => exact le_rfl
  | succ left ih =>
      rw [seek]
      split
      · exact le_rfl
      · have := ih (pos + 1)
        omega

lemma nextInstruction_le_size (pos : Nat) : p.nextInstruction pos ≤ p.size :=
  min_le_right _ _

lemma lt_nextInstruction {pos : Nat} (h : pos < p.size) :
    pos < p.nextInstruction pos := by
  have := p.le_seek (pos + 1) (p.size - (pos + 1))
  rw [nextInstruction]
  omega

lemma nextInstruction_of_size_le {pos : Nat} (h : p.size ≤ pos) :
    p.nextInstruction pos = p.size := by
  have := p.le_seek (pos + 1) (p.size - (pos + 1))
  rw [nextInstruction]
  omega

/-- A value that is the same before and after every comment is the same at
the next instruction as right behind the present one. -/
lemma apply_nextInstruction {α : Type*} (f : Nat → α)
    (hf : ∀ pos, p.instructionAt? pos = none → f (pos + 1) = f pos)
    (pos : Nat) : f (p.nextInstruction pos) = f (pos + 1) := by
  have hseek : ∀ left pos, f (p.seek pos left) = f pos := by
    intro left
    induction left with
    | zero => exact fun _ => rfl
    | succ left ih =>
        intro pos
        rw [seek]
        split
        · rfl
        · next hnone =>
            rw [ih (pos + 1), hf pos (by simpa using hnone)]
  have hbeyond : ∀ k, f (p.size + k) = f p.size := by
    intro k
    induction k with
    | zero => rfl
    | succ k ih =>
        rw [← ih]
        exact hf _ (instructionAt?_eq_none_of_size_le (Nat.le_add_right _ _))
  by_cases hpos : pos < p.size
  · have hle := p.seek_le (pos + 1) (p.size - (pos + 1))
    rw [nextInstruction, min_eq_left (by omega), hseek]
  · rw [nextInstruction_of_size_le (by omega), ← hbeyond (pos + 1 - p.size),
      show p.size + (pos + 1 - p.size) = pos + 1 by omega]

/-! ### Open brackets -/

/-- The positions of the `[` that are open when the first `n` characters have
been read from left to right, innermost first: a `[` is put on top of those
open before it, and a `]` takes the top one away, if there is one. -/
def openBefore (p : Program) : (n : Nat) → List Nat
  | 0 => []
  | n + 1 =>
      match p.charAt? n with
      | some '[' => n :: p.openBefore n
      | some ']' => (p.openBefore n).tail
      | _ => p.openBefore n

@[simp]
lemma openBefore_zero : p.openBefore 0 = [] := rfl

lemma openBefore_succ_of_open {n : Nat} (h : p.charAt? n = some '[') :
    p.openBefore (n + 1) = n :: p.openBefore n := by
  simp only [openBefore, h]

lemma openBefore_succ_of_close {n : Nat} (h : p.charAt? n = some ']') :
    p.openBefore (n + 1) = (p.openBefore n).tail := by
  simp only [openBefore, h]

lemma openBefore_succ_of_not_bracket {n : Nat}
    (h : p.charAt? n ≠ some '[' ∧ p.charAt? n ≠ some ']') :
    p.openBefore (n + 1) = p.openBefore n := by
  rw [openBefore]
  split
  · exact absurd ‹_› h.1
  · exact absurd ‹_› h.2
  · rfl

/-- The brackets open at the next instruction are those open right behind the
present one. -/
lemma openBefore_nextInstruction (pos : Nat) :
    p.openBefore (p.nextInstruction pos) = p.openBefore (pos + 1) :=
  apply_nextInstruction p.openBefore (fun _ hnone =>
    openBefore_succ_of_not_bracket
      (not_bracket_of_instructionAt?_eq_none hnone)) pos

/-- An open bracket stands before the position, it is a `[`, and below it
are the brackets that were open when it was read. -/
lemma openBefore_eq_append {n i : Nat} {inner outer : List Nat}
    (h : p.openBefore n = inner ++ i :: outer) :
    i < n ∧ p.charAt? i = some '[' ∧ p.openBefore i = outer := by
  induction n generalizing inner with
  | zero => simp at h
  | succ n ih =>
      rcases bracket_cases (p.charAt? n) with hopen | hclose | hother
      · rw [openBefore_succ_of_open hopen] at h
        cases inner with
        | nil =>
            obtain ⟨rfl, rfl⟩ := List.cons.inj h
            exact ⟨Nat.lt_succ_self n, hopen, rfl⟩
        | cons x inner =>
            obtain ⟨hlt, hrest⟩ := ih (List.cons.inj h).2
            exact ⟨by omega, hrest⟩
      · rw [openBefore_succ_of_close hclose] at h
        -- the bracket that this `]` closes stood on top of `inner`
        cases hn : p.openBefore n with
        | nil => simp [hn] at h
        | cons x xs =>
            have hxs : xs = inner ++ i :: outer := by rwa [hn] at h
            have hcons : p.openBefore n = (x :: inner) ++ i :: outer := by
              rw [hn, hxs, List.cons_append]
            obtain ⟨hlt, hrest⟩ := ih hcons
            exact ⟨by omega, hrest⟩
      · rw [openBefore_succ_of_not_bracket hother] at h
        obtain ⟨hlt, hrest⟩ := ih h
        exact ⟨by omega, hrest⟩

lemma openBefore_eq_cons {n i : Nat} {outer : List Nat}
    (h : p.openBefore n = i :: outer) :
    i < n ∧ p.charAt? i = some '[' ∧ p.openBefore i = outer :=
  openBefore_eq_append (show p.openBefore n = [] ++ i :: outer from h)

lemma lt_of_mem_openBefore {n i : Nat} (h : i ∈ p.openBefore n) : i < n := by
  obtain ⟨inner, outer, hn⟩ := List.append_of_mem h
  exact (openBefore_eq_append hn).1

/-- A bracket that is open at a position was open at every position since it
was read. -/
lemma mem_openBefore_of_le {i k n : Nat} (hik : i < k) (hkn : k ≤ n)
    (h : i ∈ p.openBefore n) : i ∈ p.openBefore k := by
  induction n, hkn using Nat.le_induction with
  | base => exact h
  | succ n hkn ih =>
      apply ih
      rcases bracket_cases (p.charAt? n) with hopen | hclose | hother
      · rw [openBefore_succ_of_open hopen] at h
        exact (List.mem_cons.mp h).resolve_left (by omega)
      · rw [openBefore_succ_of_close hclose] at h
        exact List.mem_of_mem_tail h
      · rwa [openBefore_succ_of_not_bracket hother] at h

/-- A bracket is not open a second time below itself. -/
lemma openBefore_ne_append {i : Nat} {inner : List Nat} :
    p.openBefore i ≠ inner ++ i :: p.openBefore i := by
  intro h
  have hlen := congrArg List.length h
  rw [List.length_append, List.length_cons] at hlen
  omega

/-! ### Partners -/

/-- The `]` at `j` closes the `[` at `i`: this is the innermost bracket that
is open when the reading from left to right comes to `j`. -/
def Partner (p : Program) (i j : Nat) : Prop :=
  p.charAt? j = some ']' ∧ (p.openBefore j).head? = some i

instance (p : Program) (i j : Nat) : Decidable (p.Partner i j) :=
  inferInstanceAs (Decidable (_ ∧ _))

lemma partner_iff {i j : Nat} :
    p.Partner i j ↔
      p.charAt? j = some ']' ∧ p.openBefore j = i :: p.openBefore i := by
  rw [Partner]
  refine and_congr_right fun _ => ⟨fun h => ?_, fun h => by rw [h]; rfl⟩
  obtain ⟨outer, hj⟩ := List.head?_eq_some_iff.mp h
  rw [hj, (openBefore_eq_cons hj).2.2]

/-- The first of two partners is a `[`, and it stands before the second. -/
lemma Partner.open_lt {i j : Nat} (h : p.Partner i j) :
    p.charAt? i = some '[' ∧ i < j := by
  have hj := openBefore_eq_cons (partner_iff.mp h).2
  exact ⟨hj.2.1, hj.1⟩

/-- Behind a `]` the same brackets are open as before its partner. -/
lemma Partner.openBefore_succ {i j : Nat} (h : p.Partner i j) :
    p.openBefore (j + 1) = p.openBefore i := by
  obtain ⟨hclose, hj⟩ := partner_iff.mp h
  rw [openBefore_succ_of_close hclose, hj, List.tail_cons]

/-- A `]` has at most one partner. -/
lemma Partner.left_unique {i i' j : Nat} (h : p.Partner i j)
    (h' : p.Partner i' j) : i = i' :=
  Option.some.inj (h.2.symm.trans h'.2)

/-- A `[` that no `]` closes stays open. -/
lemma mem_openBefore_of_no_partner {i n : Nat} (hin : i < n)
    (hi : p.charAt? i = some '[')
    (hnone : ∀ j, ¬ p.Partner i j) :
    i ∈ p.openBefore n := by
  induction n, hin using Nat.le_induction with
  | base =>
      rw [openBefore_succ_of_open hi]
      exact List.mem_cons_self
  | succ n hin ih =>
      rcases bracket_cases (p.charAt? n) with hopen | hclose | hother
      · rw [openBefore_succ_of_open hopen]
        exact List.mem_cons_of_mem n ih
      · obtain ⟨top, outer, hn⟩ := List.exists_cons_of_ne_nil
          (List.ne_nil_of_mem ih)
        rw [openBefore_succ_of_close hclose]
        rw [hn] at ih ⊢
        refine (List.mem_cons.mp ih).resolve_left fun htop => ?_
        exact hnone n ⟨hclose, by rw [hn, htop]; rfl⟩
      · rw [openBefore_succ_of_not_bracket hother]
        exact ih

lemma closingFrom_of_not_bracket {depth pos left : Nat}
    (h : p.charAt? pos ≠ some '[' ∧ p.charAt? pos ≠ some ']') :
    p.closingFrom (depth + 1) pos (left + 1)
      = p.closingFrom (depth + 1) (pos + 1) left := by
  rw [closingFrom.eq_def]
  simp only
  split
  · exact absurd ‹_› h.1
  · exact absurd ‹_› h.2
  · rw [if_neg (Nat.succ_ne_zero depth)]

/-- From a `[` the scan goes on behind it, with that loop to close. -/
lemma closing?_of_open {i : Nat} (h : p.charAt? i = some '[') :
    p.closing? i = p.closingFrom 1 (i + 1) (p.size - (i + 1)) := by
  rw [closing?, size_sub_of_charAt? h]
  simp only [closingFrom, h]

/-- The scan forward from inside a loop. The brackets open at `pos` are those
of the loop opened at `i` and `inner` ones within it; the scan has counted
them and ends where only that loop is left to be closed. -/
lemma closingFrom_eq_some_iff {i j pos : Nat} (inner : List Nat) (left : Nat)
    (hpos : p.openBefore pos = inner ++ i :: p.openBefore i) :
    p.closingFrom (inner.length + 1) pos left = some j ↔
      pos ≤ j ∧ j < pos + left ∧ p.Partner i j := by
  induction left generalizing pos inner with
  | zero =>
      simp only [closingFrom, reduceCtorEq, false_iff]
      omega
  | succ left ih =>
      have hshift (hne : p.Partner i j → pos ≠ j) :
          (pos + 1 ≤ j ∧ j < pos + 1 + left ∧ p.Partner i j ↔
            pos ≤ j ∧ j < pos + (left + 1) ∧ p.Partner i j) := by
        constructor
        · rintro ⟨h1, h2, hp⟩
          exact ⟨by omega, by omega, hp⟩
        · rintro ⟨h1, h2, hp⟩
          have := hne hp
          exact ⟨by omega, by omega, hp⟩
      rcases bracket_cases (p.charAt? pos) with hopen | hclose | hother
      · have hne : p.Partner i j → pos ≠ j := by
          rintro ⟨hj, -⟩ rfl
          exact absurd (hopen.symm.trans hj) (by decide)
        have hnext : p.openBefore (pos + 1)
            = (pos :: inner) ++ i :: p.openBefore i := by
          rw [openBefore_succ_of_open hopen, hpos, List.cons_append]
        simp only [closingFrom, hopen]
        rw [← List.length_cons (a := pos), ih _ hnext]
        exact hshift hne
      · have htail := openBefore_succ_of_close hclose
        cases inner with
        | nil =>
            -- the loop at `i` is closed here, and is open nowhere later
            simp only [closingFrom, hclose, List.length_nil, Nat.zero_add,
              Option.some.injEq]
            constructor
            · rintro rfl
              exact ⟨le_rfl, by omega, partner_iff.mpr ⟨hclose, hpos⟩⟩
            · rintro ⟨h1, -, hp⟩
              by_contra hne
              rw [hpos, List.nil_append, List.tail_cons] at htail
              have hi : i ∈ p.openBefore j := by
                rw [(partner_iff.mp hp).2]
                exact List.mem_cons_self
              have hlt := (openBefore_eq_cons hpos).1
              have hmem := mem_openBefore_of_le (k := pos + 1) (by omega)
                (by omega) hi
              rw [htail] at hmem
              exact absurd (lt_of_mem_openBefore hmem) (lt_irrefl i)
        | cons x inner =>
            have hne : p.Partner i j → pos ≠ j := by
              rintro hp rfl
              have heq := hpos.symm.trans (partner_iff.mp hp).2
              rw [List.cons_append] at heq
              exact openBefore_ne_append (List.cons.inj heq).2.symm
            have hnext : p.openBefore (pos + 1)
                = inner ++ i :: p.openBefore i := by
              rw [htail, hpos, List.cons_append, List.tail_cons]
            simp only [closingFrom, hclose, List.length_cons]
            rw [ih _ hnext]
            exact hshift hne
      · have hne : p.Partner i j → pos ≠ j := by
          rintro ⟨hj, -⟩ rfl
          exact hother.2 hj
        have hnext := (openBefore_succ_of_not_bracket hother).trans hpos
        rw [closingFrom_of_not_bracket hother, ih _ hnext]
        exact hshift hne

/-- **The forward scan finds the partner**: from a `[` it ends at the `]`
whose innermost open bracket is that `[`, and nowhere if there is none. -/
theorem closing?_eq_some_iff {i j : Nat} (hi : p.charAt? i = some '[') :
    p.closing? i = some j ↔ p.Partner i j := by
  have hscan := closingFrom_eq_some_iff (j := j) [] (p.size - (i + 1))
    (openBefore_succ_of_open hi)
  rw [List.length_nil, Nat.zero_add] at hscan
  rw [closing?_of_open hi, hscan]
  constructor
  · exact fun h => h.2.2
  · intro h
    have := h.open_lt.2
    have := lt_size_of_charAt? h.1
    exact ⟨by omega, by omega, h⟩

/-- The scan ends at a `]` exactly from the partner of that `]`. -/
theorem closing?_eq_some_iff_of_close {i j : Nat}
    (hj : p.charAt? j = some ']') :
    p.closing? i = some j ↔ p.Partner i j := by
  by_cases hi : p.charAt? i = some '['
  · exact closing?_eq_some_iff hi
  · refine ⟨fun h => ?_, fun h => absurd h.open_lt.1 hi⟩
    -- elsewhere the scan ends at once: with nothing, or where it began
    exfalso
    rw [closing?] at h
    cases hleft : p.size - i with
    | zero => simp [hleft, closingFrom] at h
    | succ left =>
        rw [hleft, closingFrom] at h
        split at h
        · exact hi ‹_›
        · exact absurd h (by simp)
        · next hother =>
            simp only [if_true, Option.some.injEq] at h
            rw [h] at hother
            exact hother hj

end Program

end TapeDebugger
