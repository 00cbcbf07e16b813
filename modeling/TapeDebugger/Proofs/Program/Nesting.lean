/-
The forward scan finds the end of the loop, told by the grammar.

* `Program.between`: the characters between two positions;
* `Program.openBefore_of_nested`: behind a nested text the same brackets are
  open as before it;
* `Program.closes_between`: what is read between a position inside a loop and
  the end of the loop closes all that is open inside it;
* `Program.partner_iff_nested`: two brackets are partners exactly if the text
  between them is nested;
* `Program.Scans`: the positions that a scan comes to, with the number of
  loops that it has open there;
* `Program.Partner.apart_or_inside`: loops lie apart or within one another;
* `Program.closing_is_nesting_partner`: all of this for the forward scan.

The text need not be balanced. A scan begins at every `[` with a count of its
own, while partners are read off one reading of the whole text.
-/
import Mathlib.Tactic
import TapeDebugger.Proofs.Program.Grammar

namespace TapeDebugger

namespace Program

variable {p : Program} {i i' j j' pos stop depth : Nat}

/-! ### Characters -/

/-- A position holds no bracket exactly if its character is none. -/
lemma not_bracket_iff {c : Char} (hc : p.charAt? pos = some c) :
    (p.charAt? pos ≠ some '[' ∧ p.charAt? pos ≠ some ']') ↔
      c ≠ '[' ∧ c ≠ ']' := by
  rw [hc, ne_eq, ne_eq, Option.some.injEq, Option.some.injEq]

/-! ### The text between two positions -/

/-- The characters from one position up to another, which is left out. -/
def between (p : Program) (start stop : Nat) : List Char :=
  (p.charsFrom start).take (stop - start)

lemma between_self (p : Program) (pos : Nat) : p.between pos pos = [] := by
  rw [between, Nat.sub_self, List.take_zero]

lemma between_eq_cons {c : Char} (hc : p.charAt? pos = some c)
    (hlt : pos < stop) :
    p.between pos stop = c :: p.between (pos + 1) stop := by
  have hleft : stop - pos = stop - (pos + 1) + 1 := by omega
  rw [between, charsFrom_of_charAt? hc, hleft, List.take_succ_cons, between]

lemma between_succ {c : Char} (hle : i ≤ pos)
    (hc : p.charAt? pos = some c) :
    p.between i (pos + 1) = p.between i pos ++ [c] := by
  have hget : (p.charsFrom i)[pos - i]? = some c := by
    rw [charsFrom, List.getElem?_drop, Nat.add_sub_of_le hle,
      Array.getElem?_toList]
    exact hc
  rw [between, Nat.succ_sub hle, List.take_add_one, hget]
  rfl

/-- A text is what stands up to a position, and the rest. -/
lemma between_append_charsFrom (hle : pos ≤ stop) :
    p.between pos stop ++ p.charsFrom stop = p.charsFrom pos := by
  have hrest : p.charsFrom stop = (p.charsFrom pos).drop (stop - pos) := by
    rw [charsFrom, charsFrom, List.drop_drop, Nat.add_sub_of_le hle]
  rw [hrest, between, List.take_append_drop]

lemma length_between (hle : pos ≤ stop) (hstop : stop ≤ p.size) :
    (p.between pos stop).length = stop - pos := by
  have hsize : p.chars.toList.length = p.size := Array.length_toList
  rw [between, List.length_take, charsFrom, List.length_drop, hsize]
  omega

/-! ### Partners enclose nested texts -/

/-- Behind a nested text the same brackets are open as before it, and the
rest of the text follows. -/
lemma openBefore_of_nested {body rest : List Char} (h : Nested body)
    (hpos : p.charsFrom pos = body ++ rest) :
    p.openBefore (pos + body.length) = p.openBefore pos ∧
      p.charsFrom (pos + body.length) = rest := by
  induction h generalizing pos rest with
  | nil => exact ⟨rfl, hpos⟩
  | @plain c body hopen hclose _ ih =>
      obtain ⟨hc, hnext⟩ := charsFrom_eq_cons hpos
      obtain ⟨hsame, hrest⟩ := ih hnext
      have hother := (not_bracket_iff hc).mpr ⟨hopen, hclose⟩
      have hend : pos + (c :: body).length = pos + 1 + body.length := by
        rw [List.length_cons]
        omega
      rw [hend, hsame, openBefore_succ_of_not_bracket hother]
      exact ⟨rfl, hrest⟩
  | @loop body next _ _ ihbody ihnext =>
      have htext : '[' :: (body ++ ']' :: next) ++ rest
          = '[' :: (body ++ ']' :: (next ++ rest)) := by simp
      rw [htext] at hpos
      obtain ⟨hopen, hbody⟩ := charsFrom_eq_cons hpos
      obtain ⟨hinside, hend⟩ := ihbody hbody
      obtain ⟨hclose, hnext⟩ := charsFrom_eq_cons hend
      obtain ⟨hbehind, hrest⟩ := ihnext hnext
      have hlength : pos + ('[' :: (body ++ ']' :: next)).length
          = pos + 1 + body.length + 1 + next.length := by
        simp only [List.length_cons, List.length_append]
        omega
      rw [hlength]
      refine ⟨?_, hrest⟩
      rw [hbehind, openBefore_succ_of_close hclose, hinside,
        openBefore_succ_of_open hopen, List.tail_cons]

/-- From a position inside the loop opened at `i`, where `inner` further
brackets are open, up to the end of that loop, the text closes these brackets
and what it opens itself. -/
lemma closes_between (inner : List Nat)
    (hpos : p.openBefore pos = inner ++ i :: p.openBefore i)
    (hle : pos ≤ j) (hsize : j ≤ p.size)
    (hj : p.openBefore j = i :: p.openBefore i) :
    Closes inner.length (p.between pos j) := by
  generalize hleft : j - pos = left
  induction left generalizing pos inner with
  | zero =>
      obtain rfl : pos = j := by omega
      have hnil : inner = [] := by
        rw [hj] at hpos
        exact List.self_eq_append_left.mp hpos
      rw [between_self, hnil]
      exact Nested.nil
  | succ left ih =>
      have hlt : pos < j := by omega
      obtain ⟨c, hc⟩ := exists_charAt? (hlt.trans_le hsize)
      rw [between_eq_cons hc hlt]
      rcases bracket_cases (p.charAt? pos) with hopen | hclose | hother
      · obtain rfl : c = '[' := Option.some.inj (hc.symm.trans hopen)
        have hnext : p.openBefore (pos + 1)
            = (pos :: inner) ++ i :: p.openBefore i := by
          rw [openBefore_succ_of_open hopen, hpos, List.cons_append]
        exact (ih (pos :: inner) hnext hlt (by omega)).opened
      · obtain rfl : c = ']' := Option.some.inj (hc.symm.trans hclose)
        have htail := openBefore_succ_of_close hclose
        cases inner with
        | nil =>
            -- the loop at `i` would be closed here, and yet be open at `j`
            rw [hpos, List.nil_append, List.tail_cons] at htail
            have hi : i ∈ p.openBefore j := by
              rw [hj]
              exact List.mem_cons_self
            have hip : i < pos := (openBefore_eq_cons hpos).1
            have hmem := mem_openBefore_of_le (k := pos + 1) (by omega) hlt hi
            rw [htail] at hmem
            exact absurd (lt_of_mem_openBefore hmem) (lt_irrefl i)
        | cons x inner =>
            have hnext : p.openBefore (pos + 1)
                = inner ++ i :: p.openBefore i := by
              rw [htail, hpos, List.cons_append, List.tail_cons]
            exact (ih inner hnext hlt (by omega)).closed
      · have hnext := (openBefore_succ_of_not_bracket hother).trans hpos
        obtain ⟨hopen, hclose⟩ := (not_bracket_iff hc).mp hother
        exact (ih inner hnext hlt (by omega)).plain hopen hclose

/-- **Partners enclose nested texts**, and brackets that do are partners. -/
lemma partner_iff_nested :
    p.Partner i j ↔ p.charAt? i = some '[' ∧ i < j ∧
      p.charAt? j = some ']' ∧ Nested (p.between (i + 1) j) := by
  constructor
  · intro h
    obtain ⟨hopen, hlt⟩ := h.open_lt
    obtain ⟨hclose, hj⟩ := partner_iff.mp h
    refine ⟨hopen, hlt, hclose, ?_⟩
    exact closes_between [] (openBefore_succ_of_open hopen) hlt
      (lt_size_of_charAt? hclose).le hj
  · rintro ⟨hopen, hlt, hclose, hnested⟩
    have hsame := (openBefore_of_nested hnested
      (between_append_charsFrom hlt).symm).1
    rw [length_between hlt (lt_size_of_charAt? hclose).le,
      Nat.add_sub_of_le hlt, openBefore_succ_of_open hopen] at hsame
    exact partner_iff.mpr ⟨hclose, hsame⟩

/-! ### How the scan counts -/

/-- A scan that begins at `start` comes to a position with so many loops open.
It goes on as long as a loop is open behind the character that it has looked
at. -/
inductive Scans (p : Program) (start : Nat) : (depth pos : Nat) → Prop
  /-- The scan begins with no loop open. -/
  | begins : Scans p start 0 start
  /-- A `[` adds a loop. -/
  | opened {depth pos : Nat} (h : Scans p start depth pos)
      (hc : p.charAt? pos = some '[') : Scans p start (depth + 1) (pos + 1)
  /-- A `]` takes one away, and another is left. -/
  | closed {depth pos : Nat} (h : Scans p start (depth + 2) pos)
      (hc : p.charAt? pos = some ']') : Scans p start (depth + 1) (pos + 1)
  /-- Any other character leaves the loops open as they are. -/
  | passed {depth pos : Nat} {c : Char} (h : Scans p start (depth + 1) pos)
      (hc : p.charAt? pos = some c) (hopen : c ≠ '[') (hclose : c ≠ ']') :
      Scans p start (depth + 1) (pos + 1)

lemma Scans.le (h : p.Scans i depth pos) : i ≤ pos := by
  induction h with
  | begins => exact le_rfl
  | opened _ _ ih => omega
  | closed _ _ ih => omega
  | passed _ _ _ _ ih => omega

/-- The scan is the same from every position that it comes to. -/
lemma Scans.closing?_eq (h : p.Scans i depth pos) :
    p.closing? i = p.closingFrom depth pos (p.size - pos) := by
  induction h with
  | begins => rfl
  | opened _ hc ih =>
      rw [ih, size_sub_of_charAt? hc]
      simp only [closingFrom, hc]
  | closed _ hc ih =>
      rw [ih, size_sub_of_charAt? hc]
      simp only [closingFrom, hc]
  | passed _ hc hopen hclose ih =>
      have hother := (not_bracket_iff hc).mpr ⟨hopen, hclose⟩
      rw [ih, size_sub_of_charAt? hc, closingFrom_of_not_bracket hother]

/-- The loops that are open are the `[` less the `]` that the scan has looked
at. -/
lemma Scans.count_eq (h : p.Scans i depth pos) :
    depth + (p.between i pos).count ']' = (p.between i pos).count '[' := by
  induction h with
  | begins => rw [between_self]; rfl
  | opened h hc ih =>
      rw [between_succ h.le hc, List.count_append, List.count_append]
      simp only [List.count_singleton, beq_self_eq_true, if_true,
        Char.reduceBEq, Bool.false_eq_true, if_false]
      omega
  | closed h hc ih =>
      rw [between_succ h.le hc, List.count_append, List.count_append]
      simp only [List.count_singleton, beq_self_eq_true, if_true,
        Char.reduceBEq, Bool.false_eq_true, if_false]
      omega
  | passed h hc hopen hclose ih =>
      rw [between_succ h.le hc, List.count_append, List.count_append,
        List.count_singleton, List.count_singleton, if_neg (by simpa),
        if_neg (by simpa)]
      exact ih

/-- **A scan from a `[` never closes a loop that is not open**: behind its
first character it has a loop open wherever it comes to. -/
lemma Scans.depth_pos_of_close (h : p.Scans i depth pos)
    (hi : p.charAt? i = some '[') (hc : p.charAt? pos = some ']') :
    0 < depth := by
  cases h with
  | begins => exact absurd (hi.symm.trans hc) (by decide)
  | _ => exact Nat.succ_pos _

/-- The scan from a `[` comes to every position behind it, up to its answer or
to the end of the text. -/
lemma exists_scans (hi : p.charAt? i = some '[') (hlt : i < pos)
    (hsize : pos ≤ p.size) (hend : ∀ j, p.closing? i = some j → pos ≤ j) :
    ∃ depth, p.Scans i (depth + 1) pos := by
  induction pos, hlt using Nat.le_induction with
  | base => exact ⟨0, Scans.begins.opened hi⟩
  | succ pos hlt ih =>
      obtain ⟨depth, h⟩ := ih (by omega) fun j hj => by
        have := hend j hj
        omega
      obtain ⟨c, hc⟩ := exists_charAt? hsize
      rcases bracket_cases (p.charAt? pos) with hopen | hclose | hother
      · exact ⟨depth + 1, h.opened hopen⟩
      · cases depth with
        | zero =>
            -- the scan would end here, and not go on
            have hanswer : p.closing? i = some pos := by
              rw [h.closing?_eq, size_sub_of_charAt? hc]
              simp only [closingFrom, hclose]
            have := hend pos hanswer
            omega
        | succ depth => exact ⟨depth, h.closed hclose⟩
      · obtain ⟨hopen, hclose⟩ := (not_bracket_iff hc).mp hother
        exact ⟨depth, h.passed hc hopen hclose⟩

/-! ### Loops side by side and within one another -/

/-- **Loops do not cross**: one that begins behind another begins behind its
end too, or ends before it. -/
lemma Partner.apart_or_inside (h : p.Partner i j) (h' : p.Partner i' j')
    (hlt : i < i') : j < i' ∨ j' < j := by
  rcases Nat.lt_or_ge j' j with hinside | hge
  · exact Or.inr hinside
  · left
    have hne : j ≠ j' := by
      rintro rfl
      exact absurd (h.left_unique h') (by omega)
    by_contra hnot
    -- the inner bracket would still be open behind the end of the outer loop
    have hi' : i' ∈ p.openBefore j' := by
      rw [(partner_iff.mp h').2]
      exact List.mem_cons_self
    have hij : i' ≠ j := by
      rintro rfl
      exact absurd (h'.open_lt.1.symm.trans h.1) (by decide)
    have hmem := mem_openBefore_of_le (k := j + 1) (by omega) (by omega) hi'
    rw [h.openBefore_succ] at hmem
    have := lt_of_mem_openBefore hmem
    omega

/-- **The forward scan computes the partner that nests.** In every text,
balanced or not, the scan from a `[` ends at the `]` behind it up to which
the text between the two is nested, and nowhere if there is no such `]`. It comes
to every position on its way, with as many loops open as it has met `[` more
than `]`, and when it meets a `]`, there is one to close. No two scans that
begin at different `[` end at the same `]`, and of two loops the later one
begins behind the earlier one or ends within it. -/
theorem closing_is_nesting_partner (p : Program) :
    (∀ i, p.charAt? i = some '[' →
        (∀ j, p.closing? i = some j ↔ i < j ∧ p.charAt? j = some ']' ∧
          Nested (p.between (i + 1) j)) ∧
        (p.closing? i = none ↔ ¬ ∃ j, i < j ∧ p.charAt? j = some ']' ∧
          Nested (p.between (i + 1) j)) ∧
        (∀ pos, i < pos → pos ≤ p.size →
          (∀ j, p.closing? i = some j → pos ≤ j) →
            ∃ depth, p.Scans i depth pos) ∧
        ∀ depth pos, p.Scans i depth pos →
          p.closing? i = p.closingFrom depth pos (p.size - pos) ∧
            depth + (p.between i pos).count ']'
              = (p.between i pos).count '[' ∧
            (p.charAt? pos = some ']' → 0 < depth)) ∧
      ∀ i i' j j', p.charAt? i = some '[' → p.charAt? i' = some '[' →
        p.closing? i = some j → p.closing? i' = some j' →
          (j = j' → i = i') ∧ (i < i' → j < i' ∨ j' < j) := by
  refine ⟨fun i hi => ?_, fun i i' j j' hi hi' hj hj' => ?_⟩
  · have hend : ∀ j, p.closing? i = some j ↔ i < j ∧
        p.charAt? j = some ']' ∧ Nested (p.between (i + 1) j) := by
      intro j
      rw [closing?_eq_some_iff hi, partner_iff_nested, and_iff_right hi]
    refine ⟨hend, ?_, fun pos hlt hsize hbefore => ?_, fun depth pos h =>
      ⟨h.closing?_eq, h.count_eq, h.depth_pos_of_close hi⟩⟩
    · rw [Option.eq_none_iff_forall_ne_some, not_exists]
      exact forall_congr' fun j => not_congr (hend j)
    · obtain ⟨depth, h⟩ := exists_scans hi hlt hsize hbefore
      exact ⟨depth + 1, h⟩
  · have h : p.Partner i j := (closing?_eq_some_iff hi).mp hj
    have h' : p.Partner i' j' := (closing?_eq_some_iff hi').mp hj'
    exact ⟨fun heq => h.left_unique (heq ▸ h'), h.apart_or_inside h'⟩

/-- In `][[-]` the loop at position two ends at position four with a nested
text between, and no text behind the `[` before it closes that. -/
theorem closing_is_nesting_partner_unbalanced :
    let p := ofString "][[-]"
    (p.charAt? 2 = some '[' ∧ p.closing? 2 = some 4 ∧
        p.charAt? 1 = some '[' ∧ p.closing? 1 = none) ∧
      Nested (p.between 3 4) ∧
      ¬ ∃ j, 1 < j ∧ p.charAt? j = some ']' ∧ Nested (p.between 2 j) := by
  intro p
  obtain ⟨hscan, -⟩ := closing_is_nesting_partner p
  have hinner : p.charAt? 2 = some '[' := by decide
  have houter : p.charAt? 1 = some '[' := by decide
  have hend : p.closing? 2 = some 4 := by decide
  have hnone : p.closing? 1 = none := by decide
  exact ⟨⟨hinner, hend, houter, hnone⟩, (((hscan 2 hinner).1 4).mp hend).2.2,
    (hscan 1 houter).2.1.mp hnone⟩

end Program

end TapeDebugger
