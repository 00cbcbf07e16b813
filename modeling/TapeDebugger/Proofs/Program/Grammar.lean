/-
The bracket check decides the grammar of nested brackets.

* `Nested`: the grammar;
* `Closes`: the texts that close so many brackets opened before them, with
  nested texts in between;
* `imbalanceFrom_eq_none_iff`: with some brackets open, the check accepts
  exactly the texts that close them;
* `Overclosed` and `overclosing`: where a text holds more `]` than `[` up to
  a position;
* `Program.length_openBefore`: up to the first stray `]`, the number of open
  brackets is the difference of the two counts;
* `Program.matched_iff_balanced`: a text passes the check exactly if every
  bracket has its partner;
* `imbalance?_cases`: the answers of the check, told by the counts;
* `check_decides_bracket_grammar`: what the check answers, by the grammar, by
  the counts and by the partners.

The check is one count from left to right. The grammar sees the text as a
tree, and the forward scan sees it from one bracket at a time.
-/
import Mathlib.Tactic
import TapeDebugger.Proofs.Program.Balance

namespace TapeDebugger

/-! ### The grammar -/

/-- The texts whose brackets are nested: the empty text, a nested text behind
a character that is no bracket, and a nested text behind one in brackets. -/
inductive Nested : List Char → Prop
  | nil : Nested []
  | plain {c : Char} {rest : List Char} (hopen : c ≠ '[') (hclose : c ≠ ']')
      (hrest : Nested rest) : Nested (c :: rest)
  | loop {body rest : List Char} (hbody : Nested body)
      (hrest : Nested rest) : Nested ('[' :: (body ++ ']' :: rest))

/-- The texts that close `depth` brackets opened before them: nested texts
with a `]` between each and the next. -/
def Closes : (depth : Nat) → List Char → Prop
  | 0, text => Nested text
  | depth + 1, text =>
      ∃ body rest, text = body ++ ']' :: rest ∧ Nested body ∧
        Closes depth rest

variable {depth pos : Nat} {text : List Char}

lemma Closes.plain {c : Char} (hopen : c ≠ '[') (hclose : c ≠ ']')
    (h : Closes depth text) : Closes depth (c :: text) := by
  cases depth with
  | zero => exact Nested.plain hopen hclose h
  | succ depth =>
      obtain ⟨body, rest, rfl, hbody, hrest⟩ := h
      exact ⟨c :: body, rest, rfl, hbody.plain hopen hclose, hrest⟩

/-- A `[` in front is closed by the first of the brackets to be closed, and
the loop joins the nested text behind it. -/
lemma Closes.opened (h : Closes (depth + 1) text) :
    Closes depth ('[' :: text) := by
  obtain ⟨body, rest, rfl, hbody, hrest⟩ := h
  cases depth with
  | zero => exact Nested.loop hbody hrest
  | succ depth =>
      obtain ⟨next, last, rfl, hnext, hlast⟩ := hrest
      refine ⟨'[' :: (body ++ ']' :: next), last, ?_, hbody.loop hnext, hlast⟩
      simp

lemma Closes.closed (h : Closes depth text) :
    Closes (depth + 1) (']' :: text) :=
  ⟨[], text, rfl, .nil, h⟩

/-! ### The check accepts the grammar -/

/-- A nested text leaves as many brackets open as it finds. -/
lemma imbalanceFrom_of_nested {body : List Char} (h : Nested body)
    (depth pos : Nat) (rest : List Char) :
    imbalanceFrom depth pos (body ++ rest)
      = imbalanceFrom depth (pos + body.length) rest := by
  induction h generalizing depth pos rest with
  | nil => rfl
  | plain hopen hclose _ ih =>
      rw [List.cons_append, imbalanceFrom_cons_of_not_bracket hopen hclose,
        ih, List.length_cons]
      congr 1
      omega
  | @loop body next _ _ ihbody ihnext =>
      have htext : '[' :: (body ++ ']' :: next) ++ rest
          = '[' :: (body ++ ']' :: (next ++ rest)) := by simp
      calc imbalanceFrom depth pos ('[' :: (body ++ ']' :: next) ++ rest)
          = imbalanceFrom (depth + 1) (pos + 1)
              (body ++ ']' :: (next ++ rest)) := by rw [htext]; rfl
        _ = imbalanceFrom depth (pos + 1 + body.length + 1)
              (next ++ rest) := by rw [ihbody]; rfl
        _ = imbalanceFrom depth
              (pos + ('[' :: (body ++ ']' :: next)).length) rest := by
            rw [ihnext]
            congr 1
            simp only [List.length_cons, List.length_append]
            omega

/-- **The check accepts exactly the texts that close what is open.** -/
lemma imbalanceFrom_eq_none_iff :
    imbalanceFrom depth pos text = none ↔ Closes depth text := by
  constructor
  · intro h
    induction text generalizing depth pos with
    | nil =>
        rw [imbalanceFrom] at h
        obtain rfl : depth = 0 := by
          by_contra hne
          simp [hne] at h
        exact Nested.nil
    | cons c rest ih =>
        by_cases hopen : c = '['
        · subst hopen
          exact (ih h).opened
        · by_cases hclose : c = ']'
          · subst hclose
            cases depth with
            | zero => exact absurd h (by simp [imbalanceFrom])
            | succ depth => exact (ih h).closed
          · rw [imbalanceFrom_cons_of_not_bracket hopen hclose] at h
            exact (ih h).plain hopen hclose
  · intro h
    induction depth generalizing pos text with
    | zero =>
        have hcheck := imbalanceFrom_of_nested h 0 pos []
        rwa [List.append_nil] at hcheck
    | succ depth ih =>
        obtain ⟨body, rest, rfl, hbody, hrest⟩ := h
        rw [imbalanceFrom_of_nested hbody]
        exact ih hrest

/-! ### Counting brackets -/

/-- The first `n` characters hold more `]` than `[`. -/
def Overclosed (text : List Char) (n : Nat) : Prop :=
  (text.take n).count '[' < (text.take n).count ']'

instance (text : List Char) (n : Nat) : Decidable (Overclosed text n) :=
  inferInstanceAs (Decidable (_ < _))

/-- The positions up to which, that position included, a text holds more `]`
than `[`. -/
def overclosing (text : List Char) : Set Nat :=
  {n | n < text.length ∧ Overclosed text (n + 1)}

namespace Program

variable {p : Program} {i n : Nat}

lemma count_take_succ (p : Program) (n : Nat) (c : Char) :
    (p.chars.toList.take (n + 1)).count c =
      (p.chars.toList.take n).count c
        + if p.charAt? n = some c then 1 else 0 := by
  rw [List.take_add_one, List.count_append, Array.getElem?_toList, charAt?]
  cases p.chars[n]? with
  | none => simp
  | some d => simp [List.count_singleton]

/-- **Up to the first stray `]`**, the brackets open at a position are as many
as the `[` read so far less the `]` read so far. -/
lemma length_openBefore (h : ∀ j < n, ¬ p.Stray j) :
    (p.openBefore n).length + (p.chars.toList.take n).count ']'
      = (p.chars.toList.take n).count '[' := by
  induction n with
  | zero => simp
  | succ n ih =>
      have hbefore := ih fun j hj => h j (by omega)
      rw [count_take_succ, count_take_succ]
      rcases bracket_cases (p.charAt? n) with hopen | hclose | hother
      · rw [openBefore_succ_of_open hopen, hopen]
        simp only [List.length_cons, Option.some.injEq, Char.reduceEq,
          if_true, if_false]
        omega
      · -- this `]` is not stray, so there is a bracket for it to close
        have hpos : (p.openBefore n).length ≠ 0 := fun hzero =>
          h n (by omega) ⟨hclose, List.length_eq_zero_iff.mp hzero⟩
        rw [openBefore_succ_of_close hclose, List.length_tail, hclose]
        simp only [Option.some.injEq, Char.reduceEq, if_true, if_false]
        omega
      · rw [openBefore_succ_of_not_bracket hother, if_neg hother.1,
          if_neg hother.2]
        exact hbefore

lemma not_overclosed_of_no_stray (h : ∀ j < n, ¬ p.Stray j) :
    ¬ Overclosed p.chars.toList n := by
  have := length_openBefore h
  rw [Overclosed]
  omega

/-- The first stray `]` is where the `]` first outnumber the `[`. -/
lemma isLeast_of_first_stray (hstray : p.Stray i)
    (hfirst : ∀ j < i, ¬ p.Stray j) :
    IsLeast (overclosing p.chars.toList) i := by
  obtain ⟨hclose, hnil⟩ := hstray
  refine ⟨⟨lt_size_of_charAt? hclose, ?_⟩, fun n hn => ?_⟩
  · have hcount := length_openBefore hfirst
    rw [hnil, List.length_nil] at hcount
    rw [Overclosed, count_take_succ, count_take_succ, hclose]
    simp only [Option.some.injEq, Char.reduceEq, if_true, if_false]
    omega
  · by_contra hlt
    exact not_overclosed_of_no_stray
      (fun j hj => hfirst j (by omega)) hn.2

/-! ### Partners -/

/-- **A text passes the check exactly if every bracket has its partner.** -/
lemma matched_iff_balanced {text : String} :
    (ofString text).Matched ↔ imbalance? text = none := by
  refine ⟨fun h => ?_, matched_of_balanced⟩
  rw [imbalance?_eq_none_iff]
  refine ⟨fun j hj => ?_, List.eq_nil_iff_forall_not_mem.mpr fun i hi => ?_⟩
  · exact (not_stray_iff_partner hj.1).mpr (h.partner_of_close j hj.1) hj
  · -- a bracket open at the end would be open behind its partner too
    obtain ⟨inner, outer, hend⟩ := List.append_of_mem hi
    obtain ⟨j, hj⟩ := h.partner_of_open i (openBefore_eq_append hend).2.1
    have hlt := hj.open_lt.2
    have hmem := mem_openBefore_of_le (k := j + 1) (by omega)
      (lt_size_of_charAt? hj.1) hi
    rw [hj.openBefore_succ] at hmem
    exact absurd (lt_of_mem_openBefore hmem) (lt_irrefl i)

/-- Partners are what the forward scan finds. -/
lemma matched_iff_closing? :
    p.Matched ↔
      (∀ i, p.charAt? i = some '[' → (p.closing? i).isSome = true) ∧
        ∀ j, p.charAt? j = some ']' →
          ∃ i, p.charAt? i = some '[' ∧ p.closing? i = some j := by
  constructor
  · rintro ⟨hopen, hclose⟩
    refine ⟨fun i hi => ?_, fun j hj => ?_⟩
    · obtain ⟨j, hj⟩ := hopen i hi
      rw [(closing?_eq_some_iff hi).mpr hj]
      rfl
    · obtain ⟨i, hi⟩ := hclose j hj
      exact ⟨i, hi.open_lt.1, (closing?_eq_some_iff hi.open_lt.1).mpr hi⟩
  · rintro ⟨hopen, hclose⟩
    refine ⟨fun i hi => ?_, fun j hj => ?_⟩
    · obtain ⟨j, hj⟩ := Option.isSome_iff_exists.mp (hopen i hi)
      exact ⟨j, (closing?_eq_some_iff hi).mp hj⟩
    · obtain ⟨i, hi, hij⟩ := hclose j hj
      exact ⟨i, (closing?_eq_some_iff hi).mp hij⟩

end Program

/-! ### The answers of the check -/

open Program in
/-- The check reports the least position of those up to which the `]` outnumber
the `[`. If there is none, it reports whether the `[` outnumber the `]`. -/
lemma imbalance?_cases (text : String) :
    (∃ i, imbalance? text = some ⟨i, .unexpectedClose⟩ ∧
        IsLeast (overclosing text.toList) i) ∨
      overclosing text.toList = ∅ ∧
        imbalance? text =
          if text.toList.count ']' < text.toList.count '[' then
            some ⟨text.length - 1, .unclosed⟩
          else none := by
  have hchars : (ofString text).chars.toList = text.toList := rfl
  have hsize : (ofString text).size = text.length := String.length_toList
  obtain ⟨i, hreport, -, hstray, hfirst⟩ | ⟨hnone, hreport⟩ :=
    verdict_imbalance? text
  · refine Or.inl ⟨i, hreport, ?_⟩
    rw [← hchars]
    exact isLeast_of_first_stray hstray fun j => hfirst j (Nat.zero_le j)
  · have hcount := length_openBefore (n := (ofString text).size)
      fun j _ => hnone j (Nat.zero_le j)
    have hall : text.toList.take (ofString text).size = text.toList :=
      List.take_of_length_le (hsize ▸ String.length_toList.le)
    rw [hchars, hall] at hcount
    have hopen : (ofString text).openBefore (ofString text).size = [] ↔
        ¬ text.toList.count ']' < text.toList.count '[' := by
      rw [← List.length_eq_zero_iff]
      omega
    refine Or.inr ⟨Set.eq_empty_of_forall_notMem fun n hn => ?_, ?_⟩
    · exact not_overclosed_of_no_stray (p := ofString text)
        (fun j _ => hnone j (Nat.zero_le j)) hn.2
    · rw [hreport, if_congr hopen rfl rfl, ite_not, hsize]

open Program in
/-- **The check decides the bracket grammar and finds the first error.** It
accepts a text exactly if the brackets of the text are nested. It reports an
unexpected `]` at the first position up to which the text holds more `]` than
`[`, and an unclosed `[` at the last character if there is no such position
and the text holds more `[` than `]`. It also accepts a text exactly if the
forward scan from every `[` finds an end, and every `]` is found from some
`[`. -/
theorem check_decides_bracket_grammar (text : String) :
    let p := ofString text
    (imbalance? text = none ↔ Nested text.toList) ∧
      (∀ i, imbalance? text = some ⟨i, .unexpectedClose⟩ ↔
        IsLeast (overclosing text.toList) i) ∧
      (∀ i, imbalance? text = some ⟨i, .unclosed⟩ ↔
        overclosing text.toList = ∅ ∧
          text.toList.count ']' < text.toList.count '[' ∧
          i + 1 = text.length) ∧
      (imbalance? text = none ↔
        (∀ i, p.charAt? i = some '[' → (p.closing? i).isSome = true) ∧
          ∀ j, p.charAt? j = some ']' →
            ∃ i, p.charAt? i = some '[' ∧ p.closing? i = some j) := by
  intro p
  refine ⟨imbalanceFrom_eq_none_iff, ?_, ?_,
    matched_iff_balanced.symm.trans (matched_iff_closing? (p := p))⟩
  · intro i
    obtain ⟨first, hreport, hleast⟩ | ⟨hempty, hreport⟩ :=
      imbalance?_cases text
    · rw [hreport]
      simp only [Option.some.injEq, Imbalance.mk.injEq, and_true]
      exact ⟨fun h => h ▸ hleast, fun h => hleast.unique h⟩
    · rw [hreport, hempty]
      constructor
      · intro h
        split_ifs at h
        simp at h
      · exact fun h => absurd h.1 (Set.notMem_empty i)
  · intro i
    obtain ⟨first, hreport, hleast⟩ | ⟨hempty, hreport⟩ :=
      imbalance?_cases text
    · rw [hreport]
      constructor
      · intro h
        simp at h
      · exact fun h => absurd hleast.1 (h.1 ▸ Set.notMem_empty first)
    · rw [hreport]
      constructor
      · intro h
        split_ifs at h with hcount
        simp only [Option.some.injEq, Imbalance.mk.injEq, and_true] at h
        have hne : 0 < text.length := by
          have := text.toList.count_le_length (a := '[')
          rw [String.length_toList] at this
          omega
        exact ⟨hempty, hcount, by omega⟩
      · rintro ⟨-, hcount, hlast⟩
        rw [if_pos hcount, ← hlast, Nat.add_sub_cancel]

/-- A loop that is not closed is reported at the last character, whatever
stands there. -/
example : imbalance? "[[-] " = some ⟨4, .unclosed⟩ := by decide

end TapeDebugger
