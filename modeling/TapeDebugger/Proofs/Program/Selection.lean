/-
A program text of which only some characters are kept:

* `Program.select`: the program of the characters that are kept;
* `Program.rank`: the number of characters kept before a position, which is
  where a kept character of that position goes;
* `Program.rank_select`: to select twice is to select once;
* `Program.charsFrom_rank`: from the rank of a position on, the selection
  has the kept ones of the characters from that position on;
* `Program.closing?_select`: as long as all brackets are kept, the forward
  scan ends at the rank of where it ended.

Nothing is assumed about the brackets; they need not balance.
-/
import Mathlib.Tactic
import TapeDebugger.Proofs.Program.Brackets

namespace TapeDebugger

namespace Program

variable {p : Program} {keep : Char → Bool} {pos : Nat} {c : Char}

/-- The program of the characters that are kept, in their order. -/
def select (keep : Char → Bool) (p : Program) : Program :=
  ⟨p.chars.filter keep⟩

/-- The number of characters kept before a position. -/
def rank (keep : Char → Bool) (p : Program) (pos : Nat) : Nat :=
  (p.chars.toList.take pos).countP keep

lemma ofString_select (keep : Char → Bool) (text : String) :
    ofString (String.ofList (text.toList.filter keep))
      = (ofString text).select keep := by
  simp [ofString, select]

/-! ### Ranks -/

/-- The selection is cut where the text is cut. -/
lemma toList_select (keep : Char → Bool) (p : Program) (pos : Nat) :
    (p.select keep).chars.toList
      = (p.chars.toList.take pos).filter keep
        ++ (p.chars.toList.drop pos).filter keep := by
  rw [← List.filter_append, List.take_append_drop]
  simp [select]

/-- Before the rank of a position are the characters kept before it, and from
there on those kept from it on. -/
lemma charsFrom_rank (keep : Char → Bool) (p : Program) (pos : Nat) :
    (p.select keep).charsFrom (p.rank keep pos)
      = (p.charsFrom pos).filter keep := by
  rw [charsFrom, toList_select keep p pos, rank,
    List.countP_eq_length_filter, List.drop_left]
  rfl

lemma rank_succ_of_keep (hc : p.charAt? pos = some c)
    (hkeep : keep c = true) :
    p.rank keep (pos + 1) = p.rank keep pos + 1 := by
  have hget : p.chars.toList[pos]? = some c := by
    rw [Array.getElem?_toList]
    exact hc
  rw [rank, List.take_add_one, hget, List.countP_append]
  simp [rank, hkeep]

lemma rank_succ_of_not_keep
    (hnot : ∀ c, p.charAt? pos = some c → keep c = false) :
    p.rank keep (pos + 1) = p.rank keep pos := by
  rw [rank, List.take_add_one, List.countP_append]
  cases hget : p.chars.toList[pos]? with
  | none => simp [rank]
  | some c =>
      have hdrop : keep c = false := by
        rw [Array.getElem?_toList] at hget
        exact hnot c hget
      simp [rank, hdrop]

lemma rank_mono (keep : Char → Bool) (p : Program) {pos pos' : Nat}
    (h : pos ≤ pos') : p.rank keep pos ≤ p.rank keep pos' :=
  (List.take_sublist_take_left h).countP_le

/-- A kept character has fewer kept ones before it than any position behind
it. -/
lemma rank_lt_rank (hc : p.charAt? pos = some c) (hkeep : keep c = true)
    {pos' : Nat} (h : pos < pos') : p.rank keep pos < p.rank keep pos' := by
  have hnext := rank_succ_of_keep hc hkeep
  have hmono : p.rank keep (pos + 1) ≤ p.rank keep pos' :=
    p.rank_mono keep h
  omega

/-- Two kept characters with the same rank are the same one. -/
lemma eq_of_rank_eq {pos' : Nat} {d : Char} (hc : p.charAt? pos = some c)
    (hkeep : keep c = true) (hd : p.charAt? pos' = some d)
    (hkeep' : keep d = true) (h : p.rank keep pos = p.rank keep pos') :
    pos = pos' := by
  rcases Nat.lt_trichotomy pos pos' with hlt | heq | hgt
  · exact absurd h (rank_lt_rank hc hkeep hlt).ne
  · exact heq
  · exact absurd h (rank_lt_rank hd hkeep' hgt).ne'

/-- To select twice, the second time less, is to select once, and the ranks
follow. -/
lemma rank_select {keep' : Char → Bool}
    (hless : ∀ c, keep' c = true → keep c = true) (p : Program) (pos : Nat) :
    (p.select keep).rank keep' (p.rank keep pos) = p.rank keep' pos := by
  have htake : (p.select keep).chars.toList.take (p.rank keep pos)
      = (p.chars.toList.take pos).filter keep := by
    rw [toList_select keep p pos, rank, List.countP_eq_length_filter,
      List.take_left]
  rw [rank, htake, List.countP_filter, rank]
  refine List.countP_congr fun c _ => ?_
  constructor
  · intro h
    exact (Bool.and_eq_true _ _ ▸ h).1
  · intro h
    rw [h, hless c h]
    rfl

lemma size_select (keep : Char → Bool) (p : Program) :
    (p.select keep).size = p.rank keep p.size := by
  have htake : p.chars.toList.take p.size = p.chars.toList :=
    List.take_of_length_le le_rfl
  rw [rank, htake, List.countP_eq_length_filter, size, ← Array.length_toList]
  simp [select]

lemma rank_of_size_le (h : p.size ≤ pos) :
    p.rank keep pos = (p.select keep).size := by
  have hall : p.chars.toList.take pos = p.chars.toList.take p.size :=
    (List.take_of_length_le h).trans (List.take_of_length_le le_rfl).symm
  rw [size_select, rank, hall]
  rfl

/-- A kept character stands at its rank. -/
lemma charAt?_select (hc : p.charAt? pos = some c) (hkeep : keep c = true) :
    (p.select keep).charAt? (p.rank keep pos) = some c := by
  have hfrom := p.charsFrom_rank keep pos
  rw [charsFrom_of_charAt? hc, List.filter_cons_of_pos hkeep] at hfrom
  exact (charsFrom_eq_cons hfrom).1

/-- Only kept characters are in the selection. -/
lemma keep_of_charAt?_select {pos : Nat}
    (h : (p.select keep).charAt? pos = some c) : keep c = true := by
  have hmem : c ∈ p.chars.filter keep := Array.mem_of_getElem? h
  exact (Array.mem_filter.mp hmem).2

/-! ### Closing brackets -/

/-- The scan over a text and the scan over the selection go on together: a
character that is not kept is no bracket, and the scan passes it. -/
lemma closingFrom_select (hopen : keep '[' = true) (hclose : keep ']' = true)
    {depth left pos : Nat} (hend : pos + left = p.size) :
    (p.select keep).closingFrom (depth + 1) (p.rank keep pos)
        ((p.select keep).size - p.rank keep pos)
      = (p.closingFrom (depth + 1) pos left).map (p.rank keep) := by
  induction left generalizing depth pos with
  | zero =>
      have hsize : p.size ≤ pos := Nat.le_of_eq hend.symm
      rw [rank_of_size_le hsize, Nat.sub_self]
      rfl
  | succ left ih =>
      have hlt : pos < p.size := by omega
      obtain ⟨c, hc⟩ := exists_charAt? hlt
      have hrest : pos + 1 + left = p.size := by omega
      by_cases hkeep : keep c = true
      · have hselect := charAt?_select hc hkeep
        have hrank := rank_succ_of_keep hc hkeep
        have hleft : (p.select keep).size - p.rank keep pos
            = (p.select keep).size - p.rank keep (pos + 1) + 1 := by
          have := lt_size_of_charAt? hselect
          omega
        rw [hleft]
        rcases bracket_cases (some c) with ho | hcl | hother
        · obtain rfl : c = '[' := Option.some.inj ho
          simp only [closingFrom, hc, hselect, ← hrank]
          exact ih hrest
        · obtain rfl : c = ']' := Option.some.inj hcl
          cases depth with
          | zero => simp only [closingFrom, hc, hselect, Option.map_some]
          | succ depth =>
              simp only [closingFrom, hc, hselect, ← hrank]
              exact ih hrest
        · rw [closingFrom_of_not_bracket (by rw [hselect]; exact hother),
            closingFrom_of_not_bracket (by rw [hc]; exact hother), ← hrank]
          exact ih hrest
      · -- the selection does not see this character
        have hother : p.charAt? pos ≠ some '[' ∧ p.charAt? pos ≠ some ']' := by
          rw [hc]
          refine ⟨fun h => hkeep ?_, fun h => hkeep ?_⟩
          · rwa [Option.some.inj h]
          · rwa [Option.some.inj h]
        have hrank : p.rank keep (pos + 1) = p.rank keep pos := by
          refine rank_succ_of_not_keep fun d hd => ?_
          rw [hc] at hd
          rw [← Option.some.inj hd]
          exact Bool.eq_false_iff.mpr hkeep
        rw [closingFrom_of_not_bracket hother, ← hrank]
        exact ih hrest

/-- **Brackets find their partners also in the selection**: the scan from a
`[` ends at the rank of the position at which it ends in the whole text. -/
lemma closing?_select (hopen : keep '[' = true) (hclose : keep ']' = true)
    (hpos : p.charAt? pos = some '[') :
    (p.select keep).closing? (p.rank keep pos)
      = (p.closing? pos).map (p.rank keep) := by
  have hlt := lt_size_of_charAt? hpos
  rw [closing?_of_open (charAt?_select hpos hopen), closing?_of_open hpos,
    ← rank_succ_of_keep hpos hopen]
  exact closingFrom_select hopen hclose (by omega)

end Program

end TapeDebugger
