/-
Program texts as trees of operations and loops.

* `Operation`: the six instructions that work on the data;
* `Block`: a sequence of operations and loops, the loops being blocks again;
* `Outlook`: what lies ahead at a position of a text: the block up to the end
  of the innermost loop around it, and the blocks behind the ends of the loops
  around it, from the inside out;
* `outlook?`: the outlook of a text, read from its end;
* `Block.parse?`: the tree of a text;
* `Block.parse?_of_balanced`: a text that passes the bracket check has a tree,
  and written out that tree is the text without comments and markers;
* `Program.blockAt`: the block that begins at a position, with one equation
  for each kind of character.

Reading from the end needs no search: a `]` begins a new block, and a `[`
makes a loop of the block read last and the one before it.
-/
import Mathlib.Tactic
import TapeDebugger.Proofs.Program.Balance

namespace TapeDebugger

/-! ### Trees -/

/-- An instruction that works on the data. -/
inductive Operation where
  | moveRight
  | moveLeft
  | increment
  | decrement
  | output
  | input
  deriving DecidableEq, Repr

/-- The instruction that an operation is. -/
def Operation.instruction : Operation → Instruction
  | moveRight => .moveRight
  | moveLeft => .moveLeft
  | increment => .increment
  | decrement => .decrement
  | output => .output
  | input => .input

/-- A structured program. -/
inductive Block where
  /-- Nothing is left to do. -/
  | done
  /-- An operation, and what follows it. -/
  | operation (op : Operation) (rest : Block)
  /-- A loop, and what follows it. -/
  | loop (body rest : Block)
  deriving DecidableEq, Repr

/-- The characters of a structured program. -/
def Block.chars : Block → List Char
  | done => []
  | operation op rest => op.instruction.toChar :: rest.chars
  | loop body rest => '[' :: (body.chars ++ ']' :: rest.chars)

/-! ### Parsing -/

/-- What a character is to the structure of a program. -/
inductive Lexeme where
  | operation (op : Operation)
  | opening
  | closing
  /-- A comment or a breakpoint marker. -/
  | silent
  deriving DecidableEq, Repr

/-- The lexeme of what stands at a position. -/
def Lexeme.ofInstruction? : Option Instruction → Lexeme
  | some .moveRight => operation .moveRight
  | some .moveLeft => operation .moveLeft
  | some .increment => operation .increment
  | some .decrement => operation .decrement
  | some .output => operation .output
  | some .input => operation .input
  | some .loopOpen => opening
  | some .loopClose => closing
  | some .breakpoint => silent
  | none => silent

/-- The lexeme of a character. -/
def Lexeme.ofChar (c : Char) : Lexeme :=
  ofInstruction? (Instruction.ofChar? c)

/-- Whether a character belongs to the structure of a program. -/
def Lexeme.isStructural (c : Char) : Bool :=
  ofChar c ≠ silent

/-- The character of a lexeme; a silent one has none of its own. -/
def Lexeme.char? : Lexeme → Option Char
  | operation op => some op.instruction.toChar
  | opening => some '['
  | closing => some ']'
  | silent => none

/-- A lexeme that is not silent determines its character. -/
lemma Lexeme.eq_of_char? {c d : Char} (h : (ofChar c).char? = some d) :
    c = d := by
  rw [ofChar] at h
  cases hc : Instruction.ofChar? c with
  | none =>
      rw [hc] at h
      exact absurd h (by simp [ofInstruction?, char?])
  | some i =>
      rw [← Instruction.toChar_of_ofChar? hc]
      rw [hc] at h
      cases i <;>
        simp only [ofInstruction?, char?, Option.some.injEq, reduceCtorEq] at h
        <;> exact h

/-- Only brackets have the lexemes of brackets. -/
lemma Lexeme.not_bracket {c : Char} (hopen : ofChar c ≠ opening)
    (hclose : ofChar c ≠ closing) : c ≠ '[' ∧ c ≠ ']' := by
  constructor
  · rintro rfl
    exact hopen rfl
  · rintro rfl
    exact hclose rfl

/-- What lies ahead at a position of a text. -/
structure Outlook where
  /-- The block up to the end of the innermost loop around the position. -/
  here : Block
  /-- The blocks behind the ends of the loops around the position, from the
  inside out. -/
  outer : List Block
  deriving DecidableEq, Repr

/-- The outlook one character earlier. A loop needs an end, so there must be
a block behind it. -/
def Outlook.extend (o : Outlook) : Lexeme → Option Outlook
  | .operation op => some ⟨.operation op o.here, o.outer⟩
  | .silent => some o
  | .closing => some ⟨.done, o.here :: o.outer⟩
  | .opening =>
      match o.outer with
      | rest :: outer => some ⟨.loop o.here rest, outer⟩
      | [] => none

/-- What is no bracket leaves the loops around a position as they are. -/
lemma Outlook.extend_of_not_bracket (o : Outlook) {l : Lexeme}
    (hopen : l ≠ .opening) (hclose : l ≠ .closing) :
    ∃ here, o.extend l = some ⟨here, o.outer⟩ := by
  cases l with
  | operation op => exact ⟨.operation op o.here, rfl⟩
  | silent => exact ⟨o.here, rfl⟩
  | opening => exact absurd rfl hopen
  | closing => exact absurd rfl hclose

/-- The outlook at the beginning of a text, `none` if a loop has no end. -/
def outlook? : List Char → Option Outlook
  | [] => some ⟨.done, []⟩
  | c :: rest => (outlook? rest).bind (·.extend (Lexeme.ofChar c))

lemma outlook?_cons {c : Char} {rest : List Char} {o : Outlook}
    (h : outlook? rest = some o) :
    outlook? (c :: rest) = o.extend (Lexeme.ofChar c) := by
  rw [outlook?, h, Option.bind_some]

/-- The tree of a text, `none` if its brackets do not match. -/
def Block.parse? (text : String) : Option Block :=
  match outlook? text.toList with
  | some ⟨tree, []⟩ => some tree
  | _ => none

/-! ### The tree of a balanced text -/

/-- A text whose check succeeds with `depth` brackets open before it closes
just these. -/
lemma outlook?_of_balanced {depth pos : Nat} {text : List Char}
    (h : imbalanceFrom depth pos text = none) :
    ∃ o, outlook? text = some o ∧ o.outer.length = depth := by
  induction text generalizing depth pos with
  | nil =>
      rw [imbalanceFrom] at h
      have hdepth : depth = 0 := by
        by_contra hne
        simp [hne] at h
      exact ⟨⟨.done, []⟩, rfl, hdepth.symm⟩
  | cons c rest ih =>
      cases hlex : Lexeme.ofChar c with
      | opening =>
          obtain rfl : c = '[' := Lexeme.eq_of_char? (by rw [hlex]; rfl)
          obtain ⟨⟨body, outer⟩, ho, hlen⟩ := ih h
          obtain ⟨b, bs, rfl⟩ := List.exists_cons_of_length_eq_add_one hlen
          refine ⟨⟨.loop body b, bs⟩, ?_, by simpa using hlen⟩
          rw [outlook?_cons ho, hlex]
          rfl
      | closing =>
          obtain rfl : c = ']' := Lexeme.eq_of_char? (by rw [hlex]; rfl)
          cases depth with
          | zero => exact absurd h (by simp [imbalanceFrom])
          | succ outer =>
              have hrest : imbalanceFrom outer (pos + 1) rest = none := h
              obtain ⟨o, ho, hlen⟩ := ih hrest
              refine ⟨⟨.done, o.here :: o.outer⟩, ?_, by simp [hlen]⟩
              rw [outlook?_cons ho, hlex]
              rfl
      | operation _ | silent =>
          have hopen : Lexeme.ofChar c ≠ .opening := by simp [hlex]
          have hclose : Lexeme.ofChar c ≠ .closing := by simp [hlex]
          obtain ⟨hc, hc'⟩ := Lexeme.not_bracket hopen hclose
          rw [imbalanceFrom_cons_of_not_bracket hc hc'] at h
          obtain ⟨o, ho, hlen⟩ := ih h
          obtain ⟨here, hext⟩ := o.extend_of_not_bracket hopen hclose
          exact ⟨⟨here, o.outer⟩, by rw [outlook?_cons ho, hext], hlen⟩

/-- Nothing of the structure of a text is lost in its outlook. -/
lemma chars_of_outlook? {text : List Char} {o : Outlook}
    (h : outlook? text = some o) :
    text.filter Lexeme.isStructural
      = o.here.chars ++ (o.outer.map fun b => ']' :: b.chars).flatten := by
  induction text generalizing o with
  | nil =>
      rw [outlook?, Option.some.injEq] at h
      rw [← h]
      rfl
  | cons c rest ih =>
      rw [outlook?, Option.bind_eq_some_iff] at h
      obtain ⟨o', ho', hext⟩ := h
      have hrest := ih ho'
      by_cases hsilent : Lexeme.ofChar c = .silent
      · rw [hsilent, Outlook.extend, Option.some.injEq] at hext
        rw [List.filter_cons_of_neg (by simp [Lexeme.isStructural, hsilent]),
          hrest, hext]
      · rw [List.filter_cons_of_pos (by simp [Lexeme.isStructural, hsilent]),
          hrest]
        cases hlex : Lexeme.ofChar c with
        | silent => exact absurd hlex hsilent
        | operation op =>
            rw [hlex, Outlook.extend, Option.some.injEq] at hext
            rw [← hext, Lexeme.eq_of_char? (c := c) (by rw [hlex]; rfl)]
            rfl
        | closing =>
            rw [hlex, Outlook.extend, Option.some.injEq] at hext
            rw [← hext, Lexeme.eq_of_char? (c := c) (by rw [hlex]; rfl)]
            rfl
        | opening =>
            obtain ⟨body, outer⟩ := o'
            rw [hlex, Outlook.extend] at hext
            cases outer with
            | nil => exact absurd hext (by simp)
            | cons b outer =>
                rw [Option.some.injEq] at hext
                rw [← hext, Lexeme.eq_of_char? (c := c) (by rw [hlex]; rfl)]
                simp [Block.chars]

/-- A balanced text has a tree, with nothing ahead of it but that tree. The
tree has the characters of the text that are no comments or markers. -/
lemma Block.parse?_of_balanced {text : String} (h : imbalance? text = none) :
    ∃ tree, outlook? text.toList = some ⟨tree, []⟩ ∧
      Block.parse? text = some tree ∧
      tree.chars = text.toList.filter Lexeme.isStructural := by
  obtain ⟨⟨tree, outer⟩, ho, hlen⟩ := outlook?_of_balanced h
  obtain rfl := List.eq_nil_of_length_eq_zero hlen
  refine ⟨tree, ho, by rw [Block.parse?, ho], ?_⟩
  rw [chars_of_outlook? ho]
  simp

/-! ### Blocks at positions -/

namespace Program

variable {p : Program}

/-- The lexeme at a position; behind the text it is silent. -/
def lexemeAt (p : Program) (pos : Nat) : Lexeme :=
  Lexeme.ofInstruction? (p.instructionAt? pos)

lemma lexemeAt_of_charAt? {pos : Nat} {c : Char}
    (h : p.charAt? pos = some c) : p.lexemeAt pos = Lexeme.ofChar c := by
  rw [lexemeAt, instructionAt?, h]
  rfl

lemma lexemeAt_of_size_le {pos : Nat} (h : p.size ≤ pos) :
    p.lexemeAt pos = .silent := by
  rw [lexemeAt, instructionAt?_eq_none_of_size_le h]
  rfl

/-- A lexeme that is not silent stands where its character stands. -/
lemma charAt?_of_lexemeAt {pos : Nat} {c : Char}
    (h : (p.lexemeAt pos).char? = some c) : p.charAt? pos = some c := by
  cases hd : p.charAt? pos with
  | none =>
      rw [lexemeAt_of_size_le (charAt?_eq_none_iff.mp hd)] at h
      exact absurd h (by simp [Lexeme.char?])
  | some d =>
      rw [lexemeAt_of_charAt? hd] at h
      rw [Lexeme.eq_of_char? h]

/-- The outlook at a position of a program. -/
def outlookAt? (p : Program) (pos : Nat) : Option Outlook :=
  outlook? (p.charsFrom pos)

/-- The outlook at a position is that behind it, extended by the lexeme that
stands there. -/
lemma outlookAt?_eq_bind (p : Program) (pos : Nat) :
    p.outlookAt? pos = (p.outlookAt? (pos + 1)).bind (·.extend (p.lexemeAt pos)) := by
  cases hc : p.charAt? pos with
  | some c =>
      rw [outlookAt?, charsFrom_of_charAt? hc, lexemeAt_of_charAt? hc]
      rfl
  | none =>
      have hsize := charAt?_eq_none_iff.mp hc
      rw [outlookAt?, outlookAt?, charsFrom_of_size_le hsize,
        charsFrom_of_size_le (by omega), lexemeAt_of_size_le hsize]
      rfl

/-- Every position of the program has an outlook: no loop lacks its end. -/
def Structured (p : Program) : Prop :=
  ∀ pos, ∃ o, p.outlookAt? pos = some o

lemma structured_of_balanced {text : String} (h : imbalance? text = none) :
    (ofString text).Structured := by
  intro pos
  induction pos with
  | zero =>
      obtain ⟨o, ho, -⟩ := outlook?_of_balanced h
      exact ⟨o, by rw [outlookAt?, charsFrom_zero_ofString, ho]⟩
  | succ pos ih =>
      obtain ⟨o, ho⟩ := ih
      rw [outlookAt?_eq_bind, Option.bind_eq_some_iff] at ho
      obtain ⟨o', ho', -⟩ := ho
      exact ⟨o', ho'⟩

/-- A scan that ends at `j` with `depth` loops to close beyond the innermost
one passes the ends of that many loops of the outlook. -/
lemma outlookAt?_of_closingFrom {depth pos left j : Nat} {o : Outlook}
    (hscan : p.closingFrom (depth + 1) pos left = some j)
    (ho : p.outlookAt? pos = some o) :
    ∃ o', p.outlookAt? (j + 1) = some o' ∧
      o.outer.drop depth = o'.here :: o'.outer := by
  induction left generalizing depth pos o with
  | zero => simp [closingFrom] at hscan
  | succ left ih =>
      rw [outlookAt?_eq_bind, Option.bind_eq_some_iff] at ho
      obtain ⟨next, hnext, hext⟩ := ho
      rcases bracket_cases (p.charAt? pos) with hopen | hclose | hother
      · rw [lexemeAt_of_charAt? hopen] at hext
        simp only [closingFrom, hopen] at hscan
        obtain ⟨o', ho', hdrop⟩ := ih hscan hnext
        obtain ⟨body, outer⟩ := next
        cases outer with
        | nil => exact absurd hext (by simp [Outlook.extend, Lexeme.ofChar,
            Instruction.ofChar?, Lexeme.ofInstruction?])
        | cons rest outer =>
            obtain rfl : ⟨.loop body rest, outer⟩ = o := Option.some.inj hext
            exact ⟨o', ho', hdrop⟩
      · rw [lexemeAt_of_charAt? hclose] at hext
        obtain rfl : ⟨.done, next.here :: next.outer⟩ = o := Option.some.inj hext
        cases depth with
        | zero =>
            simp only [closingFrom, hclose, Option.some.injEq] at hscan
            rw [← hscan]
            exact ⟨next, hnext, rfl⟩
        | succ depth =>
            simp only [closingFrom, hclose] at hscan
            obtain ⟨o', ho', hdrop⟩ := ih hscan hnext
            exact ⟨o', ho', hdrop⟩
      · have hscan' : p.closingFrom (depth + 1) (pos + 1) left = some j := by
          rwa [closingFrom_of_not_bracket hother] at hscan
        have houter : o.outer = next.outer := by
          have hopen : p.lexemeAt pos ≠ .opening := fun h =>
            hother.1 (charAt?_of_lexemeAt (by rw [h]; rfl))
          have hclose : p.lexemeAt pos ≠ .closing := fun h =>
            hother.2 (charAt?_of_lexemeAt (by rw [h]; rfl))
          obtain ⟨here, hsame⟩ := next.extend_of_not_bracket hopen hclose
          obtain rfl : ⟨here, next.outer⟩ = o :=
            Option.some.inj (hsame.symm.trans hext)
          rfl
        rw [houter]
        exact ih hscan' hnext

/-- The block that begins at a position. -/
def blockAt (p : Program) (pos : Nat) : Block :=
  match p.outlookAt? pos with
  | some o => o.here
  | none => .done

lemma blockAt_of_outlookAt? {pos : Nat} {o : Outlook}
    (h : p.outlookAt? pos = some o) : p.blockAt pos = o.here := by
  rw [blockAt, h]

/-- A comment or a marker adds nothing to the block behind it. -/
lemma blockAt_of_silent {pos : Nat} (h : p.lexemeAt pos = .silent) :
    p.blockAt (pos + 1) = p.blockAt pos := by
  have heq : p.outlookAt? pos = p.outlookAt? (pos + 1) := by
    rw [outlookAt?_eq_bind, h]
    cases p.outlookAt? (pos + 1) <;> rfl
  rw [blockAt, blockAt, heq]

lemma blockAt_of_operation (hp : p.Structured) {pos : Nat} {op : Operation}
    (h : p.lexemeAt pos = .operation op) :
    p.blockAt pos = .operation op (p.blockAt (pos + 1)) := by
  obtain ⟨o, ho⟩ := hp (pos + 1)
  rw [blockAt_of_outlookAt? ho]
  refine blockAt_of_outlookAt? (o := ⟨.operation op o.here, o.outer⟩) ?_
  rw [outlookAt?_eq_bind, ho, h]
  rfl

/-- A block ends at the `]` of the loop around it. -/
lemma blockAt_of_close (hp : p.Structured) {pos : Nat}
    (h : p.charAt? pos = some ']') : p.blockAt pos = .done := by
  obtain ⟨o, ho⟩ := hp (pos + 1)
  refine blockAt_of_outlookAt? (o := ⟨.done, o.here :: o.outer⟩) ?_
  rw [outlookAt?_eq_bind, ho, lexemeAt_of_charAt? h]
  rfl

lemma blockAt_of_size_le {pos : Nat} (h : p.size ≤ pos) :
    p.blockAt pos = .done := by
  rw [blockAt, outlookAt?, charsFrom_of_size_le h]
  rfl

/-- A block that begins with a `[` begins with a loop: its body is the block
behind the `[`, and the block behind the partner of the `[` follows it. -/
lemma blockAt_of_partner (hp : p.Structured) {i j : Nat}
    (h : p.Partner i j) :
    p.blockAt i = .loop (p.blockAt (i + 1)) (p.blockAt (j + 1)) := by
  have hopen := h.open_lt.1
  have hscan : p.closingFrom (0 + 1) (i + 1) (p.size - (i + 1)) = some j := by
    rw [Nat.zero_add, ← closing?_of_open hopen]
    exact (closing?_eq_some_iff hopen).mpr h
  obtain ⟨⟨body, outer⟩, ho⟩ := hp (i + 1)
  obtain ⟨next, hnext, houter⟩ := outlookAt?_of_closingFrom hscan ho
  obtain rfl : outer = next.here :: next.outer := houter
  rw [blockAt_of_outlookAt? ho, blockAt_of_outlookAt? hnext]
  refine blockAt_of_outlookAt? (o := ⟨.loop body next.here, next.outer⟩) ?_
  rw [outlookAt?_eq_bind, ho, lexemeAt_of_charAt? hopen]
  rfl

/-- Every bracket has its partner, and every position has its outlook. -/
structure WellNested (p : Program) : Prop extends p.Matched where
  structured : p.Structured

lemma wellNested_of_balanced {text : String} (h : imbalance? text = none) :
    (ofString text).WellNested :=
  ⟨matched_of_balanced h, structured_of_balanced h⟩

end Program

end TapeDebugger
