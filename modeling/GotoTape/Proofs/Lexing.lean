import GotoTape.Lexeme
import Mathlib.Logic.Relation
import Mathlib.Tactic.SplitIfs
/-!
# The lexer, one lexeme at a time

`lex` reads a whole text in one pass. Here the pass is taken apart. `Lexeme.read` reads the
lexeme at the front of a text, and the lexer is the walk over the positions of the text that
`read` drives, from position zero with no comment open. The states of that walk, a position with
the comment flag there, are the boundaries of the text: every lexeme of `lex` is the one read at
a boundary, and the flag at a boundary is the lexer's own comment flag there.

Main statements: `scan_cons` (the lexer reads one lexeme and goes on), `mem_lex_iff` (a lexeme of
the text is the one read at a boundary), `Boundary.flag_eq` (a position has one flag) and
`pairwise_start_lex` (lexemes start at increasing positions).
-/

namespace GotoTape
namespace Lexeme

/-- The lexeme at the front of `c :: rest`, whose first character stands at `pos`, when the
comment flag there is `inComment`; with the flag after it and the characters after it. -/
def read (pos : Nat) (inComment : Bool) (c : Char) (rest : List Char) :
    Lexeme × Bool × List Char :=
  if c = commentMark then (⟨pos, 1, .commentDelimiter⟩, !inComment, rest)
  else if inComment then
    (⟨pos, (rest.takeWhile (· != commentMark)).length + 1, .comment⟩, true,
      rest.dropWhile (· != commentMark))
  else if c = labelMark then
    match rest with
    | [] => (⟨pos, 1, .labelDef none⟩, false, [])
    | l :: more => (⟨pos, 2, .labelDef (some l)⟩, false, more)
  else if c = jumpMark then
    match rest with
    | [] => (⟨pos, 1, .jump none⟩, false, [])
    | l :: more => (⟨pos, 2, .jump (some l)⟩, false, more)
  else if isOperator c then (⟨pos, 1, .op c⟩, false, rest)
  else (⟨pos, 1, .inert c⟩, false, rest)

/-- The pass reads the lexeme at the front and goes on after it. -/
theorem scan_cons (pos : Nat) (inComment : Bool) (acc : List Lexeme) (c : Char)
    (rest : List Char) :
    scan pos inComment acc (c :: rest) =
      scan (pos + (read pos inComment c rest).1.len) (read pos inComment c rest).2.1
        ((read pos inComment c rest).1 :: acc) (read pos inComment c rest).2.2 := by
  rw [scan.eq_def, read.eq_def]
  dsimp only
  split_ifs <;> (try cases rest) <;> simp [scan.eq_1, Nat.add_assoc]

/-- Reading a lexeme consumes at least one character. -/
theorem length_rest_read_lt (pos : Nat) (inComment : Bool) (c : Char) (rest : List Char) :
    (read pos inComment c rest).2.2.length < (c :: rest).length := by
  rw [read.eq_def]
  split_ifs
  · simp
  · exact Nat.lt_succ_of_le (List.dropWhile_suffix _).length_le
  all_goals (try cases rest) <;> simp only [List.length_cons, List.length_nil] <;> omega

/-- The lexemes already read stay in front, in the order they were read. -/
theorem scan_acc (pos : Nat) (inComment : Bool) (acc : List Lexeme) (cs : List Char) :
    scan pos inComment acc cs = acc.reverse ++ scan pos inComment [] cs := by
  induction hn : cs.length using Nat.strongRecOn generalizing cs pos inComment acc with
  | ind n ih =>
    cases cs with
    | nil => simp [scan.eq_1]
    | cons c rest =>
      have hlt := length_rest_read_lt pos inComment c rest
      rw [scan_cons, scan_cons, ih _ (hn ▸ hlt) _ _ _ _ rfl,
        ih _ (hn ▸ hlt) _ _ [(read pos inComment c rest).1] _ rfl]
      simp

/-- A lexeme starts where it is read. -/
@[simp] theorem start_read (pos : Nat) (inComment : Bool) (c : Char) (rest : List Char) :
    (read pos inComment c rest).1.start = pos := by
  rw [read.eq_def]
  split_ifs <;> (try cases rest) <;> rfl

/-- Every lexeme covers at least its first character. -/
theorem one_le_len_read (pos : Nat) (inComment : Bool) (c : Char) (rest : List Char) :
    1 ≤ (read pos inComment c rest).1.len := by
  rw [read.eq_def]
  split_ifs <;> (try cases rest) <;> simp

/-- What is left after a lexeme is the text after the characters it covers. -/
theorem rest_read (pos : Nat) (inComment : Bool) (c : Char) (rest : List Char) :
    (read pos inComment c rest).2.2 = rest.drop ((read pos inComment c rest).1.len - 1) := by
  rw [read.eq_def]
  split_ifs
  · rfl
  · have h := @List.drop_left _ (rest.takeWhile (· != commentMark))
      (rest.dropWhile (· != commentMark))
    rw [List.takeWhile_append_dropWhile] at h
    simpa using h.symm
  all_goals (try cases rest) <;> rfl

/-- A lexeme covers no more than the characters there are. -/
theorem len_read_le (pos : Nat) (inComment : Bool) (c : Char) (rest : List Char) :
    (read pos inComment c rest).1.len ≤ rest.length + 1 := by
  rw [read.eq_def]
  split_ifs
  · simp
  · simpa using (List.takeWhile_prefix _).length_le
  all_goals (try cases rest) <;> simp

/-! ## Reading at a position -/

/-- The lexeme at position `pos` of `cs` when the comment flag there is `inComment`, with the flag
after it; nothing at the end of the text. -/
def readAt (cs : List Char) (pos : Nat) (inComment : Bool) : Option (Lexeme × Bool) :=
  match cs.drop pos with
  | [] => none
  | c :: rest => some ((read pos inComment c rest).1, (read pos inComment c rest).2.1)

theorem readAt_eq_none_iff {cs : List Char} {pos : Nat} {inComment : Bool} :
    readAt cs pos inComment = none ↔ cs.length ≤ pos := by
  unfold readAt
  split
  · rename_i h
    simpa using h
  · rename_i c rest h
    have hlen := congrArg List.length h
    simp only [List.length_drop, List.length_cons] at hlen
    simp only [reduceCtorEq, false_iff, Nat.not_le]
    omega

theorem readAt_of_lt {cs : List Char} {pos : Nat} (inComment : Bool) (h : pos < cs.length) :
    readAt cs pos inComment =
      some ((read pos inComment cs[pos] (cs.drop (pos + 1))).1,
        (read pos inComment cs[pos] (cs.drop (pos + 1))).2.1) := by
  rw [readAt, List.drop_eq_getElem_cons h]

section ReadAt

variable {cs : List Char} {pos : Nat} {inComment inComment' : Bool} {x : Lexeme}

/-- The text read at a position that has a lexeme. -/
theorem exists_of_readAt (h : readAt cs pos inComment = some (x, inComment')) :
    ∃ c rest, cs.drop pos = c :: rest ∧ (read pos inComment c rest).1 = x ∧
      (read pos inComment c rest).2.1 = inComment' := by
  unfold readAt at h
  split at h
  · cases h
  · rename_i c rest hd
    simp only [Option.some.injEq, Prod.mk.injEq] at h
    exact ⟨c, rest, hd, h.1, h.2⟩

theorem start_of_readAt (h : readAt cs pos inComment = some (x, inComment')) : x.start = pos := by
  obtain ⟨c, rest, -, rfl, -⟩ := exists_of_readAt h
  exact start_read pos inComment c rest

theorem one_le_len_of_readAt (h : readAt cs pos inComment = some (x, inComment')) : 1 ≤ x.len := by
  obtain ⟨c, rest, -, rfl, -⟩ := exists_of_readAt h
  exact one_le_len_read pos inComment c rest

theorem end_le_length_of_readAt (h : readAt cs pos inComment = some (x, inComment')) :
    pos + x.len ≤ cs.length := by
  obtain ⟨c, rest, hd, rfl, -⟩ := exists_of_readAt h
  have hlen := congrArg List.length hd
  have hle := len_read_le pos inComment c rest
  simp only [List.length_drop, List.length_cons] at hlen
  omega

/-- After a lexeme the text goes on at its end. -/
theorem drop_end_read {c : Char} {rest : List Char} (hd : cs.drop pos = c :: rest) :
    cs.drop (pos + (read pos inComment c rest).1.len) = (read pos inComment c rest).2.2 := by
  obtain ⟨k, hk⟩ : ∃ k, (read pos inComment c rest).1.len = k + 1 :=
    ⟨_, (Nat.succ_pred_eq_of_pos (one_le_len_read pos inComment c rest)).symm⟩
  rw [← List.drop_drop, hd, rest_read, hk, List.drop_succ_cons, Nat.add_sub_cancel]

end ReadAt

/-! ## The walk of the lexer

The lexer moves from a position with its comment flag to the end of the lexeme read there, with
the flag after it. Every lexeme covers a character, so the walk climbs, and from a state it goes
one way only. -/

/-- One lexeme further along `cs`. -/
def Advance (cs : List Char) (a b : Nat × Bool) : Prop :=
  ∃ x, readAt cs a.1 a.2 = some (x, b.2) ∧ b.1 = a.1 + x.len

/-- The states of the lexer on `cs`: the start of each lexeme with the comment flag there, and
the end of the text with the flag there. -/
def Boundary (cs : List Char) (pos : Nat) (inComment : Bool) : Prop :=
  Relation.ReflTransGen (Advance cs) (0, false) (pos, inComment)

section Walk

variable {cs : List Char}

theorem Advance.right_unique : Relator.RightUnique (Advance cs) := by
  rintro a ⟨p, d⟩ ⟨q, e⟩ ⟨x, hx, rfl⟩ ⟨y, hy, rfl⟩
  rw [hx, Option.some.injEq, Prod.mk.injEq] at hy
  obtain ⟨rfl, rfl⟩ := hy
  rfl

theorem Advance.lt {a b : Nat × Bool} (h : Advance cs a b) : a.1 < b.1 := by
  obtain ⟨x, hx, hb⟩ := h
  have := one_le_len_of_readAt hx
  omega

theorem Advance.le_length {a b : Nat × Bool} (h : Advance cs a b) : b.1 ≤ cs.length := by
  obtain ⟨x, hx, hb⟩ := h
  rw [hb]
  exact end_le_length_of_readAt hx

/-- The walk never goes back, and it stays where it is only by not moving. -/
theorem walk_le {a b : Nat × Bool} (h : Relation.ReflTransGen (Advance cs) a b) :
    a.1 ≤ b.1 ∧ (a.1 = b.1 → a = b) := by
  induction h with
  | refl => exact ⟨Nat.le_refl _, fun _ => rfl⟩
  | tail _ hbc ih =>
    have := hbc.lt
    exact ⟨by omega, fun h => by omega⟩

/-- A position has one comment flag: the lexer passes each position once. -/
theorem Boundary.flag_eq {pos : Nat} {d e : Bool} (hd : Boundary cs pos d) (he : Boundary cs pos e) :
    d = e := by
  rcases Relation.ReflTransGen.total_of_right_unique Advance.right_unique hd he with h | h
  · exact (Prod.mk.injEq .. ▸ (walk_le h).2 rfl).2
  · exact ((Prod.mk.injEq .. ▸ (walk_le h).2 rfl).2).symm

theorem Boundary.start : Boundary cs 0 false := Relation.ReflTransGen.refl

theorem Boundary.advance {pos : Nat} {d d' : Bool} {x : Lexeme} (hb : Boundary cs pos d)
    (hx : readAt cs pos d = some (x, d')) : Boundary cs (pos + x.len) d' :=
  Relation.ReflTransGen.tail hb ⟨x, hx, rfl⟩

theorem Boundary.le_length {pos : Nat} {d : Bool} (hb : Boundary cs pos d) : pos ≤ cs.length := by
  unfold Boundary at hb
  cases hb.cases_tail with
  | inl h =>
    cases h
    exact Nat.zero_le _
  | inr h =>
    obtain ⟨b, -, hb⟩ := h
    exact hb.le_length

end Walk

end Lexeme

/-- The lexemes of `cs` from position `pos` on, when the comment flag there is `inComment`. -/
def lexFrom (cs : List Char) (pos : Nat) (inComment : Bool) : List Lexeme :=
  Lexeme.scan pos inComment [] (cs.drop pos)

namespace Lexeme

variable {cs : List Char}

/-- Induction along the walk of the lexer: what holds at the end of the text, and at a state
whenever it holds after the lexeme read there, holds at every state. -/
theorem walk_induction {motive : Nat → Bool → Prop}
    (done : ∀ pos d, readAt cs pos d = none → motive pos d)
    (next : ∀ pos d x d', readAt cs pos d = some (x, d') → motive (pos + x.len) d' → motive pos d) :
    ∀ pos d, motive pos d := by
  intro pos
  induction hn : cs.length - pos using Nat.strongRecOn generalizing pos with
  | ind n ih =>
    intro d
    match hr : readAt cs pos d with
    | none => exact done pos d hr
    | some (x, d') =>
      have h1 := one_le_len_of_readAt hr
      have h2 := end_le_length_of_readAt hr
      exact next pos d x d' hr (ih _ (by omega) _ rfl d')

theorem lexFrom_of_readAt_none {pos : Nat} {d : Bool} (h : readAt cs pos d = none) :
    lexFrom cs pos d = [] := by
  rw [readAt_eq_none_iff] at h
  rw [lexFrom, List.drop_eq_nil_of_le h, scan.eq_1, List.reverse_nil]

theorem lexFrom_of_readAt_some {pos : Nat} {d d' : Bool} {x : Lexeme}
    (h : readAt cs pos d = some (x, d')) : lexFrom cs pos d = x :: lexFrom cs (pos + x.len) d' := by
  obtain ⟨c, rest, hd, rfl, rfl⟩ := exists_of_readAt h
  rw [lexFrom, hd, scan_cons, scan_acc, lexFrom, drop_end_read hd]
  rfl

/-- The lexemes from a state are those read at the states the walk reaches from it. -/
theorem mem_lexFrom_iff {x : Lexeme} :
    ∀ pos d, x ∈ lexFrom cs pos d ↔
      ∃ q e e', Relation.ReflTransGen (Advance cs) (pos, d) (q, e) ∧ readAt cs q e = some (x, e') := by
  refine @walk_induction cs _ ?_ ?_
  · intro pos d hr
    rw [lexFrom_of_readAt_none hr]
    simp only [List.not_mem_nil, false_iff, not_exists, not_and]
    intro q e e' hw hq
    cases hw.cases_head with
    | inl h =>
      cases h
      rw [hr] at hq
      cases hq
    | inr h =>
      obtain ⟨b, ⟨y, hy, -⟩, -⟩ := h
      rw [hr] at hy
      cases hy
  · intro pos d y d' hr ih
    rw [lexFrom_of_readAt_some hr, List.mem_cons, ih]
    constructor
    · rintro (rfl | ⟨q, e, e', hw, hq⟩)
      · exact ⟨pos, d, d', Relation.ReflTransGen.refl, hr⟩
      · exact ⟨q, e, e', Relation.ReflTransGen.head ⟨y, hr, rfl⟩ hw, hq⟩
    · rintro ⟨q, e, e', hw, hq⟩
      cases hw.cases_head with
      | inl h =>
        rw [Prod.mk.injEq] at h
        obtain ⟨rfl, rfl⟩ := h
        rw [hr, Option.some.injEq, Prod.mk.injEq] at hq
        exact Or.inl hq.1.symm
      | inr h =>
        obtain ⟨b, hb, hw'⟩ := h
        have : b = (pos + y.len, d') := Advance.right_unique hb ⟨y, hr, rfl⟩
        subst this
        exact Or.inr ⟨q, e, e', hw', hq⟩

/-! ## The lexemes of a text -/

theorem lex_eq_lexFrom (cs : List Char) : lex cs = lexFrom cs 0 false := rfl

/-- A lexeme of the text is the one read at a boundary, its start. -/
theorem mem_lex_iff {x : Lexeme} :
    x ∈ lex cs ↔ ∃ d d', Boundary cs x.start d ∧ readAt cs x.start d = some (x, d') := by
  rw [lex_eq_lexFrom, mem_lexFrom_iff]
  constructor
  · rintro ⟨q, e, e', hw, hq⟩
    rw [← start_of_readAt hq] at hw
    exact ⟨e, e', hw, start_of_readAt hq ▸ hq⟩
  · rintro ⟨d, d', hb, hx⟩
    exact ⟨x.start, d, d', hb, hx⟩

/-- Lexemes from a state start there or later, each after the one before. -/
theorem lexFrom_starts :
    ∀ pos d, (lexFrom cs pos d).Pairwise (fun x y => x.start < y.start) ∧
      ∀ x ∈ lexFrom cs pos d, pos ≤ x.start := by
  refine @walk_induction cs _ ?_ ?_
  · intro pos d hr
    simp [lexFrom_of_readAt_none hr]
  · intro pos d y d' hr ih
    have h1 := one_le_len_of_readAt hr
    have hy := start_of_readAt hr
    rw [lexFrom_of_readAt_some hr, List.pairwise_cons, List.forall_mem_cons]
    refine ⟨⟨fun z hz => ?_, ih.1⟩, by omega, fun z hz => ?_⟩
    · have := ih.2 z hz
      omega
    · have := ih.2 z hz
      omega

theorem pairwise_start_lex (cs : List Char) : (lex cs).Pairwise (fun x y => x.start < y.start) :=
  (lexFrom_starts 0 false).1

/-! ## What is read, character by character -/

section Kinds

variable {pos : Nat} (h : pos < cs.length)
include h

theorem readAt_commentMark (d : Bool) (hc : cs[pos] = commentMark) :
    readAt cs pos d = some (⟨pos, 1, .commentDelimiter⟩, !d) := by
  rw [readAt_of_lt d h, read.eq_def, if_pos hc]

theorem readAt_comment (hc : cs[pos] ≠ commentMark) :
    readAt cs pos true =
      some (⟨pos, ((cs.drop (pos + 1)).takeWhile (· != commentMark)).length + 1, .comment⟩, true) := by
  rw [readAt_of_lt true h, read.eq_def, if_neg hc, if_pos rfl]

theorem readAt_labelMark (hc : cs[pos] = labelMark) (h1 : pos + 1 < cs.length) :
    readAt cs pos false = some (⟨pos, 2, .labelDef (some cs[pos + 1])⟩, false) := by
  have hne : cs[pos] ≠ commentMark := by rw [hc]; decide
  rw [readAt_of_lt false h, read.eq_def, if_neg hne, if_neg Bool.false_ne_true, if_pos hc,
    List.drop_eq_getElem_cons h1]

theorem readAt_labelMark_last (hc : cs[pos] = labelMark) (h1 : cs.length ≤ pos + 1) :
    readAt cs pos false = some (⟨pos, 1, .labelDef none⟩, false) := by
  have hne : cs[pos] ≠ commentMark := by rw [hc]; decide
  rw [readAt_of_lt false h, read.eq_def, if_neg hne, if_neg Bool.false_ne_true, if_pos hc,
    List.drop_eq_nil_of_le h1]

theorem readAt_jumpMark (hc : cs[pos] = jumpMark) (h1 : pos + 1 < cs.length) :
    readAt cs pos false = some (⟨pos, 2, .jump (some cs[pos + 1])⟩, false) := by
  have hne : cs[pos] ≠ commentMark := by rw [hc]; decide
  have hnl : cs[pos] ≠ labelMark := by rw [hc]; decide
  rw [readAt_of_lt false h, read.eq_def, if_neg hne, if_neg Bool.false_ne_true, if_neg hnl, if_pos hc,
    List.drop_eq_getElem_cons h1]

theorem readAt_jumpMark_last (hc : cs[pos] = jumpMark) (h1 : cs.length ≤ pos + 1) :
    readAt cs pos false = some (⟨pos, 1, .jump none⟩, false) := by
  have hne : cs[pos] ≠ commentMark := by rw [hc]; decide
  have hnl : cs[pos] ≠ labelMark := by rw [hc]; decide
  rw [readAt_of_lt false h, read.eq_def, if_neg hne, if_neg Bool.false_ne_true, if_neg hnl, if_pos hc,
    List.drop_eq_nil_of_le h1]

theorem readAt_operator (hc : isOperator cs[pos] = true) :
    readAt cs pos false = some (⟨pos, 1, .op cs[pos]⟩, false) := by
  have hne : cs[pos] ≠ commentMark := fun he => by rw [he] at hc; contradiction
  have hnl : cs[pos] ≠ labelMark := fun he => by rw [he] at hc; contradiction
  have hnj : cs[pos] ≠ jumpMark := fun he => by rw [he] at hc; contradiction
  rw [readAt_of_lt false h, read.eq_def, if_neg hne, if_neg Bool.false_ne_true, if_neg hnl, if_neg hnj,
    if_pos hc]

theorem readAt_inert (hne : cs[pos] ≠ commentMark) (hnl : cs[pos] ≠ labelMark)
    (hnj : cs[pos] ≠ jumpMark) (hc : isOperator cs[pos] = false) :
    readAt cs pos false = some (⟨pos, 1, .inert cs[pos]⟩, false) := by
  rw [readAt_of_lt false h, read.eq_def, if_neg hne, if_neg Bool.false_ne_true, if_neg hnl, if_neg hnj,
    if_neg (by simp [hc])]

end Kinds

/-- Text inside a comment holds no comment mark. -/
theorem ne_commentMark_of_comment {pos i : Nat} (h : pos < cs.length) (hc : cs[pos] ≠ commentMark)
    (hi : pos ≤ i)
    (hi' : i < pos + (((cs.drop (pos + 1)).takeWhile (· != commentMark)).length + 1))
    (hlt : i < cs.length) : cs[i] ≠ commentMark := by
  rcases Nat.eq_or_lt_of_le hi with rfl | hgt
  · exact hc
  · obtain ⟨j, rfl⟩ : ∃ j, i = pos + 1 + j := ⟨i - (pos + 1), by omega⟩
    have hj : j < ((cs.drop (pos + 1)).takeWhile (· != commentMark)).length := by omega
    have hget := (List.takeWhile_prefix (· != commentMark)).getElem hj
    have hall := @List.all_takeWhile _ (· != commentMark) (cs.drop (pos + 1))
    rw [List.all_eq_true] at hall
    have hm := hall _ (List.getElem_mem hj)
    rw [hget, List.getElem_drop] at hm
    simpa using hm

/-- A marker reads without a label only when nothing follows it. -/
theorem rest_eq_nil_of_read_unlabelled {pos : Nat} {d : Bool} {c : Char} {rest : List Char}
    (h : (read pos d c rest).1.kind = .labelDef none ∨ (read pos d c rest).1.kind = .jump none) :
    rest = [] := by
  rw [read.eq_def] at h
  split_ifs at h <;> (try cases rest) <;> simp_all

theorem start_lt_length_of_mem_lex {x : Lexeme} (hx : x ∈ lex cs) : x.start < cs.length := by
  obtain ⟨d, d', -, hr⟩ := mem_lex_iff.1 hx
  have := end_le_length_of_readAt hr
  have := one_le_len_of_readAt hr
  omega

/-- A marker without a label stands on the last character of the text. -/
theorem start_of_unlabelled {x : Lexeme} (hx : x ∈ lex cs)
    (hk : x.kind = .labelDef none ∨ x.kind = .jump none) : x.start + 1 = cs.length := by
  obtain ⟨d, d', -, hr⟩ := mem_lex_iff.1 hx
  obtain ⟨c, rest, hd, hxr, -⟩ := exists_of_readAt hr
  rw [← hxr] at hk
  have hrest := rest_eq_nil_of_read_unlabelled hk
  subst hrest
  have hlen := congrArg List.length hd
  simp only [List.length_drop, List.length_cons, List.length_nil] at hlen
  omega

/-- A marker without a label is the last lexeme of the text. -/
theorem getLast?_lex_of_unlabelled {x : Lexeme} (hx : x ∈ lex cs)
    (hk : x.kind = .labelDef none ∨ x.kind = .jump none) : (lex cs).getLast? = some x := by
  obtain ⟨A, B, hAB⟩ := List.append_of_mem hx
  have hend := start_of_unlabelled hx hk
  have hsorted := pairwise_start_lex cs
  rw [hAB, List.pairwise_append, List.pairwise_cons] at hsorted
  cases B with
  | nil => rw [hAB, List.getLast?_append, List.getLast?_singleton]; rfl
  | cons y B =>
    have hy : y ∈ lex cs := hAB ▸ List.mem_append_right A (List.mem_cons_of_mem x List.mem_cons_self)
    have hlt := hsorted.2.1.1 y List.mem_cons_self
    have := start_lt_length_of_mem_lex hy
    omega

end Lexeme
end GotoTape
