import GotoTape.Proofs.Alignment
/-!
# Partners of loop brackets

The bracket map of a program that passed the pre-scan is the matching of its loop brackets, as
the loop depth gives it: the loop opened by a `[` lexeme is closed by the first lexeme after it at
which the depth comes back to where it stood before the `[` (`Closes`). The map pairs exactly
these brackets, in both directions, and holds nothing at any other position: not at brackets in
comments or label operands, not at any other character, not past the end of the text. It counts
one pair for every `[` lexeme, and its pairs nest without crossing.

Main statement: `partner_spec`.
-/

namespace GotoTape
namespace Lexeme

/-- The loop depth that the lexemes `xs` add: the loops they open less the loops they close. -/
def depth (xs : List Lexeme) : Int := opens xs - closes xs

/-- In `xs` the bracket at `j` closes the loop that the bracket at `i` opens: the lexeme at `i` is
a `[`, and the lexeme at `j` is a `]` and the first one after it at which the depth comes back to
its level before the `[`. -/
def Closes (xs : List Lexeme) (i j : Nat) : Prop :=
  ∃ A o body c C, xs = A ++ o :: (body ++ c :: C) ∧ o.kind = .op '[' ∧ o.start = i ∧
    c.kind = .op ']' ∧ c.start = j ∧ depth (o :: (body ++ [c])) = 0 ∧
    ∀ k ≤ body.length, depth (o :: body.take k) ≠ 0

theorem depth_open {o : Lexeme} (ho : o.kind = .op '[') (xs : List Lexeme) :
    depth (o :: xs) = depth xs + 1 := by
  simp [depth, ho]
  omega

theorem depth_append_close {c : Lexeme} (hc : c.kind = .op ']') (xs : List Lexeme) :
    depth (xs ++ [c]) = depth xs - 1 := by
  simp [depth, hc]
  omega

/-- A `]` after a balanced stretch is where the loop opened before it comes back to its level. -/
theorem Matched.closes {xs : List Lexeme} {i j : Nat} (h : Matched xs i j) : Closes xs i j := by
  obtain ⟨A, o, body, c, C, he, ho, hc, hi, hj, hb⟩ := h
  refine ⟨A, o, body, c, C, he, ho, hi, hc, hj, ?_, fun k _ => ?_⟩
  · rw [depth_open ho, depth_append_close hc, depth, hb.closes_eq]
    omega
  · have hle := hb.closes_take_le k
    rw [depth_open ho, depth]
    omega

/-- The depth after a `[` comes back to its level at one lexeme only, the first. -/
theorem returns_unique {o c c' : Lexeme} {body body' C C' : List Lexeme}
    (he : body ++ c :: C = body' ++ c' :: C') (h : depth (o :: (body ++ [c])) = 0)
    (hfirst' : ∀ k ≤ body'.length, depth (o :: body'.take k) ≠ 0) : body'.length ≤ body.length := by
  refine Nat.le_of_not_lt fun hlt => hfirst' (body.length + 1) hlt ?_
  -- the first `body.length + 1` lexemes after the `[` are `body` and `c`, on either side
  have hL : (body ++ c :: C).take (body.length + 1) = body ++ [c] := by
    rw [List.take_append, List.take_of_length_le (by omega), Nat.add_sub_cancel_left,
      List.take_succ_cons, List.take_zero]
  have hR : (body' ++ c' :: C').take (body.length + 1) = body'.take (body.length + 1) :=
    List.take_append_of_le_length hlt
  rw [← hR, ← he, hL]
  exact h

theorem Closes.unique_decomposition {xs : List Lexeme} {A o body c C A' o' body' c' C'}
    (he : xs = A ++ o :: (body ++ c :: C)) (he' : xs = A' ++ o' :: (body' ++ c' :: C'))
    (hs : xs.Pairwise (fun a b => a.start < b.start)) (hstart : o.start = o'.start)
    (h : depth (o :: (body ++ [c])) = 0)
    (hfirst : ∀ k ≤ body.length, depth (o :: body.take k) ≠ 0)
    (h' : depth (o' :: (body' ++ [c'])) = 0)
    (hfirst' : ∀ k ≤ body'.length, depth (o' :: body'.take k) ≠ 0) : c = c' := by
  obtain ⟨-, rfl, hrest⟩ := eq_of_start_eq hs he he' hstart
  have h₁ := returns_unique hrest h hfirst'
  have h₂ := returns_unique hrest.symm h' hfirst
  obtain ⟨-, hcC⟩ := List.append_inj hrest (Nat.le_antisymm h₂ h₁)
  exact (List.cons.inj hcC).1

/-- In a balanced sequence, a `[` and the lexeme where the depth first comes back are a loop. -/
theorem closes_iff_matched {xs : List Lexeme} (hb : Balanced xs)
    (hs : xs.Pairwise (fun a b => a.start < b.start)) {i j : Nat} :
    Closes xs i j ↔ Matched xs i j := by
  refine ⟨fun h => ?_, Matched.closes⟩
  obtain ⟨A, o, body, c, C, he, ho, rfl, hc, rfl, hret, hfirst⟩ := h
  have hmem : o ∈ xs := by rw [he]; simp
  obtain ⟨j', hj'⟩ := (hb.exists_matched hmem).1 ho
  obtain ⟨A', o', body', c', C', he', -, ho's, -, hc's, hret', hfirst'⟩ := hj'.closes
  have hcc := Closes.unique_decomposition he he' hs ho's.symm hret hfirst hret' hfirst'
  subst hcc
  rw [← hc's] at hj'
  exact hj'

/-! ## Positions between two brackets -/

section Between

variable {A body C : List Lexeme} {o c y : Lexeme}
  (hs : (A ++ o :: (body ++ c :: C)).Pairwise (fun a b => a.start < b.start))
include hs

theorem start_lt_of_mem_body (hy : y ∈ body) : o.start < y.start ∧ y.start < c.start := by
  have h₁ := List.pairwise_cons.1 (List.pairwise_append.1 hs).2.1
  have h₂ := List.pairwise_append.1 h₁.2
  exact ⟨h₁.1 y (List.mem_append_left _ hy), h₂.2.2 y hy c List.mem_cons_self⟩

/-- In a sorted sequence, what lies strictly between two lexemes is what stands between them. -/
theorem mem_body_of_between (hy : y ∈ A ++ o :: (body ++ c :: C)) (h₁ : o.start < y.start)
    (h₂ : y.start < c.start) : y ∈ body := by
  have h₀ := List.pairwise_append.1 hs
  have h₁' := List.pairwise_cons.1 h₀.2.1
  have h₂' := List.pairwise_cons.1 (List.pairwise_append.1 h₁'.2).2.1
  rcases List.mem_append.1 hy with hA | hy
  · have := h₀.2.2 y hA o List.mem_cons_self
    omega
  rcases List.mem_cons.1 hy with rfl | hy
  · omega
  rcases List.mem_append.1 hy with hB | hy
  · exact hB
  rcases List.mem_cons.1 hy with rfl | hC
  · omega
  · have := h₂'.1 y hC
    omega

end Between

/-! ## Counting the paired positions -/

/-- Whether a lexeme is a loop bracket. -/
def isBracket (x : Lexeme) : Bool := x.kind = .op '[' || x.kind = .op ']'

theorem countP_isBracket (xs : List Lexeme) : xs.countP isBracket = opens xs + closes xs := by
  induction xs with
  | nil => rfl
  | cons x xs ih =>
    rw [List.countP_cons, ih, opens_cons, closes_cons]
    by_cases ho : x.kind = .op '['
    · have hc : x.kind ≠ .op ']' := by rw [ho]; decide
      simp [isBracket, ho]
      omega
    · by_cases hc : x.kind = .op ']'
      · simp [isBracket, hc]
        omega
      · simp [isBracket, ho, hc]

end Lexeme

/-- A list of options holds something at as many places as there are positions in a list of
distinct positions that names exactly those places. -/
theorem List.countP_isSome_eq_length {ps : List (Option Nat)} {S : List Nat} (hS : S.Nodup)
    (h : ∀ i, (ps[i]?.join).isSome ↔ i ∈ S) : ps.countP Option.isSome = S.length := by
  have hps : ps = (List.range ps.length).map fun i => ps[i]?.join := by
    refine List.ext_getElem (by simp) fun i h₁ h₂ => ?_
    simp [List.getElem?_eq_getElem h₁]
  have hperm : ((List.range ps.length).filter fun i => (ps[i]?.join).isSome).Perm S := by
    refine (List.perm_ext_iff_of_nodup (List.nodup_range.filter _) hS).2 fun i => ?_
    rw [List.mem_filter, List.mem_range, ← h i]
    constructor
    · exact fun hi => hi.2
    · intro hi
      refine ⟨?_, hi⟩
      by_contra hge
      rw [List.getElem?_eq_none (Nat.le_of_not_lt hge)] at hi
      cases hi
  rw [hps, List.countP_map, List.countP_eq_length_filter]
  exact hperm.length_eq

open Lexeme

namespace Program

section Checked

variable {cs : List Char} {limits : Limits} {p : Program} (hp : Checked cs limits p)
include hp

theorem Checked.partner_iff_closes (i j : Nat) :
    p.brackets.partner i = some j ↔ Closes (lex cs) i j ∨ Closes (lex cs) j i := by
  have hb := hp.scannable.balanced
  have hs := pairwise_start_lex cs
  rw [hp.brackets.partner, closes_iff_matched hb hs, closes_iff_matched hb hs]

/-- The positions with a partner are the starts of the bracket lexemes. -/
theorem Checked.partner_isSome_iff (i : Nat) :
    (p.brackets.partner i).isSome ↔
      ∃ x ∈ lex cs, x.start = i ∧ (x.kind = .op '[' ∨ x.kind = .op ']') := by
  constructor
  · intro hi
    obtain ⟨j, hj⟩ := Option.isSome_iff_exists.1 hi
    rcases (hp.brackets.partner i j).1 hj with hm | hm
    · obtain ⟨⟨o, ho, hos, hok⟩, -⟩ := hm.mem
      exact ⟨o, ho, hos, Or.inl hok⟩
    · obtain ⟨-, ⟨c, hc, hcs, hck⟩⟩ := hm.mem
      exact ⟨c, hc, hcs, Or.inr hck⟩
  · rintro ⟨x, hx, rfl, hk⟩
    exact hp.partner_isSome hx hk

theorem Checked.partner_eq_none_of_le {i : Nat} (hi : cs.length ≤ i) :
    p.brackets.partner i = none := by
  refine Option.not_isSome_iff_eq_none.1 fun hsm => ?_
  obtain ⟨x, hx, rfl, -⟩ := (hp.partner_isSome_iff i).1 hsm
  have := start_lt_length_of_mem_lex hx
  omega

/-- The map counts one pair for each `[` lexeme: the paired positions are the starts of the
bracket lexemes, and there are as many `]` lexemes as `[` ones. -/
theorem Checked.pairs_eq : p.brackets.pairs = opens (lex cs) := by
  have hs := pairwise_start_lex cs
  have hnodup : (((lex cs).filter isBracket).map Lexeme.start).Nodup :=
    ((hs.sublist (List.filter_sublist (p := isBracket))).map Lexeme.start
      fun _ _ h => h).imp Nat.ne_of_lt
  have hcount := @List.countP_isSome_eq_length p.brackets.partners.toList _ hnodup fun i => by
    rw [Array.getElem?_toList]
    change (p.brackets.partner i).isSome ↔ _
    rw [hp.partner_isSome_iff]
    simp only [List.mem_map, List.mem_filter, isBracket, Bool.or_eq_true, decide_eq_true_eq]
    constructor
    · rintro ⟨x, hx, rfl, hk⟩
      exact ⟨x, ⟨hx, hk⟩, rfl⟩
    · rintro ⟨x, ⟨hx, hk⟩, rfl⟩
      exact ⟨x, hx, rfl, hk⟩
  rw [BracketMap.pairs, hcount, List.length_map, ← List.countP_eq_length_filter,
    countP_isBracket, hp.scannable.balanced.closes_eq]
  omega

/-- A loop opened inside another one is closed inside it. -/
theorem Checked.closes_nest {i j i' j' : Nat} (hij : Closes (lex cs) i j)
    (hij' : Closes (lex cs) i' j') (hii' : i < i') (hi'j : i' < j) : j' < j := by
  have hb := hp.scannable.balanced
  have hs := pairwise_start_lex cs
  obtain ⟨A, o, body, c, C, he, ho, hc, hos, hcs, hbody⟩ := (closes_iff_matched hb hs).1 hij
  have hm' := (closes_iff_matched hb hs).1 hij'
  obtain ⟨⟨o', ho'm, ho's, ho'k⟩, -⟩ := hm'.mem
  rw [he] at hs ho'm
  -- the `[` at `i'` lies in the body of the outer loop, and its loop closes there
  have ho'body := mem_body_of_between hs ho'm (by omega) (by omega)
  obtain ⟨j'', hj''⟩ := (hbody.exists_matched ho'body).1 ho'k
  have hlt : j'' < j := by
    obtain ⟨-, c'', hc'', rfl, -⟩ := hj''.mem
    have := (start_lt_of_mem_body hs hc'').2
    omega
  have hm'' : Matched (lex cs) i' j'' := by
    have hsplit : lex cs = (A ++ [o]) ++ (body ++ c :: C) := by rw [he]; simp
    rw [hsplit, ← ho's]
    exact (hj''.append_right (c :: C)).append_left (A ++ [o])
  -- the map has one partner for `i'`
  have hpj : p.brackets.partner i' = some j'' := (hp.brackets.partner _ _).2 (Or.inl hm'')
  have hpj' : p.brackets.partner i' = some j' := (hp.brackets.partner _ _).2 (Or.inl hm')
  rw [hpj] at hpj'
  cases hpj'
  exact hlt

end Checked

end Program

/-- The bracket map of a program that passed the pre-scan pairs each `[` lexeme with the `]`
lexeme at which the loop depth first comes back to its level, in both directions, and nothing
else: every position that is no bracket lexeme, in a comment, in a label operand or past the end
of the text, has no partner. It counts one pair per `[` lexeme, and two pairs never cross. -/
theorem partner_spec {cs : List Char} {limits : Limits} {p : Program}
    (h : Program.check cs limits = .ok p) :
    (∀ i j, p.brackets.partner i = some j ↔ Closes (lex cs) i j ∨ Closes (lex cs) j i) ∧
      (∀ i, (p.brackets.partner i).isSome ↔
        ∃ x ∈ lex cs, x.start = i ∧ (x.kind = .op '[' ∨ x.kind = .op ']')) ∧
      (∀ i, cs.length ≤ i → p.brackets.partner i = none) ∧
      p.brackets.pairs = opens (lex cs) ∧
      ∀ i j i' j', Closes (lex cs) i j → Closes (lex cs) i' j' → i < i' → i' < j → j' < j := by
  have hp := Program.Checked.of_check h
  exact ⟨hp.partner_iff_closes, hp.partner_isSome_iff, fun _ hi => hp.partner_eq_none_of_le hi,
    hp.pairs_eq, fun _ _ _ _ hij hij' => hp.closes_nest hij hij'⟩

/-- The lexemes of a loop whose body holds a `]` in a comment and a `]` as a label. -/
theorem lex_guarded_loop :
    lex ['[', '#', ']', '#', '^', ']', ']'] =
      [⟨0, 1, .op '['⟩, ⟨1, 1, .commentDelimiter⟩, ⟨2, 1, .comment⟩, ⟨3, 1, .commentDelimiter⟩,
        ⟨4, 2, .labelDef (some ']')⟩, ⟨6, 1, .op ']'⟩] := by
  simp [lex, Lexeme.scan_cons, Lexeme.read, Lexeme.scan.eq_1, commentMark, labelMark, jumpMark,
    isOperator]

theorem check_guarded_loop :
    Program.check ['[', '#', ']', '#', '^', ']', ']'] {} =
      .ok ⟨#['[', '#', ']', '#', '^', ']', ']'],
        ⟨#[some 6, none, none, none, none, none, some 0], []⟩, ⟨20, #[(']', 6)]⟩⟩ := by
  rw [Program.check, Program.scan, lex_guarded_loop]
  rfl

/-- The loop of that text is paired end to end, and its other `]` characters are not. -/
theorem guarded_loop_partners :
    ∃ p, Program.check ['[', '#', ']', '#', '^', ']', ']'] {} = .ok p ∧
      (∀ i j, p.brackets.partner i = some j ↔
        Closes (lex ['[', '#', ']', '#', '^', ']', ']']) i j ∨
          Closes (lex ['[', '#', ']', '#', '^', ']', ']']) j i) ∧
      (∀ i, (p.brackets.partner i).isSome ↔
        ∃ x ∈ lex ['[', '#', ']', '#', '^', ']', ']'], x.start = i ∧
          (x.kind = .op '[' ∨ x.kind = .op ']')) ∧
      (∀ i, 7 ≤ i → p.brackets.partner i = none) ∧
      p.brackets.pairs = opens (lex ['[', '#', ']', '#', '^', ']', ']']) ∧
      ∀ i j i' j', Closes (lex ['[', '#', ']', '#', '^', ']', ']']) i j →
        Closes (lex ['[', '#', ']', '#', '^', ']', ']']) i' j' → i < i' → i' < j → j' < j :=
  ⟨_, check_guarded_loop, partner_spec check_guarded_loop⟩

end GotoTape
