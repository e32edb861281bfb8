import GotoTape.Lexeme
/-!
# Nesting of loops

Loop brackets among the lexemes of a program, as a grammar. A sequence of lexemes is balanced
when it is made of lexemes that are no bracket and of loops, each an opening bracket, a balanced
body and a closing bracket. Reading a sequence from the left, the loops still open are the
opening brackets that split it into balanced stretches (`Pending`), and the loop opened at `i`
is closed at `j` when the lexemes between are balanced (`Matched`).

Counting says the rest: a balanced sequence has as many closing brackets as opening ones, and no
stretch from its start has more. From that, the decomposition of a sequence at an opening bracket
followed by a balanced tail is unique (`eq_of_open_balanced`), which is what makes the loop open at
the end of a reading, and the partner of a bracket, well defined.

Main statements: `Balanced.closes_take_le`, `eq_of_open_balanced`, `Pending.close` and
`Pending.not_matched`.
-/

namespace GotoTape
namespace Lexeme

/-- The number of lexemes that open a loop. -/
def opens (xs : List Lexeme) : Nat := xs.countP (fun x => decide (x.kind = .op '['))

/-- The number of lexemes that close a loop. -/
def closes (xs : List Lexeme) : Nat := xs.countP (fun x => decide (x.kind = .op ']'))

@[simp] theorem opens_nil : opens [] = 0 := rfl

@[simp] theorem closes_nil : closes [] = 0 := rfl

@[simp] theorem opens_append (xs ys : List Lexeme) : opens (xs ++ ys) = opens xs + opens ys :=
  List.countP_append

@[simp] theorem closes_append (xs ys : List Lexeme) :
    closes (xs ++ ys) = closes xs + closes ys :=
  List.countP_append

@[simp] theorem opens_cons (x : Lexeme) (xs : List Lexeme) :
    opens (x :: xs) = opens xs + if x.kind = .op '[' then 1 else 0 := by
  simp [opens, List.countP_cons]

@[simp] theorem closes_cons (x : Lexeme) (xs : List Lexeme) :
    closes (x :: xs) = closes xs + if x.kind = .op ']' then 1 else 0 := by
  simp [closes, List.countP_cons]

/-- Loop brackets balanced: lexemes that are no bracket, and loops made of an opening bracket,
a balanced body and a closing bracket. -/
inductive Balanced : List Lexeme → Prop
  | nil : Balanced []
  | plain {x : Lexeme} {xs : List Lexeme} (ho : x.kind ≠ .op '[') (hc : x.kind ≠ .op ']')
      (h : Balanced xs) : Balanced (x :: xs)
  | loop {o c : Lexeme} {body xs : List Lexeme} (ho : o.kind = .op '[') (hc : c.kind = .op ']')
      (hb : Balanced body) (h : Balanced xs) : Balanced (o :: (body ++ c :: xs))

namespace Balanced

theorem append {xs ys : List Lexeme} (hx : Balanced xs) (hy : Balanced ys) :
    Balanced (xs ++ ys) := by
  induction hx with
  | nil => exact hy
  | plain ho hc _ ih => exact plain ho hc ih
  | loop ho hc hb _ _ ih =>
    rw [List.cons_append, List.append_assoc, List.cons_append]
    exact loop ho hc hb ih

theorem snoc_plain {xs : List Lexeme} {x : Lexeme} (h : Balanced xs) (ho : x.kind ≠ .op '[')
    (hc : x.kind ≠ .op ']') : Balanced (xs ++ [x]) :=
  h.append (plain ho hc nil)

/-- A balanced body between two brackets is a loop. -/
theorem wrap {o c : Lexeme} {body : List Lexeme} (ho : o.kind = .op '[') (hc : c.kind = .op ']')
    (h : Balanced body) : Balanced (o :: (body ++ [c])) :=
  loop ho hc h nil

theorem closes_eq {xs : List Lexeme} (h : Balanced xs) : closes xs = opens xs := by
  induction h with
  | nil => rfl
  | plain ho hc _ ih => simp [ho, hc, ih]
  | loop ho hc _ _ ihb ih =>
    simp [ho, hc, ihb, ih]
    omega

/-- No stretch from the start of a balanced sequence closes more loops than it opens. -/
theorem closes_take_le {xs : List Lexeme} (h : Balanced xs) (n : Nat) :
    closes (xs.take n) ≤ opens (xs.take n) := by
  induction h generalizing n with
  | nil => simp
  | plain ho hc _ ih =>
    cases n with
    | zero => simp
    | succ n => simpa [ho, hc] using ih n
  | @loop o c body rest ho hc hb _ ihb ih =>
    cases n with
    | zero => simp
    | succ n =>
      rw [List.take_succ_cons, List.take_append]
      by_cases hn : n ≤ body.length
      · have hz : n - body.length = 0 := by omega
        have := ihb n
        simp [hz, ho]
        omega
      · obtain ⟨k, hk⟩ : ∃ k, n - body.length = k + 1 := ⟨n - body.length - 1, by omega⟩
        rw [List.take_of_length_le (by omega), hk, List.take_succ_cons]
        have := ih k
        simp [ho, hc, hb.closes_eq]
        omega

end Balanced

/-- An opening bracket followed by a balanced tail never sits inside a balanced sequence: its
loop would stay open. -/
theorem not_balanced_open_balanced {M B : List Lexeme} {o : Lexeme} (h : Balanced (M ++ o :: B))
    (ho : o.kind = .op '[') (hB : Balanced B) : False := by
  have htot := h.closes_eq
  have hpre := h.closes_take_le M.length
  rw [List.take_left] at hpre
  have hB' := hB.closes_eq
  simp [ho] at htot
  omega

/-- A sequence splits at most one way into a head, an opening bracket and a balanced tail. -/
theorem eq_of_open_balanced {A A' B B' : List Lexeme} {o o' : Lexeme}
    (h : A ++ o :: B = A' ++ o' :: B') (ho : o.kind = .op '[') (ho' : o'.kind = .op '[')
    (hB : Balanced B) (hB' : Balanced B') : A = A' ∧ o = o' ∧ B = B' := by
  rcases List.append_eq_append_iff.1 h with ⟨a', rfl, h'⟩ | ⟨c', rfl, h'⟩
  · cases a' with
    | nil =>
      rw [List.nil_append, List.cons.injEq] at h'
      exact ⟨by simp, h'.1, h'.2⟩
    | cons z a'' =>
      rw [List.cons_append, List.cons.injEq] at h'
      rw [h'.2] at hB
      exact (not_balanced_open_balanced hB ho' hB').elim
  · cases c' with
    | nil =>
      rw [List.nil_append, List.cons.injEq] at h'
      exact ⟨by simp, h'.1.symm, h'.2.symm⟩
    | cons z c'' =>
      rw [List.cons_append, List.cons.injEq] at h'
      rw [h'.2] at hB'
      exact (not_balanced_open_balanced hB' ho hB).elim

/-! ## Loops left open -/

/-- Reading `xs` from the left leaves the loops opened at `os` open, the most recent first:
`xs` is balanced stretches separated by those opening brackets. -/
inductive Pending : List Lexeme → List Nat → Prop
  | balanced {xs : List Lexeme} (h : Balanced xs) : Pending xs []
  | opened {xs ys : List Lexeme} {o : Lexeme} {os : List Nat} (h : Pending xs os)
      (ho : o.kind = .op '[') (hy : Balanced ys) : Pending (xs ++ o :: ys) (o.start :: os)

namespace Pending

variable {xs : List Lexeme} {os : List Nat}

theorem closes_add_length (h : Pending xs os) : closes xs + os.length = opens xs := by
  induction h with
  | balanced h => simpa using h.closes_eq
  | opened _ ho hy ih =>
    have := hy.closes_eq
    simp [ho]
    omega

theorem balanced_iff : Pending xs [] ↔ Balanced xs :=
  ⟨fun h => by cases h with | balanced h => exact h, balanced⟩

/-- With a loop open, what was read is not balanced. -/
theorem not_balanced {o : Nat} (h : Pending xs (o :: os)) : ¬ Balanced xs := by
  intro hb
  have h1 := h.closes_add_length
  have h2 := hb.closes_eq
  rw [List.length_cons] at h1
  omega

theorem append_balanced {ys : List Lexeme} (h : Pending xs os) (hy : Balanced ys) :
    Pending (xs ++ ys) os := by
  cases h with
  | balanced h => exact balanced (h.append hy)
  | opened h ho hz =>
    rw [List.append_assoc, List.cons_append]
    exact opened h ho (hz.append hy)

/-- An opening bracket opens one more loop. -/
theorem snoc_open {x : Lexeme} (h : Pending xs os) (hx : x.kind = .op '[') :
    Pending (xs ++ [x]) (x.start :: os) :=
  opened h hx .nil

/-- A lexeme that is no bracket leaves the open loops as they are. -/
theorem snoc_plain {x : Lexeme} (h : Pending xs os) (ho : x.kind ≠ .op '[')
    (hc : x.kind ≠ .op ']') : Pending (xs ++ [x]) os :=
  h.append_balanced (.plain ho hc .nil)

/-- A closing bracket closes the most recent open loop. -/
theorem snoc_close {x : Lexeme} {o : Nat} (h : Pending xs (o :: os)) (hx : x.kind = .op ']') :
    Pending (xs ++ [x]) os := by
  cases h with
  | opened h ho hy =>
    rw [List.append_assoc, List.cons_append]
    exact h.append_balanced (Balanced.wrap ho hx hy)

end Pending

/-! ## Partners -/

/-- In `xs`, the loop opened by the bracket at `i` is closed by the bracket at `j`: the lexemes
between the two are balanced. -/
def Matched (xs : List Lexeme) (i j : Nat) : Prop :=
  ∃ A o body c C, xs = A ++ o :: (body ++ c :: C) ∧ o.kind = .op '[' ∧ c.kind = .op ']' ∧
    o.start = i ∧ c.start = j ∧ Balanced body

namespace Matched

variable {xs : List Lexeme} {i j : Nat}

theorem append_right (h : Matched xs i j) (ys : List Lexeme) : Matched (xs ++ ys) i j := by
  obtain ⟨A, o, body, c, C, rfl, ho, hc, hi, hj, hb⟩ := h
  exact ⟨A, o, body, c, C ++ ys, by simp, ho, hc, hi, hj, hb⟩

theorem append_left (h : Matched xs i j) (ys : List Lexeme) : Matched (ys ++ xs) i j := by
  obtain ⟨A, o, body, c, C, rfl, ho, hc, hi, hj, hb⟩ := h
  exact ⟨ys ++ A, o, body, c, C ++ [], by simp, ho, hc, hi, hj, hb⟩

/-- A pair in a sequence with one more lexeme either ends at that lexeme or was there before. -/
theorem split_snoc {x o c : Lexeme} {A body C : List Lexeme}
    (he : xs ++ [x] = A ++ o :: (body ++ c :: C)) :
    (C = [] ∧ c = x ∧ xs = A ++ o :: body) ∨ ∃ C', C = C' ++ [x] ∧ xs = A ++ o :: (body ++ c :: C') := by
  rcases List.eq_nil_or_concat C with rfl | ⟨C', z, rfl⟩
  · have hr : A ++ o :: (body ++ [c]) = (A ++ o :: body) ++ [c] := by simp
    rw [hr] at he
    obtain ⟨h₁, h₂⟩ := List.append_inj' he rfl
    simp only [List.cons.injEq, and_true] at h₂
    exact Or.inl ⟨rfl, h₂.symm, h₁⟩
  · have hr : A ++ o :: (body ++ c :: C'.concat z) = (A ++ o :: (body ++ c :: C')) ++ [z] := by
      simp
    rw [hr] at he
    obtain ⟨h₁, h₂⟩ := List.append_inj' he rfl
    simp only [List.cons.injEq, and_true] at h₂
    exact Or.inr ⟨C', by rw [h₂, List.concat_eq_append], h₁⟩

/-- Only a closing bracket ends a loop, so a last lexeme that is none adds no pair. -/
theorem of_snoc {x : Lexeme} (h : Matched (xs ++ [x]) i j) (hx : x.kind ≠ .op ']') :
    Matched xs i j := by
  obtain ⟨A, o, body, c, C, he, ho, hc, hi, hj, hb⟩ := h
  rcases split_snoc he with ⟨-, rfl, -⟩ | ⟨C', -, rfl⟩
  · exact absurd hc hx
  · exact ⟨A, o, body, c, C', rfl, ho, hc, hi, hj, hb⟩

/-- A closing bracket pairs with the most recent open loop and with nothing else. -/
theorem snoc_close_iff {x : Lexeme} {o : Nat} {os : List Nat} (hp : Pending xs (o :: os))
    (hx : x.kind = .op ']') : Matched (xs ++ [x]) i j ↔ Matched xs i j ∨ (i = o ∧ j = x.start) := by
  cases hp with
  | @opened xs' ys o' _ hp ho hy =>
    constructor
    · rintro ⟨A, o'', body, c, C, he, ho'', hc, hi, hj, hb⟩
      rcases split_snoc he with ⟨-, rfl, he'⟩ | ⟨C', -, he'⟩
      · -- the pair ends at `x`, so it is the loop left open
        obtain ⟨-, rfl, -⟩ := eq_of_open_balanced he' ho ho'' hy hb
        exact Or.inr ⟨hi.symm, hj.symm⟩
      · exact Or.inl ⟨A, o'', body, c, C', he', ho'', hc, hi, hj, hb⟩
    · rintro (h | ⟨rfl, rfl⟩)
      · exact h.append_right [x]
      · exact ⟨xs', o', ys, x, [], by simp, ho, hx, rfl, rfl, hy⟩

/-- The two ends of a pair are brackets of the sequence. -/
theorem mem (h : Matched xs i j) :
    (∃ o ∈ xs, o.start = i ∧ o.kind = .op '[') ∧ (∃ c ∈ xs, c.start = j ∧ c.kind = .op ']') := by
  obtain ⟨A, o, body, c, C, rfl, ho, hc, hi, hj, -⟩ := h
  exact ⟨⟨o, by simp, hi, ho⟩, ⟨c, by simp, hj, hc⟩⟩

end Matched

/-- In a balanced sequence every bracket has its partner. -/
theorem Balanced.exists_matched {xs : List Lexeme} (h : Balanced xs) {x : Lexeme} (hx : x ∈ xs) :
    (x.kind = .op '[' → ∃ j, Matched xs x.start j) ∧ (x.kind = .op ']' → ∃ i, Matched xs i x.start) := by
  induction h with
  | nil => simp at hx
  | @plain y ys ho hc _ ih =>
    rcases List.mem_cons.1 hx with rfl | hx
    · exact ⟨fun h => absurd h ho, fun h => absurd h hc⟩
    · obtain ⟨h₁, h₂⟩ := ih hx
      exact ⟨fun h => (h₁ h).imp fun j hj => hj.append_left [y],
        fun h => (h₂ h).imp fun i hi => hi.append_left [y]⟩
  | @loop o c body rest ho hc _ _ ihb ih =>
    have hsplit : o :: (body ++ c :: rest) = [o] ++ (body ++ [c]) ++ rest := by simp
    rcases List.mem_cons.1 hx with rfl | hx
    · refine ⟨fun _ => ⟨c.start, [], x, body, c, rest, rfl, ho, hc, rfl, rfl, ‹_›⟩, fun h => ?_⟩
      rw [ho] at h
      cases h
    rcases List.mem_append.1 hx with hx | hx
    · obtain ⟨h₁, h₂⟩ := ihb hx
      rw [hsplit]
      exact ⟨fun h => (h₁ h).imp fun j hj => (hj.append_right [c]).append_left [o] |>.append_right rest,
        fun h => (h₂ h).imp fun i hi => (hi.append_right [c]).append_left [o] |>.append_right rest⟩
    rcases List.mem_cons.1 hx with rfl | hx
    · refine ⟨fun h => ?_, fun _ => ⟨o.start, [], o, body, x, rest, rfl, ho, hc, rfl, rfl, ‹_›⟩⟩
      rw [hc] at h
      cases h
    · obtain ⟨h₁, h₂⟩ := ih hx
      rw [show o :: (body ++ c :: rest) = (o :: (body ++ [c])) ++ rest by simp]
      exact ⟨fun h => (h₁ h).imp fun j hj => hj.append_left _,
        fun h => (h₂ h).imp fun i hi => hi.append_left _⟩

/-- A closing bracket right after a balanced stretch cannot sit inside a balanced sequence. -/
theorem not_balanced_close {body C : List Lexeme} {c : Lexeme} (h : Balanced (body ++ c :: C))
    (hb : Balanced body) (hc : c.kind = .op ']') : False := by
  have hpre := h.closes_take_le (body.length + 1)
  rw [List.take_append, List.take_of_length_le (by omega), Nat.add_sub_cancel_left,
    List.take_succ_cons, List.take_zero] at hpre
  have := hb.closes_eq
  simp [hc] at hpre
  omega

/-! ## Positions

Lexemes of a text start at increasing positions, so a position names at most one of them, and
the pairs of a sequence can be told apart by positions alone. -/

section Sorted

variable {L : List Lexeme} (hs : L.Pairwise (fun a b => a.start < b.start))
include hs

/-- A position names at most one place of a sorted sequence. -/
theorem eq_of_start_eq {A B A' B' : List Lexeme} {x x' : Lexeme} (h : L = A ++ x :: B)
    (h' : L = A' ++ x' :: B') (hx : x.start = x'.start) : A = A' ∧ x = x' ∧ B = B' := by
  subst h
  rcases List.append_eq_append_iff.1 h' with ⟨a', rfl, he⟩ | ⟨c', rfl, he⟩
  · cases a' with
    | nil =>
      rw [List.nil_append, List.cons.injEq] at he
      exact ⟨by simp, he.1, he.2⟩
    | cons z a'' =>
      rw [List.cons_append, List.cons.injEq] at he
      obtain ⟨rfl, rfl⟩ := he
      rw [List.pairwise_append, List.pairwise_cons] at hs
      have := hs.2.1.1 x' (by simp)
      omega
  · cases c' with
    | nil =>
      rw [List.nil_append, List.cons.injEq] at he
      exact ⟨by simp, he.1.symm, he.2.symm⟩
    | cons z c'' =>
      rw [List.cons_append, List.cons.injEq] at he
      obtain ⟨rfl, rfl⟩ := he
      rw [List.append_assoc, List.cons_append, List.pairwise_append, List.pairwise_cons] at hs
      have := hs.2.1.1 x (by simp)
      omega

/-- The loop left open most recently has no partner yet. -/
theorem Pending.not_matched {o j : Nat} {os : List Nat} (hp : Pending L (o :: os)) :
    ¬ Matched L o j := by
  rintro ⟨A, o', body, c, C, he, ho', hc, hi, -, hb⟩
  cases hp with
  | opened _ ho hy =>
    obtain ⟨-, -, rfl⟩ := eq_of_start_eq hs rfl he hi.symm
    exact not_balanced_close hy hb hc

/-- A position that starts an opening bracket ends no loop. -/
theorem not_matched_of_open {x : Lexeme} {i : Nat} (hx : x ∈ L) (ho : x.kind = .op '[') :
    ¬ Matched L i x.start := by
  rintro ⟨A, o', body, c, C, he, -, hc, -, hj, -⟩
  obtain ⟨A', B', hx'⟩ := List.append_of_mem hx
  have he' : L = (A ++ o' :: body) ++ c :: C := by rw [he]; simp
  obtain ⟨-, rfl, -⟩ := eq_of_start_eq hs hx' he' hj.symm
  rw [ho] at hc
  cases hc

end Sorted

end Lexeme
end GotoTape
