import GotoTape.Program
import GotoTape.Proofs.Lexing
import GotoTape.Proofs.Nesting
import Mathlib.Data.Finset.Card
/-!
# The pre-scan

What the pass of the pre-scan holds after each lexeme, and what the pre-scan decides.

After the lexemes `P` the bracket map has the length of the text, the loops of `P` left open on
its stack, and as partners exactly the pairs of `P` (`BracketMap.Reads`); the label table holds
every label `P` defines, each with the target of its first definition, and no more than it may
(`LabelTable.Reads`). One lexeme keeps both, or makes the pass fail.

The pre-scan accepts a text exactly when it fits the program capacity, no label marker ends it,
its loops are balanced and it defines no more distinct labels than the table holds
(`Scannable`). Otherwise its fault is the first one met (`ScanFault`): a text that is too long
fails before anything is read; then the lexemes are read from the left and the first of a stray
closing bracket, a label that does not fit and a marker without a label wins; a loop left open is
reported only once every lexeme has passed, at the opening bracket read last.

Main statements: `check_eq_ok_iff` and `check_eq_error_iff`, together `check_spec`.
-/

namespace GotoTape
namespace Lexeme

/-- The labels that the definitions among `xs` name, in order, repeats included. -/
def labels (xs : List Lexeme) : List Char :=
  xs.filterMap fun x =>
    match x.kind with
    | .labelDef (some l) => some l
    | _ => none

@[simp] theorem labels_nil : labels [] = [] := rfl

@[simp] theorem labels_append (xs ys : List Lexeme) : labels (xs ++ ys) = labels xs ++ labels ys :=
  List.filterMap_append

theorem labels_cons_def {x : Lexeme} {l : Char} (xs : List Lexeme) (hx : x.kind = .labelDef (some l)) :
    labels (x :: xs) = l :: labels xs := by
  simp [labels, hx]

theorem labels_cons_other {x : Lexeme} (xs : List Lexeme) (hx : ∀ l, x.kind ≠ .labelDef (some l)) :
    labels (x :: xs) = labels xs := by
  rw [labels, List.filterMap_cons]
  split
  · rfl
  · rename_i l h
    split at h
    · rename_i l' hk
      exact absurd hk (hx l')
    · cases h

/-- The target of label `l` after the lexemes `xs`: two past its first definition. -/
def FirstDef (xs : List Lexeme) (l : Char) (p : Nat) : Prop :=
  ∃ A x B, xs = A ++ x :: B ∧ x.kind = .labelDef (some l) ∧ l ∉ labels A ∧ p = x.start + 2

theorem exists_firstDef_iff {xs : List Lexeme} {l : Char} :
    (∃ p, FirstDef xs l p) ↔ l ∈ labels xs := by
  constructor
  · rintro ⟨p, A, x, B, rfl, hx, -, -⟩
    simp [labels_cons_def B hx]
  · induction xs with
    | nil => simp
    | cons y ys ih =>
      intro hl
      by_cases hy : y.kind = .labelDef (some l)
      · exact ⟨y.start + 2, [], y, ys, rfl, hy, by simp, rfl⟩
      · -- a definition of another label, or no definition: the first one is further on
        have hl' : l ∈ labels ys := by
          by_cases hd : ∃ l', y.kind = .labelDef (some l')
          · obtain ⟨l', hl'⟩ := hd
            rw [labels_cons_def ys hl', List.mem_cons] at hl
            rcases hl with rfl | hl
            · exact absurd hl' hy
            · exact hl
          · rwa [labels_cons_other ys (fun l' h => hd ⟨l', h⟩)] at hl
        obtain ⟨p, A, x, B, rfl, hx, hA, hp⟩ := ih hl'
        refine ⟨p, y :: A, x, B, rfl, hx, ?_, hp⟩
        by_cases hd : ∃ l', y.kind = .labelDef (some l')
        · obtain ⟨l', hl'⟩ := hd
          rw [labels_cons_def A hl', List.mem_cons, not_or]
          exact ⟨fun h => hy (h ▸ hl'), hA⟩
        · rwa [labels_cons_other A (fun l' h => hd ⟨l', h⟩)]

/-- A lexeme that defines no label adds no first definition. -/
theorem firstDef_snoc_other {xs : List Lexeme} {x : Lexeme} {l : Char} {p : Nat}
    (hx : ∀ l', x.kind ≠ .labelDef (some l')) : FirstDef (xs ++ [x]) l p ↔ FirstDef xs l p := by
  constructor
  · rintro ⟨A, y, B, he, hy, hA, hp⟩
    rcases List.eq_nil_or_concat B with rfl | ⟨B', z, rfl⟩
    · obtain ⟨-, h⟩ := List.append_inj' he rfl
      simp only [List.cons.injEq, and_true] at h
      exact absurd (h ▸ hy) (hx l)
    · rw [List.concat_eq_append, ← List.cons_append, ← List.append_assoc] at he
      obtain ⟨he, -⟩ := List.append_inj' he rfl
      exact ⟨A, y, B', he, hy, hA, hp⟩
  · rintro ⟨A, y, B, rfl, hy, hA, hp⟩
    exact ⟨A, y, B ++ [x], by simp, hy, hA, hp⟩

/-- A definition adds the first definition of its label when the label is new. -/
theorem firstDef_snoc_def {xs : List Lexeme} {x : Lexeme} {l₀ l : Char} {p : Nat}
    (hx : x.kind = .labelDef (some l₀)) :
    FirstDef (xs ++ [x]) l p ↔ FirstDef xs l p ∨ (l = l₀ ∧ l₀ ∉ labels xs ∧ p = x.start + 2) := by
  constructor
  · rintro ⟨A, y, B, he, hy, hA, hp⟩
    rcases List.eq_nil_or_concat B with rfl | ⟨B', z, rfl⟩
    · obtain ⟨rfl, h⟩ := List.append_inj' he rfl
      simp only [List.cons.injEq, and_true] at h
      subst h
      rw [hx, LexemeKind.labelDef.injEq, Option.some.injEq] at hy
      exact Or.inr ⟨hy.symm, hy ▸ hA, hp⟩
    · rw [List.concat_eq_append, ← List.cons_append, ← List.append_assoc] at he
      obtain ⟨he, -⟩ := List.append_inj' he rfl
      exact Or.inl ⟨A, y, B', he, hy, hA, hp⟩
  · rintro (⟨A, y, B, rfl, hy, hA, hp⟩ | ⟨rfl, hl, hp⟩)
    · exact ⟨A, y, B ++ [x], by simp, hy, hA, hp⟩
    · exact ⟨xs, x, [], rfl, hx, hl, hp⟩

/-- Defining a label adds one distinct label exactly when the label is new. -/
theorem card_labels_snoc_def {P : List Lexeme} {x : Lexeme} {l : Char}
    (hx : x.kind = .labelDef (some l)) :
    (labels (P ++ [x])).toFinset.card =
      if l ∈ labels P then (labels P).toFinset.card else (labels P).toFinset.card + 1 := by
  rw [labels_append, labels_cons_def [] hx, labels_nil, List.toFinset_append]
  simp only [List.toFinset_cons, List.toFinset_nil, insert_empty_eq, Finset.union_singleton]
  split
  · rw [Finset.card_insert_of_mem (List.mem_toFinset.2 ‹_›)]
  · rw [Finset.card_insert_of_notMem (mt List.mem_toFinset.1 ‹_›)]

theorem card_labels_le_append (P R : List Lexeme) :
    (labels P).toFinset.card ≤ (labels (P ++ R)).toFinset.card := by
  rw [labels_append, List.toFinset_append]
  exact Finset.card_le_card Finset.subset_union_left

end Lexeme

namespace LabelTable

open Lexeme

theorem lookup_push (t : LabelTable) (l l' : Char) (p : Nat) :
    ({ t with entries := t.entries.push (l, p) } : LabelTable).lookup l' =
      (t.lookup l').or (if l = l' then some p else none) := by
  simp only [lookup, Array.find?_push]
  cases t.entries.find? (fun e => e.1 == l') <;> by_cases h : l = l' <;> simp [h]

/-- The table after the lexemes `P`, for a capacity of `cap` labels: every label `P` defines,
with the target of its first definition, and no more labels than fit. -/
structure Reads (cap : Nat) (P : List Lexeme) (t : LabelTable) : Prop where
  capacity : t.capacity = cap
  lookup : ∀ l p, t.lookup l = some p ↔ FirstDef P l p
  size : t.size = (labels P).toFinset.card
  size_le : t.size ≤ cap

namespace Reads

variable {cap : Nat} {P : List Lexeme} {t : LabelTable}

theorem new (cap : Nat) : Reads cap [] (LabelTable.new cap) where
  capacity := rfl
  lookup l p := by
    simp only [LabelTable.new, LabelTable.lookup, Array.find?_empty, Option.map_none, reduceCtorEq,
      false_iff]
    rintro ⟨A, x, B, h, -⟩
    simp at h
  size := rfl
  size_le := Nat.zero_le _

theorem isSome_lookup_iff (hr : Reads cap P t) (l : Char) :
    (t.lookup l).isSome ↔ l ∈ labels P := by
  rw [← exists_firstDef_iff, Option.isSome_iff_exists]
  exact exists_congr fun p => hr.lookup l p

/-- A lexeme that defines no label changes nothing the table stands for. -/
theorem snoc_other (hr : Reads cap P t) {x : Lexeme} (hx : ∀ l, x.kind ≠ .labelDef (some l)) :
    Reads cap (P ++ [x]) t where
  capacity := hr.capacity
  lookup l p := (hr.lookup l p).trans (firstDef_snoc_other hx).symm
  size := by rw [hr.size, labels_append, labels_cons_other [] hx, labels_nil, List.append_nil]
  size_le := hr.size_le

/-- A label defined again is accepted and changes nothing. -/
theorem register_of_mem (hr : Reads cap P t) {x : Lexeme} {l : Char}
    (hx : x.kind = .labelDef (some l)) (hl : l ∈ labels P) :
    t.register l (x.start + 2) x.start = .ok (false, t) ∧ Reads cap (P ++ [x]) t := by
  have hs : (t.lookup l).isSome := (hr.isSome_lookup_iff l).2 hl
  refine ⟨by simp [register, hs], hr.capacity, fun l' p => ?_, ?_, hr.size_le⟩
  · rw [hr.lookup, firstDef_snoc_def hx]
    exact ⟨Or.inl, fun h => h.resolve_right fun h' => h'.2.1 hl⟩
  · rw [card_labels_snoc_def hx, if_pos hl, hr.size]

/-- A new label into a full table is the fault of its definition. -/
theorem register_full (hr : Reads cap P t) {x : Lexeme} {l : Char} (hl : l ∉ labels P)
    (hfull : (labels P).toFinset.card = cap) :
    t.register l (x.start + 2) x.start = .error (.labelTableFull x.start l cap) := by
  have hs : (t.lookup l).isSome = false := by
    rw [Bool.eq_false_iff, ne_eq, hr.isSome_lookup_iff l]
    exact hl
  have hcap : t.entries.size = cap := hr.size.trans hfull
  simp [register, hs, hcap, hr.capacity]

/-- A new label that fits is added with the target after its definition. -/
theorem register_new (hr : Reads cap P t) {x : Lexeme} {l : Char}
    (hx : x.kind = .labelDef (some l)) (hl : l ∉ labels P) (hfit : (labels P).toFinset.card < cap) :
    t.register l (x.start + 2) x.start =
        .ok (true, { t with entries := t.entries.push (l, x.start + 2) }) ∧
      Reads cap (P ++ [x]) { t with entries := t.entries.push (l, x.start + 2) } := by
  have hs : (t.lookup l).isSome = false := by
    rw [Bool.eq_false_iff, ne_eq, hr.isSome_lookup_iff l]
    exact hl
  have hsize : t.entries.size = (labels P).toFinset.card := hr.size
  have hcap : ¬ t.capacity ≤ t.entries.size := by
    rw [hr.capacity, hsize]
    omega
  refine ⟨by simp [register, hs, hcap], hr.capacity, fun l' p => ?_, ?_, ?_⟩
  · rw [lookup_push, firstDef_snoc_def hx]
    by_cases he : l = l'
    · subst he
      have hn : t.lookup l = none := by simpa using hs
      have hnf : ∀ p, ¬ FirstDef P l p := fun p h => hl (exists_firstDef_iff.1 ⟨p, h⟩)
      simp [hn, hnf, hl, eq_comm]
    · simp [he, hr.lookup, Ne.symm he]
  · simp only [LabelTable.size, Array.size_push]
    rw [card_labels_snoc_def hx, if_neg hl, hsize]
  · simp only [LabelTable.size, Array.size_push]
    omega

end Reads

end LabelTable
namespace Lexeme

/-- The innermost loop left open was opened by a bracket followed only by balanced lexemes. -/
theorem Pending.exists_last_open {xs : List Lexeme} {o : Nat} {os : List Nat}
    (h : Pending xs (o :: os)) :
    ∃ A y B, xs = A ++ y :: B ∧ y.start = o ∧ y.kind = .op '[' ∧ Balanced B := by
  cases h with
  | opened _ ho hy => exact ⟨_, _, _, rfl, rfl, ho, hy⟩

/-- A loop left open was opened by a bracket of what was read. -/
theorem Pending.exists_mem {xs : List Lexeme} {o : Nat} {os : List Nat} (h : Pending xs (o :: os)) :
    ∃ y ∈ xs, y.start = o ∧ y.kind = .op '[' := by
  obtain ⟨A, y, B, rfl, hy, ho, -⟩ := h.exists_last_open
  exact ⟨y, by simp, hy, ho⟩

end Lexeme

namespace BracketMap

open Lexeme

/-- The map after the lexemes `P` of a text of `len` characters: as long as the text, the loops
of `P` left open on its stack, and as partners exactly the pairs of `P`. -/
structure Reads (len : Nat) (P : List Lexeme) (m : BracketMap) : Prop where
  size : m.partners.size = len
  pending : Pending P m.pending
  partner : ∀ i j, m.partner i = some j ↔ Matched P i j ∨ Matched P j i

theorem partner_setTwo {m : BracketMap} {o c : Nat} (ho : o < m.partners.size)
    (hc : c < (m.partners.set o (some c) ho).size) (i : Nat) :
    ({ partners := (m.partners.set o (some c) ho).set c (some o) hc, pending := m.pending.tail } :
      BracketMap).partner i = if c = i then some o else if o = i then some c else m.partner i := by
  simp only [partner, Array.getElem?_set]
  split_ifs <;> rfl

namespace Reads

variable {len : Nat} {P : List Lexeme} {m : BracketMap} {x : Lexeme}

theorem withLen (len : Nat) : Reads len [] (BracketMap.withLen len) where
  size := Array.size_replicate
  pending := .balanced .nil
  partner i j := by
    simp only [BracketMap.withLen, BracketMap.partner, Array.getElem?_replicate]
    constructor
    · intro h
      split at h <;> cases h
    · rintro (⟨A, _, _, _, _, h, -⟩ | ⟨A, _, _, _, _, h, -⟩) <;> simp at h

/-- A lexeme that is no closing bracket adds no pair. -/
theorem partner_snoc (hr : Reads len P m) (hx : x.kind ≠ .op ']') (i j : Nat) :
    m.partner i = some j ↔ Matched (P ++ [x]) i j ∨ Matched (P ++ [x]) j i := by
  rw [hr.partner]
  exact or_congr ⟨fun h => h.append_right [x], fun h => h.of_snoc hx⟩
    ⟨fun h => h.append_right [x], fun h => h.of_snoc hx⟩

theorem openAt (hr : Reads len P m) (hx : x.kind = .op '[') :
    Reads len (P ++ [x]) (m.openAt x.start) where
  size := hr.size
  pending := hr.pending.snoc_open hx
  partner := hr.partner_snoc (by rw [hx]; decide)

theorem snoc_plain (hr : Reads len P m) (ho : x.kind ≠ .op '[') (hc : x.kind ≠ .op ']') :
    Reads len (P ++ [x]) m where
  size := hr.size
  pending := hr.pending.snoc_plain ho hc
  partner := hr.partner_snoc hc

/-- A closing bracket with no loop open is the fault of the text, and everything before it is
balanced. -/
theorem close_nil (hr : Reads len P m) (hp : m.pending = []) (ip : Nat) :
    m.close ip = .error (.fault (.unbalanced ip .closing)) ∧ Balanced P := by
  have hb := hr.pending
  rw [hp] at hb
  exact ⟨by simp [close, hp], Pending.balanced_iff.1 hb⟩

/-- A closing bracket with a loop open pairs with the most recent one. -/
theorem close_cons (hr : Reads len P m) (hx : x.kind = .op ']') {o : Nat} {rest : List Nat}
    (hp : m.pending = o :: rest) (hs : (P ++ [x]).Pairwise (fun a b => a.start < b.start))
    (hlt : ∀ y ∈ P ++ [x], y.start < len) :
    ∃ m', m.close x.start = .ok m' ∧ Reads len (P ++ [x]) m' := by
  have hpen : Pending P (o :: rest) := hp ▸ hr.pending
  obtain ⟨y, hy, rfl, hyo⟩ := hpen.exists_mem
  have hsP : P.Pairwise (fun a b => a.start < b.start) := List.Pairwise.sublist (by simp) hs
  have hyx : y.start < x.start := by
    rw [List.pairwise_append] at hs
    exact hs.2.2 y hy x (by simp)
  have ho : y.start < m.partners.size := hr.size ▸ hlt y (by simp [hy])
  have hxm : x.start < m.partners.size := hr.size ▸ hlt x (by simp)
  have hc : x.start < (m.partners.set y.start (some x.start) ho).size := by
    rw [Array.size_set]
    exact hxm
  -- positions of `P` lie before `x`, so `x` is in no pair of `P`
  have hfresh : ∀ a, ¬ Matched P a x.start ∧ ¬ Matched P x.start a := by
    intro a
    constructor
    · intro h
      obtain ⟨-, c, hcP, hcs, -⟩ := h.mem
      have := (List.pairwise_append.1 hs).2.2 c hcP x (by simp)
      omega
    · intro h
      obtain ⟨⟨c, hcP, hcs, -⟩, -⟩ := h.mem
      have := (List.pairwise_append.1 hs).2.2 c hcP x (by simp)
      omega
  have hopen₁ : ∀ j, ¬ Matched P y.start j := fun j => Pending.not_matched hsP hpen
  have hopen₂ : ∀ i, ¬ Matched P i y.start := fun i => not_matched_of_open hsP hy hyo
  refine ⟨_, by simp [close, hp, ho, hxm]; rfl, ?_⟩
  refine ⟨by simp [hr.size], ?_, fun i j => ?_⟩
  · exact hpen.snoc_close hx
  · have hpt := partner_setTwo ho hc i
    rw [hp] at hpt
    simp only [List.tail_cons] at hpt
    rw [hpt, Matched.snoc_close_iff hpen hx, Matched.snoc_close_iff hpen hx]
    have hne : x.start ≠ y.start := Nat.ne_of_gt hyx
    by_cases hi : x.start = i
    · subst hi
      simp [(hfresh j).1, (hfresh j).2, hne, eq_comm]
    · by_cases hi' : y.start = i
      · subst hi'
        simp [hopen₁ j, hopen₂ j, hne, hne.symm, eq_comm]
      · simp [hi, hi', Ne.symm hi, Ne.symm hi', hr.partner]

end Reads

end BracketMap
namespace Program

open Lexeme

/-! ## What the pre-scan decides -/

/-- The fault the pre-scan reports at the lexeme `x` after the lexemes `P`, in a text of `len`
characters with room for `cap` labels. -/
inductive Violation (len cap : Nat) (P : List Lexeme) (x : Lexeme) : Fault → Prop
  /-- A closing bracket with no loop open before it. -/
  | strayClose (hx : x.kind = .op ']') (hP : Balanced P) :
      Violation len cap P x (.unbalanced x.start .closing)
  /-- The definition of a new label when the table already holds `cap` of them. -/
  | tableFull {l : Char} (hx : x.kind = .labelDef (some l)) (hl : l ∉ Lexeme.labels P)
      (hfull : (Lexeme.labels P).toFinset.card = cap) : Violation len cap P x (.labelTableFull x.start l cap)
  /-- A label definition with no label, on the last character. -/
  | noLabel (hx : x.kind = .labelDef none) : Violation len cap P x (.missingLabel (len - 1) labelMark)
  /-- A jump with no label, on the last character. -/
  | noTarget (hx : x.kind = .jump none) : Violation len cap P x (.missingLabel (len - 1) jumpMark)

/-- Reading `xs` from the left meets no fault. -/
def Clean (len cap : Nat) (xs : List Lexeme) : Prop :=
  ∀ P x R f, xs = P ++ x :: R → ¬ Violation len cap P x f

/-- The fault of the pre-scan of `cs` under `limits`: a text too long; else the first fault met
reading its lexemes from the left; else the loop opened last among those left open. -/
inductive ScanFault (cs : List Char) (limits : Limits) : Fault → Prop
  | tooLong (h : limits.programCapacity < cs.length) :
      ScanFault cs limits (.programTooLong cs.length limits.programCapacity)
  | first {P R : List Lexeme} {x : Lexeme} {f : Fault} (hfit : cs.length ≤ limits.programCapacity)
      (he : lex cs = P ++ x :: R) (hP : Clean cs.length limits.labelCapacity P)
      (hx : Violation cs.length limits.labelCapacity P x f) : ScanFault cs limits f
  | unclosed {P R : List Lexeme} {o : Lexeme} (hfit : cs.length ≤ limits.programCapacity)
      (hc : Clean cs.length limits.labelCapacity (lex cs)) (he : lex cs = P ++ o :: R)
      (ho : o.kind = .op '[') (hR : Balanced R) : ScanFault cs limits (.unbalanced o.start .opening)

/-- What the pre-scan asks of a text: it fits, no label marker ends it, its loops are balanced,
and it defines no more distinct labels than the table holds. -/
structure Scannable (cs : List Char) (limits : Limits) : Prop where
  fits : cs.length ≤ limits.programCapacity
  labelled : ∀ x ∈ (lex cs).getLast?, x.kind ≠ .labelDef none ∧ x.kind ≠ .jump none
  balanced : Balanced (lex cs)
  labelsFit : (Lexeme.labels (lex cs)).toFinset.card ≤ limits.labelCapacity

theorem Clean.nil (len cap : Nat) : Clean len cap [] := by
  intro P x R f h
  simp at h

theorem Clean.snoc {len cap : Nat} {P : List Lexeme} {x : Lexeme} (hP : Clean len cap P)
    (hx : ∀ f, ¬ Violation len cap P x f) : Clean len cap (P ++ [x]) := by
  intro A y B f he
  rcases List.eq_nil_or_concat B with rfl | ⟨B', z, rfl⟩
  · obtain ⟨rfl, h⟩ := List.append_inj' he rfl
    simp only [List.cons.injEq, and_true] at h
    exact h ▸ hx f
  · rw [List.concat_eq_append, ← List.cons_append, ← List.append_assoc] at he
    obtain ⟨he, -⟩ := List.append_inj' he rfl
    exact hP A y B' f he

/-! ## One lexeme at a time -/

section Absorb

variable {s : Pass} {x : Lexeme}

theorem absorb_open (hx : x.kind = .op '[') :
    s.absorb x = .ok { s with brackets := s.brackets.openAt x.start } := by
  simp [Pass.absorb, hx]

theorem absorb_close_ok {b : BracketMap} (hx : x.kind = .op ']')
    (h : s.brackets.close x.start = .ok b) : s.absorb x = .ok { s with brackets := b } := by
  simp [Pass.absorb, hx, h]

theorem absorb_close_fault {f : Fault} (hx : x.kind = .op ']')
    (h : s.brackets.close x.start = .error (.fault f)) : s.absorb x = .error f := by
  simp [Pass.absorb, hx, h]

theorem absorb_def_ok {l : Char} {fresh : Bool} {t : LabelTable} (hx : x.kind = .labelDef (some l))
    (h : s.labels.register l (x.start + 2) x.start = .ok (fresh, t)) :
    ∃ s', s.absorb x = .ok s' ∧ s'.brackets = s.brackets ∧ s'.labels = t := by
  cases fresh
  · exact ⟨{ s with labels := t, repeats := (l, x.start) :: s.repeats },
      by simp [Pass.absorb, hx, h], rfl, rfl⟩
  · exact ⟨{ s with labels := t }, by simp [Pass.absorb, hx, h], rfl, rfl⟩

theorem absorb_def_error {l : Char} {f : Fault} (hx : x.kind = .labelDef (some l))
    (h : s.labels.register l (x.start + 2) x.start = .error f) : s.absorb x = .error f := by
  simp [Pass.absorb, hx, h]

theorem absorb_plain (ho : x.kind ≠ .op '[') (hc : x.kind ≠ .op ']')
    (hd : ∀ l, x.kind ≠ .labelDef l) (hj : x.kind ≠ .jump none) : s.absorb x = .ok s := by
  unfold Pass.absorb
  split
  · split_ifs <;> simp_all
  all_goals simp_all

end Absorb

/-- The pass after the lexemes `P` of `cs`, read without a fault, with room for `cap` labels. -/
structure Pass.Reads (cs : List Char) (cap : Nat) (P : List Lexeme) (s : Pass) : Prop where
  brackets : BracketMap.Reads cs.length P s.brackets
  labels : LabelTable.Reads cap P s.labels
  clean : Clean cs.length cap P

/-- Before any lexeme the pass stands for nothing read. -/
theorem Pass.Reads.start (cs : List Char) (cap : Nat) :
    Pass.Reads cs cap [] { brackets := .withLen cs.toArray.size, labels := .new cap } where
  brackets := by simpa using BracketMap.Reads.withLen cs.length
  labels := LabelTable.Reads.new cap
  clean := Clean.nil _ _

/-- One lexeme of the text: either the fault that the order of faults names there, or a pass
that stands for one lexeme more. -/
theorem Pass.Reads.absorb {cs : List Char} {cap : Nat} {P R : List Lexeme} {s : Pass} {x : Lexeme}
    (hr : Pass.Reads cs cap P s) (hpre : lex cs = P ++ x :: R) :
    (∃ f, s.absorb x = .error f ∧ Violation cs.length cap P x f) ∨
      ∃ s', s.absorb x = .ok s' ∧ Pass.Reads cs cap (P ++ [x]) s' := by
  have hsub : List.Sublist (P ++ [x]) (lex cs) := by
    rw [hpre]
    exact (List.sublist_append_left [x] R).append_left P
  have hs := (pairwise_start_lex cs).sublist hsub
  have hlt : ∀ y ∈ P ++ [x], y.start < cs.length :=
    fun y hy => start_lt_length_of_mem_lex (hsub.subset hy)
  have hx : x ∈ lex cs := hsub.subset (by simp)
  by_cases ho : x.kind = .op '['
  · refine Or.inr ⟨_, absorb_open ho, hr.brackets.openAt ho, hr.labels.snoc_other (by simp [ho]),
      hr.clean.snoc fun f hv => ?_⟩
    cases hv <;> simp_all
  by_cases hc : x.kind = .op ']'
  · cases hp : s.brackets.pending with
    | nil =>
      obtain ⟨hclose, hbal⟩ := hr.brackets.close_nil hp x.start
      exact Or.inl ⟨_, absorb_close_fault hc hclose, .strayClose hc hbal⟩
    | cons o rest =>
      obtain ⟨m', hclose, hm'⟩ := hr.brackets.close_cons hc hp hs hlt
      have hpen : Pending P (o :: rest) := hp ▸ hr.brackets.pending
      refine Or.inr ⟨_, absorb_close_ok hc hclose, hm', hr.labels.snoc_other (by simp [hc]),
        hr.clean.snoc fun f hv => ?_⟩
      cases hv with
      | strayClose _ hP => exact hpen.not_balanced hP
      | _ => simp_all
  by_cases hd : ∃ l, x.kind = .labelDef (some l)
  · obtain ⟨l, hl⟩ := hd
    have hsize := hr.labels.size
    have hle := hr.labels.size_le
    by_cases hin : l ∈ Lexeme.labels P
    · obtain ⟨hreg, hread⟩ := hr.labels.register_of_mem hl hin
      obtain ⟨s', hs', hb, hlab⟩ := absorb_def_ok hl hreg
      refine Or.inr ⟨s', hs', hb ▸ hr.brackets.snoc_plain (by simp [hl]) (by simp [hl]),
        hlab ▸ hread, hr.clean.snoc fun f hv => ?_⟩
      cases hv with
      | tableFull hx' hl' _ =>
        rw [hl, LexemeKind.labelDef.injEq, Option.some.injEq] at hx'
        exact hl' (hx' ▸ hin)
      | _ => simp_all
    by_cases hfull : (Lexeme.labels P).toFinset.card = cap
    · exact Or.inl ⟨_, absorb_def_error hl (hr.labels.register_full hin hfull),
        .tableFull hl hin hfull⟩
    · obtain ⟨hreg, hread⟩ := hr.labels.register_new hl hin (by omega)
      obtain ⟨s', hs', hb, hlab⟩ := absorb_def_ok hl hreg
      refine Or.inr ⟨s', hs', hb ▸ hr.brackets.snoc_plain (by simp [hl]) (by simp [hl]),
        hlab ▸ hread, hr.clean.snoc fun f hv => ?_⟩
      cases hv with
      | tableFull _ _ hfull' => exact hfull hfull'
      | _ => simp_all
  by_cases hn : x.kind = .labelDef none
  · have hend := start_of_unlabelled hx (Or.inl hn)
    have hxs : x.start = cs.length - 1 := by omega
    exact Or.inl ⟨_, by simp [Pass.absorb, hn, hxs], .noLabel hn⟩
  by_cases hj : x.kind = .jump none
  · have hend := start_of_unlabelled hx (Or.inr hj)
    have hxs : x.start = cs.length - 1 := by omega
    exact Or.inl ⟨_, by simp [Pass.absorb, hj, hxs], .noTarget hj⟩
  have hd' : ∀ l, x.kind ≠ .labelDef l := by
    intro l
    cases l with
    | none => exact hn
    | some l => exact fun h => hd ⟨l, h⟩
  refine Or.inr ⟨s, absorb_plain ho hc hd' hj, hr.brackets.snoc_plain ho hc,
    hr.labels.snoc_other fun l => hd' (some l), hr.clean.snoc fun f hv => ?_⟩
  cases hv <;> simp_all

/-- The lexemes of a text from where the pass stands: either all pass, or the first fault of
the order stops the pass. -/
theorem Pass.Reads.absorbAll {cs : List Char} {cap : Nat} :
    ∀ {P R : List Lexeme} {s : Pass}, Pass.Reads cs cap P s → lex cs = P ++ R →
      (∃ s', s.absorbAll R = (s', none) ∧ Pass.Reads cs cap (lex cs) s') ∨
      ∃ s' Q x R' f, s.absorbAll R = (s', some f) ∧ R = Q ++ x :: R' ∧
        Clean cs.length cap (P ++ Q) ∧ Violation cs.length cap (P ++ Q) x f := by
  intro P R
  induction R generalizing P with
  | nil =>
    intro s hr hpre
    rw [List.append_nil] at hpre
    exact Or.inl ⟨s, rfl, hpre ▸ hr⟩
  | cons x R ih =>
    intro s hr hpre
    rcases hr.absorb hpre with ⟨f, hf, hv⟩ | ⟨s', hs', hr'⟩
    · refine Or.inr ⟨s, [], x, R, f, by simp [Pass.absorbAll, hf], rfl, ?_, ?_⟩
      · simpa using hr.clean
      · simpa using hv
    · rcases ih hr' (by simp [hpre]) with ⟨s'', h, hr''⟩ | ⟨s'', Q, y, R', f, h, hR, hc, hv⟩
      · exact Or.inl ⟨s'', by simp [Pass.absorbAll, hs', h], hr''⟩
      · refine Or.inr ⟨s'', x :: Q, y, R', f, by simp [Pass.absorbAll, hs', h], by simp [hR], ?_, ?_⟩
        · simpa using hc
        · simpa using hv

/-- What a program that passed the pre-scan holds: the characters of its text, and exactly the
partners and the labels of its lexemes. -/
structure Checked (cs : List Char) (limits : Limits) (p : Program) : Prop where
  chars : p.chars = cs.toArray
  scannable : Scannable cs limits
  brackets : BracketMap.Reads cs.length (lex cs) p.brackets
  labels : LabelTable.Reads limits.labelCapacity (lex cs) p.labels

/-- The pre-scan either passes with a program that holds what its text says, or fails with the
fault the order of faults names. -/
theorem check_outcome (cs : List Char) (limits : Limits) :
    (∃ p, check cs limits = .ok p ∧ Checked cs limits p) ∨
      ∃ f, check cs limits = .error f ∧ ScanFault cs limits f := by
  unfold check scan
  simp only [List.size_toArray]
  split
  · exact Or.inr ⟨_, rfl, .tooLong ‹_›⟩
  rename_i hlong
  have hfit : cs.length ≤ limits.programCapacity := Nat.le_of_not_lt hlong
  rcases @Pass.Reads.absorbAll cs _ [] (lex cs) _ (Pass.Reads.start cs limits.labelCapacity) (by simp) with
    ⟨s', h, hr⟩ | ⟨s', Q, x, R', f, h, hR, hc, hv⟩ <;> simp only [List.size_toArray] at h
  · rw [h]
    have hpen := hr.brackets.pending
    cases hp : s'.brackets.pending with
    | nil =>
      rw [hp] at hpen
      have hbal := Pending.balanced_iff.1 hpen
      refine Or.inl ⟨{ chars := cs.toArray, brackets := s'.brackets, labels := s'.labels },
        by simp [BracketMap.finish, hp], rfl, ⟨hfit, ?_, hbal, ?_⟩, hr.brackets, hr.labels⟩
      · intro x hx
        obtain ⟨hne, hA⟩ := List.mem_getLast?_eq_getLast hx
        have hlast := List.dropLast_append_getLast hne
        rw [← hA] at hlast
        refine ⟨fun hk => hr.clean _ x [] _ hlast.symm (.noLabel hk),
          fun hk => hr.clean _ x [] _ hlast.symm (.noTarget hk)⟩
      · exact hr.labels.size ▸ hr.labels.size_le
    | cons o rest =>
      rw [hp] at hpen
      obtain ⟨A, y, B, he, rfl, ho, hB⟩ := hpen.exists_last_open
      exact Or.inr ⟨_, by simp [BracketMap.finish, hp], .unclosed hfit hr.clean he ho hB⟩
  · rw [h]
    exact Or.inr ⟨f, rfl, .first hfit (by simpa using hR) (by simpa using hc) (by simpa using hv)⟩

/-- A program the pre-scan gives holds what its text says. -/
theorem Checked.of_check {cs : List Char} {limits : Limits} {p : Program}
    (h : check cs limits = .ok p) : Checked cs limits p := by
  rcases check_outcome cs limits with ⟨q, hq, hc⟩ | ⟨f, hf, -⟩
  · rw [h, Except.ok.injEq] at hq
    exact hq ▸ hc
  · rw [h] at hf
    cases hf

/-! ## Exactly one fault, and only for a text that is not scannable -/

/-- At one lexeme the pre-scan has at most one fault to report. -/
theorem Violation.unique {len cap : Nat} {P : List Lexeme} {x : Lexeme} {f g : Fault}
    (hf : Violation len cap P x f) (hg : Violation len cap P x g) : f = g := by
  cases hf <;> cases hg <;> simp_all

/-- Two readings that stop at a fault after clean prefixes stop at the same lexeme, with the same
fault. -/
theorem Violation.unique_first {len cap : Nat} {P Q R S : List Lexeme} {x y : Lexeme} {f g : Fault}
    (he : P ++ x :: R = Q ++ y :: S) (hP : Clean len cap P) (hQ : Clean len cap Q)
    (hf : Violation len cap P x f) (hg : Violation len cap Q y g) : f = g := by
  rcases List.append_eq_append_iff.1 he with ⟨a, rfl, h⟩ | ⟨c, rfl, h⟩
  · cases a with
    | nil =>
      obtain ⟨rfl, -⟩ := List.cons_eq_cons.1 h
      exact hf.unique (by simpa using hg)
    | cons z a =>
      obtain ⟨rfl, -⟩ := List.cons_eq_cons.1 h
      exact absurd hf (hQ P x a f rfl)
  · cases c with
    | nil =>
      obtain ⟨rfl, -⟩ := List.cons_eq_cons.1 h
      exact (by simpa using hf : Violation len cap Q y f).unique hg
    | cons z c =>
      obtain ⟨rfl, -⟩ := List.cons_eq_cons.1 h
      exact absurd hg (hP Q y c g rfl)

/-- A text has at most one pre-scan fault. -/
theorem ScanFault.unique {cs : List Char} {limits : Limits} {f g : Fault}
    (hf : ScanFault cs limits f) (hg : ScanFault cs limits g) : f = g := by
  cases hf with
  | tooLong h => cases hg <;> first | rfl | omega
  | first hfit he hP hx =>
    cases hg with
    | tooLong h => omega
    | first _ he' hQ hy => exact Violation.unique_first (he.symm.trans he') hP hQ hx hy
    | unclosed _ hc he' => exact absurd hx (hc _ _ _ _ he)
  | unclosed hfit hc he ho hR =>
    cases hg with
    | tooLong h => omega
    | first _ he' _ hy => exact absurd hy (hc _ _ _ _ he')
    | unclosed _ _ he' ho' hR' =>
      obtain ⟨-, rfl, -⟩ := eq_of_open_balanced (he.symm.trans he') ho ho' hR hR'
      rfl

/-- A scannable text has no pre-scan fault. -/
theorem Scannable.not_scanFault {cs : List Char} {limits : Limits} (hs : Scannable cs limits)
    {f : Fault} : ¬ ScanFault cs limits f := by
  intro hf
  cases hf with
  | tooLong h => exact absurd hs.fits (Nat.not_le_of_lt h)
  | unclosed _ _ he ho hR => exact not_balanced_open_balanced (he ▸ hs.balanced) ho hR
  | @first P R x _ _ he _ hx =>
    have hmem : x ∈ lex cs := by simp [he]
    cases hx with
    | strayClose hx hP => exact not_balanced_close (he ▸ hs.balanced) hP hx
    | tableFull hx hl hfull =>
      -- the defined labels up to this one already number one more than the table holds
      have hsnoc := @card_labels_snoc_def P _ _ hx
      rw [if_neg hl, hfull] at hsnoc
      have hle := card_labels_le_append (P ++ [x]) R
      rw [List.append_assoc, List.singleton_append, ← he] at hle
      have := hs.labelsFit
      omega
    | noLabel hx =>
      exact (hs.labelled x (getLast?_lex_of_unlabelled hmem (Or.inl hx))).1 hx
    | noTarget hx =>
      exact (hs.labelled x (getLast?_lex_of_unlabelled hmem (Or.inr hx))).2 hx

/-- The pre-scan of a text passes exactly when the text fits, no label marker ends it, its loops
are balanced and it defines no more distinct labels than the table holds; it fails exactly with
the first fault met: an overlong text before anything is read, then, reading the lexemes from
the left, a stray closing bracket, the definition of one label too many or a trailing marker,
and, only after a clean reading, the innermost loop left open. -/
theorem check_spec (cs : List Char) (limits : Limits) :
    ((∃ p, check cs limits = .ok p) ↔ Scannable cs limits) ∧
      ∀ f, check cs limits = .error f ↔ ScanFault cs limits f := by
  rcases check_outcome cs limits with ⟨p, hp, hc⟩ | ⟨g, hg, hsg⟩
  · refine ⟨Iff.intro (fun _ => hc.scannable) (fun _ => ⟨p, hp⟩), fun f => ?_⟩
    rw [hp]
    exact Iff.intro (fun h => nomatch h) (fun hf => absurd hf hc.scannable.not_scanFault)
  · refine ⟨Iff.intro (fun ⟨p, hp⟩ => nomatch hg.symm.trans hp)
      (fun hs => absurd hsg (Scannable.not_scanFault hs)), fun f => ?_⟩
    rw [hg]
    refine ⟨fun h => ?_, fun hf => by rw [hsg.unique hf]⟩
    cases h
    exact hsg

end Program
end GotoTape
