import GotoTape.Proofs.Alignment
/-!
# The label table of a program

The label table of a program that passed the pre-scan answers for every label from the label
definitions of the text alone: a label resolves two characters past its first definition, and it
is unknown exactly when the text defines it nowhere. Labels in comments and characters that are
jump labels define nothing, since neither is a label definition lexeme. The table lists every
defined label once, in the order of the first definitions, and holds no more labels than its
capacity.

The order is the one invariant of the table that the pre-scan's other facts do not give, so it
is carried through the pass of the pre-scan on its own (`LabelTable.Lists`).

Main statement: `labels_spec`.
-/

namespace GotoTape

open Lexeme

theorem Lexeme.mem_labels_iff {xs : List Lexeme} {l : Char} :
    l ∈ labels xs ↔ ∃ x ∈ xs, x.kind = .labelDef (some l) := by
  simp only [labels, List.mem_filterMap]
  constructor
  · rintro ⟨x, hx, hk⟩
    refine ⟨x, hx, ?_⟩
    split at hk
    · rename_i l' hl'
      rw [Option.some.injEq] at hk
      rw [hl', hk]
    · cases hk
  · rintro ⟨x, hx, hk⟩
    exact ⟨x, hx, by rw [hk]⟩

namespace LabelTable

theorem isSome_lookup_of_mem {t : LabelTable} {l : Char} {q : Nat}
    (h : (l, q) ∈ t.entries.toList) : (t.lookup l).isSome := by
  rw [lookup, Option.isSome_map, Array.find?_isSome]
  exact ⟨(l, q), Array.mem_toList_iff.1 h, by simp⟩

theorem mem_of_lookup {t : LabelTable} {l : Char} {q : Nat} (h : t.lookup l = some q) :
    (l, q) ∈ t.entries.toList := by
  rw [lookup, Option.map_eq_some_iff] at h
  obtain ⟨e, he, rfl⟩ := h
  have hl : e.1 = l := by simpa using Array.find?_some he
  rw [← hl]
  exact Array.mem_toList_iff.2 (Array.mem_of_find?_eq_some he)

/-- The entries of a table after the lexemes `P`: distinct labels, each with the target of its
first definition in `P`, in the order of those definitions, and every label `P` defines. -/
structure Lists (P : List Lexeme) (t : LabelTable) : Prop where
  distinct : t.entries.toList.Pairwise (fun a b => a.1 ≠ b.1)
  firstDef : ∀ e ∈ t.entries.toList, FirstDef P e.1 e.2
  ordered : t.entries.toList.Pairwise (fun a b => a.2 < b.2)
  complete : ∀ l ∈ labels P, ∃ q, (l, q) ∈ t.entries.toList

namespace Lists

variable {P : List Lexeme} {t : LabelTable} {x : Lexeme}

theorem new (cap : Nat) : Lists [] (LabelTable.new cap) where
  distinct := List.Pairwise.nil
  firstDef e he := by simp [LabelTable.new] at he
  ordered := List.Pairwise.nil
  complete l hl := by simp at hl

theorem firstDef_snoc {l : Char} {q : Nat} (h : FirstDef P l q) : FirstDef (P ++ [x]) l q := by
  obtain ⟨A, y, B, rfl, hy, hA, hq⟩ := h
  exact ⟨A, y, B ++ [x], by simp, hy, hA, hq⟩

/-- A lexeme that defines no label keeps the entries right. -/
theorem snoc (h : Lists P t) (hx : ∀ l, x.kind ≠ .labelDef (some l)) : Lists (P ++ [x]) t where
  distinct := h.distinct
  firstDef e he := firstDef_snoc (h.firstDef e he)
  ordered := h.ordered
  complete l hl := by
    rw [labels_append, labels_cons_other [] hx, labels_nil, List.append_nil] at hl
    exact h.complete l hl

/-- A label defined again keeps the entries right. -/
theorem snoc_mem (h : Lists P t) {l : Char} (hx : x.kind = .labelDef (some l))
    (hl : (t.lookup l).isSome) : Lists (P ++ [x]) t where
  distinct := h.distinct
  firstDef e he := firstDef_snoc (h.firstDef e he)
  ordered := h.ordered
  complete l' hl' := by
    rw [labels_append, labels_cons_def [] hx, labels_nil, List.mem_append,
      List.mem_singleton] at hl'
    rcases hl' with hl' | rfl
    · exact h.complete l' hl'
    · obtain ⟨q, hq⟩ := Option.isSome_iff_exists.1 hl
      exact ⟨q, mem_of_lookup hq⟩

/-- A new label goes after the others: its definition comes after theirs. -/
theorem push (h : Lists P t) {l : Char} (hx : x.kind = .labelDef (some l))
    (hnone : (t.lookup l).isNone) (hafter : ∀ y ∈ P, y.start < x.start) :
    Lists (P ++ [x]) { t with entries := t.entries.push (l, x.start + 2) } := by
  have hl : l ∉ labels P := fun hl => by
    obtain ⟨q, hq⟩ := h.complete l hl
    have := isSome_lookup_of_mem hq
    simp_all
  have hold : ∀ e ∈ t.entries.toList, e.1 ≠ l ∧ e.2 < x.start + 2 := by
    intro e he
    obtain ⟨A, y, B, hP, hy, -, hq⟩ := h.firstDef e he
    have hyP : y ∈ P := by rw [hP]; simp
    refine ⟨fun hel => hl ?_, ?_⟩
    · rw [← hel, mem_labels_iff]
      exact ⟨y, hyP, hy⟩
    · have := hafter y hyP
      omega
  refine ⟨?_, fun e he => ?_, ?_, fun l' hl' => ?_⟩
  · rw [Array.toList_push, List.pairwise_append]
    exact ⟨h.distinct, List.pairwise_singleton _ _, fun a ha b hb => by
      rw [List.mem_singleton] at hb
      rw [hb]
      exact (hold a ha).1⟩
  · rw [Array.toList_push, List.mem_append, List.mem_singleton] at he
    rcases he with he | rfl
    · exact firstDef_snoc (h.firstDef e he)
    · exact (firstDef_snoc_def hx).2 (Or.inr ⟨rfl, hl, rfl⟩)
  · rw [Array.toList_push, List.pairwise_append]
    exact ⟨h.ordered, List.pairwise_singleton _ _, fun a ha b hb => by
      rw [List.mem_singleton] at hb
      rw [hb]
      exact (hold a ha).2⟩
  · rw [labels_append, labels_cons_def [] hx, labels_nil, List.mem_append,
      List.mem_singleton] at hl'
    rw [Array.toList_push]
    rcases hl' with hl' | rfl
    · obtain ⟨q, hq⟩ := h.complete l' hl'
      exact ⟨q, List.mem_append_left _ hq⟩
    · exact ⟨_, List.mem_append_right _ (List.mem_singleton_self _)⟩

/-- Defining a label keeps the entries right, whether it is new or defined again. -/
theorem register (h : Lists P t) {l : Char} {fresh : Bool} {u : LabelTable}
    (hx : x.kind = .labelDef (some l)) (hafter : ∀ y ∈ P, y.start < x.start)
    (hr : t.register l (x.start + 2) x.start = .ok (fresh, u)) : Lists (P ++ [x]) u := by
  rcases register_eq_ok_iff.1 hr with ⟨hsome, -, rfl⟩ | ⟨hnone, -, -, rfl⟩
  · exact h.snoc_mem hx hsome
  · exact h.push hx hnone hafter

end Lists

end LabelTable

namespace Program

/-- What one lexeme that passes does to the label table: a definition registers its label, and
every other lexeme leaves the table as it is. -/
theorem absorb_labels {s s' : Pass} {x : Lexeme} (h : s.absorb x = .ok s') :
    (∃ l fresh, x.kind = .labelDef (some l) ∧
        s.labels.register l (x.start + 2) x.start = .ok (fresh, s'.labels)) ∨
      ((∀ l, x.kind ≠ .labelDef (some l)) ∧ s'.labels = s.labels) := by
  cases hk : x.kind with
  | op c =>
    refine Or.inr ⟨fun l => by simp, ?_⟩
    simp only [Pass.absorb, hk] at h
    split_ifs at h
    · cases h
      rfl
    · split at h
      · cases h
        rfl
      · cases h
      · cases h
    · cases h
      rfl
  | labelDef label =>
    cases label with
    | none => simp [Pass.absorb, hk] at h
    | some l =>
      left
      simp only [Pass.absorb, hk] at h
      split at h
      · rename_i t ht
        cases h
        exact ⟨l, true, rfl, ht⟩
      · rename_i t ht
        cases h
        exact ⟨l, false, rfl, ht⟩
      · cases h
  | jump label =>
    cases label with
    | none => simp [Pass.absorb, hk] at h
    | some l =>
      refine Or.inr ⟨fun l => by simp, ?_⟩
      simp only [Pass.absorb, hk] at h
      cases h
      rfl
  | commentDelimiter =>
    refine Or.inr ⟨fun l => by simp, ?_⟩
    simp only [Pass.absorb, hk] at h
    cases h
    rfl
  | comment =>
    refine Or.inr ⟨fun l => by simp, ?_⟩
    simp only [Pass.absorb, hk] at h
    cases h
    rfl
  | inert c =>
    refine Or.inr ⟨fun l => by simp, ?_⟩
    simp only [Pass.absorb, hk] at h
    cases h
    rfl

/-- What holds before the lexemes of a text and is kept by every lexeme that passes holds after
a pass over all of them that met no fault. -/
theorem Pass.absorbAll_invariant {cs : List Char} {motive : List Lexeme → Pass → Prop}
    (step : ∀ P x R s s', lex cs = P ++ x :: R → motive P s → s.absorb x = .ok s' →
      motive (P ++ [x]) s') :
    ∀ (R : List Lexeme) {P : List Lexeme} {s s' : Pass}, lex cs = P ++ R → motive P s →
      s.absorbAll R = (s', none) → motive (lex cs) s'
  | [], P, s, s', he, hm, h => by
    simp only [Pass.absorbAll, Prod.mk.injEq] at h
    rw [he, List.append_nil, ← h.1]
    exact hm
  | x :: R, P, s, s', he, hm, h => by
    unfold Pass.absorbAll at h
    split at h
    · rename_i s₁ h₁
      exact Pass.absorbAll_invariant step R (by rw [he]; simp) (step P x R s s₁ he hm h₁) h
    · cases h

/-- The label table of a program is the one a fault-free pass over the lexemes of its text
leaves. -/
theorem check_labels {cs : List Char} {limits : Limits} {p : Program} (h : check cs limits = .ok p) :
    ∃ s, ({ brackets := .withLen cs.toArray.size, labels := .new limits.labelCapacity } : Pass).absorbAll
      (lex cs) = (s, none) ∧ p.labels = s.labels := by
  unfold check scan at h
  simp only [List.size_toArray] at h
  split at h
  · cases h
  · rcases hr : Pass.absorbAll (Pass.mk (.withLen cs.length) (.new limits.labelCapacity) [])
        (lex cs) with ⟨s, fault⟩
    rw [hr] at h
    cases fault with
    | some f => cases h
    | none =>
      refine ⟨s, rfl, ?_⟩
      dsimp only at h
      split at h
      · cases h
      · cases h
        rfl

/-- The entries of the label table of a program are right for the lexemes of its text. -/
theorem Checked.lists {cs : List Char} {limits : Limits} {p : Program}
    (h : check cs limits = .ok p) : LabelTable.Lists (lex cs) p.labels := by
  obtain ⟨s, hs, hp⟩ := check_labels h
  rw [hp]
  refine Pass.absorbAll_invariant (motive := fun P s => LabelTable.Lists P s.labels)
    (fun P x R s s' he hm hx => ?_) (lex cs) (by simp) (LabelTable.Lists.new _) hs
  -- lexemes before `x` start before it
  have hafter : ∀ y ∈ P, y.start < x.start := by
    have hsort := pairwise_start_lex cs
    rw [he, List.pairwise_append] at hsort
    exact fun y hy => hsort.2.2 y hy x List.mem_cons_self
  rcases absorb_labels hx with ⟨l, fresh, hk, hr⟩ | ⟨hk, hl⟩
  · exact hm.register hk hafter hr
  · rw [hl]
    exact hm.snoc hk

end Program

/-- The label table of a program that passed the pre-scan resolves a label two characters past
its first definition among the lexemes of the text, and fails with the unknown label exactly when
no lexeme defines it; it lists each defined label once, with that target, in the order of first
definition, and holds no more labels than its capacity. -/
theorem labels_spec {cs : List Char} {limits : Limits} {p : Program}
    (h : Program.check cs limits = .ok p) :
    (∀ l ip q, p.labels.resolve l ip = .ok q ↔ FirstDef (lex cs) l q) ∧
      (∀ l ip f, p.labels.resolve l ip = .error f ↔
        (¬ ∃ x ∈ lex cs, x.kind = .labelDef (some l)) ∧ f = .unknownLabel ip l) ∧
      (p.labels.entries.toList.map Prod.fst).Nodup ∧
      (∀ l, l ∈ p.labels.entries.toList.map Prod.fst ↔ ∃ x ∈ lex cs, x.kind = .labelDef (some l)) ∧
      (∀ e ∈ p.labels.entries.toList, FirstDef (lex cs) e.1 e.2) ∧
      p.labels.entries.toList.Pairwise (fun a b => a.2 < b.2) ∧
      p.labels.size ≤ limits.labelCapacity := by
  have hp := Program.Checked.of_check h
  have hl := Program.Checked.lists h
  refine ⟨fun l ip q => ?_, fun l ip f => ?_, ?_, fun l => ?_, hl.firstDef, hl.ordered, ?_⟩
  · rw [LabelTable.resolve_eq_ok_iff, hp.labels.lookup]
  · rw [LabelTable.resolve_eq_error_iff, ← mem_labels_iff, ← hp.labels.isSome_lookup_iff,
      Option.not_isSome_iff_eq_none]
  · exact List.pairwise_map.2 hl.distinct
  · rw [← mem_labels_iff, List.mem_map]
    constructor
    · rintro ⟨e, he, rfl⟩
      exact exists_firstDef_iff.1 ⟨e.2, hl.firstDef e he⟩
    · intro hdef
      obtain ⟨q, hq⟩ := hl.complete l hdef
      exact ⟨(l, q), hq, rfl⟩
  · exact hp.labels.size_le

/-- The lexemes of a text whose brackets stand in a comment and as labels. -/
theorem lex_bracket_labels :
    lex ['#', '[', '[', '#', ' ', '^', ']', ' ', 'v', ']'] =
      [⟨0, 1, .commentDelimiter⟩, ⟨1, 2, .comment⟩, ⟨3, 1, .commentDelimiter⟩, ⟨4, 1, .inert ' '⟩,
        ⟨5, 2, .labelDef (some ']')⟩, ⟨7, 1, .inert ' '⟩, ⟨8, 2, .jump (some ']')⟩] := by
  simp [lex, Lexeme.scan_cons, Lexeme.read, Lexeme.scan.eq_1, commentMark, labelMark, jumpMark,
    isOperator]

theorem check_bracket_labels :
    Program.check ['#', '[', '[', '#', ' ', '^', ']', ' ', 'v', ']'] {} =
      .ok ⟨#['#', '[', '[', '#', ' ', '^', ']', ' ', 'v', ']'],
        ⟨Array.replicate 10 none, []⟩, ⟨20, #[(']', 7)]⟩⟩ := by
  rw [Program.check, Program.scan, lex_bracket_labels]
  rfl

/-- In that text the label `]` resolves past its definition, and the table holds it alone. -/
theorem bracket_labels_resolve :
    ∃ p, Program.check ['#', '[', '[', '#', ' ', '^', ']', ' ', 'v', ']'] {} = .ok p ∧
      (∀ l ip q, p.labels.resolve l ip = .ok q ↔
        FirstDef (lex ['#', '[', '[', '#', ' ', '^', ']', ' ', 'v', ']']) l q) ∧
      (∀ l ip f, p.labels.resolve l ip = .error f ↔
        (¬ ∃ x ∈ lex ['#', '[', '[', '#', ' ', '^', ']', ' ', 'v', ']'],
          x.kind = .labelDef (some l)) ∧ f = .unknownLabel ip l) ∧
      (p.labels.entries.toList.map Prod.fst).Nodup ∧
      (∀ l, l ∈ p.labels.entries.toList.map Prod.fst ↔
        ∃ x ∈ lex ['#', '[', '[', '#', ' ', '^', ']', ' ', 'v', ']'], x.kind = .labelDef (some l)) ∧
      (∀ e ∈ p.labels.entries.toList,
        FirstDef (lex ['#', '[', '[', '#', ' ', '^', ']', ' ', 'v', ']']) e.1 e.2) ∧
      p.labels.entries.toList.Pairwise (fun a b => a.2 < b.2) ∧
      p.labels.size ≤ 20 :=
  ⟨_, check_bracket_labels, labels_spec check_bracket_labels⟩

end GotoTape
