import Mathlib.Data.List.Find
import GotoTape.LabelTable
/-!
# The label table under any sequence of calls

A label table is filled by registrations and read by lookups, and the first registration of a
label wins. After any calls on a new table, its entries are the first registration of each label
that was registered at all, in the order of those registrations, so the labels are distinct; and
there are never more of them than the capacity. A label registered before is accepted again with
nothing changed, even in a full table; a new label takes room while there is room, and is
refused with the fault of a full table when there is none. A lookup answers from the first
registration of its label, and reports an unknown label exactly when there was none.

The entries are described by `firstRegistrations`, which keeps the first occurrence of each label
of the successful registrations, read from the front. Registering at the back adds one entry
exactly when the label is new (`firstRegistrations_append_singleton`), which is what `register`
does.

Main statement: `registry_under_calls`.
-/

namespace GotoTape

namespace LabelTable

/-- The first registration of each label, in order. -/
def firstRegistrations : List (Char × Nat) → List (Char × Nat)
  | [] => []
  | e :: rest => e :: (firstRegistrations rest).filter (·.1 != e.1)

theorem nodup_firstRegistrations (regs : List (Char × Nat)) :
    ((firstRegistrations regs).map Prod.fst).Nodup := by
  induction regs with
  | nil => simp [firstRegistrations]
  | cons e rest ih =>
    rw [firstRegistrations, List.map_cons, List.nodup_cons]
    constructor
    · simp [List.mem_filter]
    · exact List.Nodup.sublist (List.filter_sublist.map Prod.fst) ih

/-- The first registration of a label among `regs` is the one `firstRegistrations` keeps. -/
theorem find?_firstRegistrations (regs : List (Char × Nat)) (l : Char) :
    (firstRegistrations regs).find? (·.1 == l) = regs.find? (·.1 == l) := by
  induction regs with
  | nil => rfl
  | cons e rest ih =>
    rw [firstRegistrations]
    by_cases hl : e.1 = l
    · have he : (e.1 == l) = true := by simpa using hl
      have hfound := @List.find?_cons_of_pos _ (·.1 == l) e
      rw [hfound he, hfound he]
    · -- past `e`, the entries that `filter` drops have `e`'s label, which is not `l`
      have he : ¬(e.1 == l) = true := by simpa using hl
      have hpast := @List.find?_cons_of_neg _ (·.1 == l) e
      rw [hpast he, hpast he, List.find?_filter, ← ih]
      apply List.find?_congr
      intro a _
      by_cases ha : a.1 = l
      · simp [ha, Ne.symm hl]
      · simp [ha]

/-- A registration at the back adds an entry exactly when its label is new. -/
theorem firstRegistrations_append_singleton (regs : List (Char × Nat)) (e : Char × Nat) :
    firstRegistrations (regs ++ [e]) =
      firstRegistrations regs ++ if e.1 ∈ regs.map Prod.fst then [] else [e] := by
  induction regs with
  | nil => simp [firstRegistrations]
  | cons x rest ih =>
    rw [List.cons_append, firstRegistrations, firstRegistrations, ih, List.filter_append,
      List.cons_append]
    congr 1
    by_cases hx : e.1 = x.1
    · simp [hx]
    · by_cases hr : e.1 ∈ rest.map Prod.fst
      · simp [hr]
      · simp [hr, hx]

/-- The tables that calls reach from a new table of capacity `cap`, with the registrations that
succeeded, in order, whether the label was new or not. A registration that fails leaves the table
as it was, and a lookup changes nothing, so it adds nothing here. -/
inductive Registry (cap : Nat) : LabelTable → List (Char × Nat) → Prop
  /-- A new table has no registrations. -/
  | new : Registry cap (.new cap) []
  /-- A registration that succeeds is added. -/
  | register {t t' : LabelTable} {regs : List (Char × Nat)} {label : Char} {position ip : Nat}
      {fresh : Bool} :
      Registry cap t regs → t.register label position ip = .ok (fresh, t') →
        Registry cap t' (regs ++ [(label, position)])
  /-- A registration that fails leaves the table as it was. -/
  | refuse {t : LabelTable} {regs : List (Char × Nat)} {label : Char} {position ip : Nat}
      {f : Fault} :
      Registry cap t regs → t.register label position ip = .error f → Registry cap t regs

/-- What a table holds after the calls of `Registry`: its capacity, and the first registration
of each label, no more of them than the capacity. -/
structure Holds (cap : Nat) (regs : List (Char × Nat)) (t : LabelTable) : Prop where
  capacity : t.capacity = cap
  entries : t.entries.toList = firstRegistrations regs
  fits : t.entries.size ≤ cap

theorem isSome_find?_iff {regs : List (Char × Nat)} {l : Char} :
    (regs.find? (·.1 == l)).isSome ↔ l ∈ regs.map Prod.fst := by
  rw [List.find?_isSome, List.mem_map]
  simp

theorem lookup_eq_of_entries {t : LabelTable} {regs : List (Char × Nat)}
    (h : t.entries.toList = firstRegistrations regs) (l : Char) :
    t.lookup l = (regs.find? (·.1 == l)).map Prod.snd := by
  rw [lookup, ← Array.find?_toList, h, find?_firstRegistrations]

theorem isSome_lookup_iff {t : LabelTable} {regs : List (Char × Nat)}
    (h : t.entries.toList = firstRegistrations regs) (l : Char) :
    (t.lookup l).isSome ↔ l ∈ regs.map Prod.fst := by
  rw [lookup_eq_of_entries h, Option.isSome_map, isSome_find?_iff]

theorem isNone_lookup_iff {t : LabelTable} {regs : List (Char × Nat)}
    (h : t.entries.toList = firstRegistrations regs) (l : Char) :
    (t.lookup l).isNone ↔ l ∉ regs.map Prod.fst := by
  rw [← isSome_lookup_iff h l, ← Option.not_isSome, Bool.not_eq_true']
  simp

theorem register_of_isSome {t : LabelTable} {label : Char} {position ip : Nat}
    (h : (t.lookup label).isSome) : t.register label position ip = .ok (false, t) := by
  simp [register, h]

theorem register_of_full {t : LabelTable} {label : Char} {position ip : Nat}
    (hn : (t.lookup label).isNone) (hfull : t.capacity ≤ t.entries.size) :
    t.register label position ip = .error (.labelTableFull ip label t.capacity) := by
  have hs : (t.lookup label).isSome = false := by simpa using hn
  simp [register, hs, hfull]

theorem resolve_eq_unknown_iff {t : LabelTable} {label : Char} {ip : Nat} :
    t.resolve label ip = .error (.unknownLabel ip label) ↔ t.lookup label = none := by
  unfold resolve
  split <;> simp_all

namespace Holds

variable {cap : Nat} {regs : List (Char × Nat)} {t : LabelTable}

/-- A label registered again leaves the entries, and a new one is appended as its own first
registration. -/
theorem register (h : Holds cap regs t) {t' : LabelTable} {label : Char} {position ip : Nat}
    {fresh : Bool} (hr : t.register label position ip = .ok (fresh, t')) :
    Holds cap (regs ++ [(label, position)]) t' := by
  rcases register_eq_ok_iff.1 hr with ⟨hs, -, rfl⟩ | ⟨hn, hlt, -, rfl⟩
  · have hmem : label ∈ regs.map Prod.fst := (isSome_lookup_iff h.entries label).1 hs
    refine ⟨h.capacity, ?_, h.fits⟩
    rw [h.entries, firstRegistrations_append_singleton, if_pos hmem, List.append_nil]
  · have hmem : label ∉ regs.map Prod.fst := (isNone_lookup_iff h.entries label).1 hn
    refine ⟨h.capacity, ?_, ?_⟩
    · rw [Array.toList_push, h.entries, firstRegistrations_append_singleton, if_neg hmem]
    · rw [h.capacity] at hlt
      rw [Array.size_push]
      exact hlt

end Holds

theorem Registry.holds {cap : Nat} {t : LabelTable} {regs : List (Char × Nat)}
    (h : Registry cap t regs) : Holds cap regs t := by
  induction h with
  | new => exact ⟨rfl, rfl, Nat.zero_le _⟩
  | register _ hr ih => exact ih.register hr
  | refuse _ _ ih => exact ih

/-- After any calls, the entries of a table are the first registration of each label, in order,
with distinct labels and no more of them than the capacity. A registered label is accepted
again and changes nothing, also in a full table; a new label is appended while there is room
and refused as a full table's fault when there is none. A lookup gives the position of the
first registration of its label, and reports an unknown label exactly when there was none. -/
theorem registry_under_calls {cap : Nat} {t : LabelTable} {regs : List (Char × Nat)}
    (h : Registry cap t regs) :
    (t.entries.toList.map Prod.fst).Nodup ∧ t.size ≤ cap ∧
    t.entries.toList = firstRegistrations regs ∧
    (∀ label position ip, label ∈ regs.map Prod.fst →
      t.register label position ip = .ok (false, t)) ∧
    (∀ label position ip, label ∉ regs.map Prod.fst → t.size < cap →
      t.register label position ip =
        .ok (true, { t with entries := t.entries.push (label, position) })) ∧
    (∀ label position ip, label ∉ regs.map Prod.fst → cap ≤ t.size →
      t.register label position ip = .error (.labelTableFull ip label cap)) ∧
    (∀ label ip p, t.resolve label ip = .ok p ↔
      (regs.find? (·.1 == label)).map Prod.snd = some p) ∧
    (∀ label ip, t.resolve label ip = .error (.unknownLabel ip label) ↔
      label ∉ regs.map Prod.fst) := by
  have hold := h.holds
  have hnone := fun label => (isNone_lookup_iff hold.entries label).2
  refine ⟨by rw [hold.entries]; exact nodup_firstRegistrations regs, hold.fits, hold.entries,
    fun label position ip hl => register_of_isSome ((isSome_lookup_iff hold.entries label).2 hl),
    fun label position ip hl hlt => ?_, fun label position ip hl hfull => ?_,
    fun label ip p => ?_, fun label ip => ?_⟩
  · rw [size, ← hold.capacity] at hlt
    exact register_eq_ok_iff.2 (Or.inr ⟨hnone label hl, hlt, rfl, rfl⟩)
  · rw [size, ← hold.capacity] at hfull
    rw [register_of_full (hnone label hl) hfull, hold.capacity]
  · rw [resolve_eq_ok_iff, lookup_eq_of_entries hold.entries]
  · rw [resolve_eq_unknown_iff, ← Option.isNone_iff_eq_none, isNone_lookup_iff hold.entries]

/-- A table of one label: `a` registered at 2, again at 4, and `b` refused. -/
theorem first_label_wins :
    Registry 1 ⟨1, #[('a', 2)]⟩ [('a', 2), ('a', 4)] ∧
    ([('a', 2)].map Prod.fst).Nodup ∧ (⟨1, #[('a', 2)]⟩ : LabelTable).size ≤ 1 ∧
    [('a', 2)] = firstRegistrations [('a', 2), ('a', 4)] ∧
    (∀ label position ip, label ∈ [('a', 2), ('a', 4)].map Prod.fst →
      (⟨1, #[('a', 2)]⟩ : LabelTable).register label position ip =
        .ok (false, ⟨1, #[('a', 2)]⟩)) ∧
    (∀ label position ip, label ∉ [('a', 2), ('a', 4)].map Prod.fst →
      (⟨1, #[('a', 2)]⟩ : LabelTable).size < 1 →
      (⟨1, #[('a', 2)]⟩ : LabelTable).register label position ip =
        .ok (true, ⟨1, #[('a', 2), (label, position)]⟩)) ∧
    (∀ label position ip, label ∉ [('a', 2), ('a', 4)].map Prod.fst →
      1 ≤ (⟨1, #[('a', 2)]⟩ : LabelTable).size →
      (⟨1, #[('a', 2)]⟩ : LabelTable).register label position ip =
        .error (.labelTableFull ip label 1)) ∧
    (∀ label ip p, (⟨1, #[('a', 2)]⟩ : LabelTable).resolve label ip = .ok p ↔
      ([('a', 2), ('a', 4)].find? (·.1 == label)).map Prod.snd = some p) ∧
    (∀ label ip, (⟨1, #[('a', 2)]⟩ : LabelTable).resolve label ip =
        .error (.unknownLabel ip label) ↔
      label ∉ [('a', 2), ('a', 4)].map Prod.fst) := by
  have h1 : (LabelTable.new 1).register 'a' 2 0 = .ok (true, ⟨1, #[('a', 2)]⟩) := rfl
  have h2 : (⟨1, #[('a', 2)]⟩ : LabelTable).register 'a' 4 2 =
      .ok (false, ⟨1, #[('a', 2)]⟩) :=
    rfl
  have h3 : (⟨1, #[('a', 2)]⟩ : LabelTable).register 'b' 6 4 =
      .error (.labelTableFull 4 'b' 1) :=
    rfl
  have h : Registry 1 ⟨1, #[('a', 2)]⟩ [('a', 2), ('a', 4)] :=
    Registry.refuse (Registry.register (Registry.register Registry.new h1) h2) h3
  exact ⟨h, registry_under_calls h⟩

end LabelTable
end GotoTape
