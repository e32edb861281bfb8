/-!
# The tape

A row of byte cells and a head on it. A tape has at least one cell and its head never leaves the
row: `shift` refuses a move past either end and then changes nothing, so every tape keeps
`pointer < size`, which is a field of the structure. Cell arithmetic wraps modulo 256.

Main statements: `size_new`, `shift_eq_some_iff` (a move succeeds exactly when the target lies on
the tape, computed in the integers), and the `read`/`write` laws.

The program moves its pointer with `usize::checked_add_signed` and then compares the result with
the length. `shift` makes that one comparison in the integers; `checkedAddSigned` is the word
computation of a 64-bit target, and `pointer_shift_eq_checked` shows the two agree on every tape
of at most `2^64` cells and every `isize` delta, so that no move wraps around.
-/

namespace GotoTape

/-- A row of byte cells and the index of the head. The head is always on the row. -/
structure Tape where
  cells : Array UInt8
  pointer : Nat
  pointer_lt : pointer < cells.size

namespace Tape

/-- A tape of `count` zero cells with the head on the first; asked for none, it has one. -/
def new (count : Nat) : Tape where
  cells := Array.replicate (max count 1) 0
  pointer := 0
  pointer_lt := by simp only [Array.size_replicate]; omega

/-- The number of cells. -/
def size (t : Tape) : Nat := t.cells.size

/-- A tape always has a cell, so it is never empty. -/
def isEmpty (t : Tape) : Bool := t.cells.size == 0

/-- The byte under the head. -/
def read (t : Tape) : UInt8 :=
  have h := t.pointer_lt
  t.cells[t.pointer]

/-- Stores a byte under the head. -/
def write (t : Tape) (v : UInt8) : Tape :=
  match t with
  | ⟨cells, pointer, h⟩ => ⟨cells.set pointer v h, pointer, by simp [h]⟩

/-- Adds one to the cell under the head, wrapping 255 to 0. -/
def increment (t : Tape) : Tape := t.write (t.read + 1)

/-- Takes one from the cell under the head, wrapping 0 to 255. -/
def decrement (t : Tape) : Tape := t.write (t.read - 1)

/-- Moves the head by `delta` cells, or gives `none` when the target is off the tape. The target
is computed exactly: where the program adds the delta to the pointer with
`usize::checked_add_signed` and compares the sum with the length, this asks for
`0 ≤ pointer + delta < size` in the integers (`pointer_shift_eq_checked`). -/
def shift (t : Tape) (delta : Int) : Option Tape :=
  let target := (t.pointer : Int) + delta
  if h : 0 ≤ target ∧ target.toNat < t.cells.size then
    some { cells := t.cells, pointer := target.toNat, pointer_lt := h.2 }
  else none

/-- The cells that are not zero, with their indices, from the first cell on. -/
def nonzero (t : Tape) : List (Nat × UInt8) :=
  (t.cells.toList.zipIdx.filter (fun p => p.1 != 0)).map (fun p => (p.2, p.1))

@[simp] theorem size_new (count : Nat) : (new count).size = max count 1 := by
  simp [new, size]

@[simp] theorem pointer_new (count : Nat) : (new count).pointer = 0 := rfl

@[simp] theorem size_write (t : Tape) (v : UInt8) : (t.write v).size = t.size := by
  simp [write, size]

@[simp] theorem pointer_write (t : Tape) (v : UInt8) : (t.write v).pointer = t.pointer := rfl

@[simp] theorem read_write (t : Tape) (v : UInt8) : (t.write v).read = v := by
  simp [write, read]

theorem shift_eq_some_iff {t u : Tape} {delta : Int} :
    t.shift delta = some u ↔
      0 ≤ (t.pointer : Int) + delta ∧ ((t.pointer : Int) + delta).toNat < t.size ∧
        u.cells = t.cells ∧ (u.pointer : Int) = t.pointer + delta := by
  unfold shift size
  dsimp only
  split
  · rename_i h
    constructor
    · intro hu
      cases hu
      exact ⟨h.1, h.2, rfl, by simp [Int.toNat_of_nonneg h.1]⟩
    · rintro ⟨h0, -, hc, hp⟩
      cases u
      dsimp only at hc hp
      simp only [Option.some.injEq, mk.injEq]
      exact ⟨hc.symm, by omega⟩
  · rename_i h
    simp only [reduceCtorEq, false_iff]
    rintro ⟨h1, h2, -⟩
    exact h ⟨h1, h2⟩

theorem size_shift {t u : Tape} {delta : Int} (h : t.shift delta = some u) : u.size = t.size := by
  obtain ⟨-, -, hc, -⟩ := shift_eq_some_iff.1 h
  simp only [size, hc]

@[simp] theorem size_increment (t : Tape) : t.increment.size = t.size := size_write _ _

@[simp] theorem size_decrement (t : Tape) : t.decrement.size = t.size := size_write _ _

/-! ## The pointer arithmetic of a 64-bit target -/

/-- `usize::overflowing_add_signed` on a 64-bit target: the wrapped sum of the pointer and the
delta's bits, and whether it wrapped, which is the carry of that sum flipped for a negative
delta. -/
def overflowingAddSigned (p : UInt64) (d : Int64) : UInt64 × Bool :=
  let sum := p + d.toUInt64
  (sum, decide (sum < p) != decide (d < 0))

/-- `usize::checked_add_signed`: the sum, unless it wrapped. -/
def checkedAddSigned (p : UInt64) (d : Int64) : Option UInt64 :=
  match overflowingAddSigned p d with
  | (sum, false) => some sum
  | (_, true) => none

/-- The bits of a delta, read as a word, are the delta itself, or the delta plus `2^64` when it
is negative. -/
theorem toNat_toUInt64 (d : Int64) :
    (d.toUInt64.toNat : Int) = if d.toInt < 0 then d.toInt + UInt64.size else d.toInt := by
  have hcond := BitVec.toInt_eq_toNat_cond d.toBitVec
  rw [Int64.toInt_toBitVec, ← Int64.toBitVec_toUInt64, UInt64.toNat_toBitVec] at hcond
  have hlt := d.toUInt64.toNat_lt
  simp only [UInt64.size]
  split <;> split at hcond <;> omega

/-- The checked sum is the exact sum when that lies in `[0, 2^64)`, and nothing otherwise. -/
theorem checkedAddSigned_eq (p : UInt64) (d : Int64) :
    checkedAddSigned p d =
      if 0 ≤ (p.toNat : Int) + d.toInt ∧ (p.toNat : Int) + d.toInt < UInt64.size
      then some (UInt64.ofNat ((p.toNat : Int) + d.toInt).toNat) else none := by
  have hp := p.toNat_lt
  have hd := toNat_toUInt64 d
  have hsum := UInt64.toNat_add p d.toUInt64
  have hlo := Int64.le_toInt d
  have hhi := Int64.toInt_lt d
  unfold checkedAddSigned overflowingAddSigned
  simp only [UInt64.lt_iff_toNat_lt, Int64.lt_iff_toInt_lt, Int64.toInt_zero]
  by_cases hin : 0 ≤ (p.toNat : Int) + d.toInt ∧ (p.toNat : Int) + d.toInt < UInt64.size
  · -- in range, the word sum falls below `p` exactly when the delta is negative
    have hsame : decide ((p + d.toUInt64).toNat < p.toNat) = decide (d.toInt < 0) := by
      simp only [decide_eq_decide, UInt64.size] at hd hin ⊢
      split at hd <;> omega
    rw [if_pos hin, hsame, bne_self_eq_false]
    simp only [Option.some.injEq]
    apply UInt64.toNat_inj.1
    rw [UInt64.toNat_ofNat', hsum]
    simp only [UInt64.size] at hd hin
    split at hd <;> omega
  · -- out of range, exactly one of the two holds
    have hdiff : (decide ((p + d.toUInt64).toNat < p.toNat) != decide (d.toInt < 0)) = true := by
      simp only [bne_iff_ne, ne_eq, decide_eq_decide, UInt64.size] at hd hin ⊢
      split at hd <;> omega
    rw [if_neg hin, hdiff]

/-- Stepping left from the first cell wraps the word around, and is refused. -/
example : checkedAddSigned 0 (-1) = none ∧ checkedAddSigned 5 (-1) = some 4 := by decide

/-- On a tape of at most `2^64` cells, `shift` by an `isize` delta moves the pointer exactly where
`checked_add_signed` followed by the comparison with the length puts it, and refuses exactly when
they do. -/
theorem pointer_shift_eq_checked (t : Tape) (hsize : t.size ≤ UInt64.size) (d : Int64) :
    (t.shift d.toInt).map pointer =
      ((checkedAddSigned (UInt64.ofNat t.pointer) d).filter (·.toNat < t.size)).map
        UInt64.toNat := by
  have hptr : (UInt64.ofNat t.pointer).toNat = t.pointer :=
    UInt64.toNat_ofNat_of_lt' (Nat.lt_of_lt_of_le t.pointer_lt hsize)
  rw [checkedAddSigned_eq, hptr]
  unfold shift size at *
  dsimp only
  -- a target that is a word reads back as itself
  have hback : 0 ≤ (t.pointer : Int) + d.toInt → (t.pointer : Int) + d.toInt < UInt64.size →
      (UInt64.ofNat ((t.pointer : Int) + d.toInt).toNat).toNat =
        ((t.pointer : Int) + d.toInt).toNat :=
    fun h0 hlt => UInt64.toNat_ofNat_of_lt' (by omega)
  by_cases hon : 0 ≤ (t.pointer : Int) + d.toInt ∧ ((t.pointer : Int) + d.toInt).toNat < t.cells.size
  · -- on the tape: both move the pointer to the exact sum, which is below `2^64`
    have hword : (t.pointer : Int) + d.toInt < UInt64.size := by omega
    rw [dif_pos hon, if_pos ⟨hon.1, hword⟩]
    simp only [Option.filter_some, hback hon.1 hword, hon.2, decide_true, if_true,
      Option.map_some]
  · rw [dif_neg hon]
    by_cases hin : 0 ≤ (t.pointer : Int) + d.toInt ∧ (t.pointer : Int) + d.toInt < UInt64.size
    · -- a word, but past the end: the comparison with the length refuses it
      have hfar : ¬ ((t.pointer : Int) + d.toInt).toNat < t.cells.size := fun hlt => hon ⟨hin.1, hlt⟩
      rw [if_pos hin]
      simp only [Option.filter_some, hback hin.1 hin.2, hfar, decide_false, Bool.false_eq_true,
        if_false, Option.map_none]
    · rw [if_neg hin]
      rfl

end Tape
end GotoTape
