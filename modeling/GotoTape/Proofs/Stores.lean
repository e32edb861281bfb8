import GotoTape.Input
import GotoTape.Output
import GotoTape.Tape
/-!
# The stores of a run under any sequence of calls

A run keeps its bytes in three stores: the input buffer it reads from, the output buffer it
writes to, and the tape. Each is a record with its own calls, and each keeps a simple picture of
what the calls did to it, however they are mixed.

* The input buffer holds the bytes of every staging that succeeded, in order, and never more
  than its capacity. Its read cursor has passed exactly the bytes read since the last rewind,
  so the `j`-th byte a read returns is byte `j` of the staged bytes, and a read returns nothing
  exactly when the cursor stands at the end.
* The output buffer holds the bytes of every write that succeeded, in order, and a write fails
  exactly when the buffer is full.
* The tape keeps the number of cells it was made with, at least one, and a head on it.

The calls that reach a store are stated as an inductive relation, one constructor per call, with
the history the picture speaks of as its indices. A failed call gives no new store, and the
caller goes on with the one it had; the relations say so. Reading a store changes nothing and so
is not among the calls.

Main statements: `buffers_under_calls` and `tape_under_calls`.
-/

namespace GotoTape

namespace InputBuffer

/-- The input buffers that calls reach from a new buffer of capacity `cap`, with the bytes of the
stagings that succeeded and the bytes read since the last rewind, each in order. -/
inductive Staging (cap : Nat) : InputBuffer → List UInt8 → List UInt8 → Prop
  /-- A new buffer has nothing staged and nothing read. -/
  | new : Staging cap (.new cap) [] []
  /-- A staging that succeeds adds its bytes. -/
  | stage {b b' : InputBuffer} {acc rd : List UInt8} {bytes : Array UInt8} :
      Staging cap b acc rd → b.stage bytes = .ok b' → Staging cap b' (acc ++ bytes.toList) rd
  /-- A staging that fails leaves the buffer as it was. -/
  | refuse {b : InputBuffer} {acc rd : List UInt8} {bytes : Array UInt8} {f : Fault} :
      Staging cap b acc rd → b.stage bytes = .error f → Staging cap b acc rd
  /-- A read adds the byte it returns, if any. -/
  | next {b : InputBuffer} {acc rd : List UInt8} :
      Staging cap b acc rd → Staging cap b.next.2 acc (rd ++ b.next.1.toList)
  /-- A rewind forgets what was read. -/
  | rewind {b : InputBuffer} {acc rd : List UInt8} :
      Staging cap b acc rd → Staging cap b.rewind acc []

/-- What an input buffer holds after the calls of `Staging`: its capacity, the staged bytes
within it, and a cursor past exactly the bytes read since the last rewind. -/
structure Holds (cap : Nat) (acc rd : List UInt8) (b : InputBuffer) : Prop where
  capacity : b.capacity = cap
  staged : b.staged.toList = acc
  fits : acc.length ≤ cap
  read_le : b.read ≤ acc.length
  taken : rd = acc.take b.read

theorem next_snd_read (b : InputBuffer) :
    b.next.2 = if b.read < b.staged.size then { b with read := b.read + 1 } else b := by
  unfold next
  split <;> simp_all

theorem stage_eq_error_iff {b : InputBuffer} {bytes : Array UInt8} {f : Fault} :
    b.stage bytes = .error f ↔
      b.capacity < b.staged.size + bytes.size ∧ f = .bufferFull .input b.capacity none := by
  unfold stage
  split
  · rename_i h
    simp only [Except.error.injEq, h, true_and]
    exact eq_comm
  · rename_i h
    simp only [reduceCtorEq, false_iff, not_and]
    intro h'
    exact absurd h' h

namespace Holds

variable {cap : Nat} {acc rd : List UInt8} {b : InputBuffer}

theorem new (cap : Nat) : Holds cap [] [] (InputBuffer.new cap) :=
  ⟨rfl, rfl, Nat.zero_le _, Nat.le_refl 0, rfl⟩

theorem size_eq (h : Holds cap acc rd b) : b.staged.size = acc.length := by
  rw [← h.staged, Array.length_toList]

/-- A staging appends behind the cursor, so what was read stays a prefix of what is staged. -/
theorem stage (h : Holds cap acc rd b) {bytes : Array UInt8} {b' : InputBuffer}
    (hs : b.stage bytes = .ok b') : Holds cap (acc ++ bytes.toList) rd b' := by
  have hsize := h.size_eq
  obtain ⟨hfit, rfl⟩ := stage_eq_ok_iff.1 hs
  refine ⟨h.capacity, by simp [h.staged], ?_, ?_, ?_⟩
  · have hbl : bytes.toList.length = bytes.size := Array.length_toList
    rw [h.capacity] at hfit
    rw [List.length_append, hbl]
    omega
  · exact Nat.le_trans h.read_le (by simp)
  · rw [h.taken, List.take_append_of_le_length h.read_le]

theorem next (h : Holds cap acc rd b) : Holds cap acc (rd ++ b.next.1.toList) b.next.2 := by
  have hsize := h.size_eq
  rw [next_fst, next_snd_read]
  by_cases hr : b.read < b.staged.size
  · -- the byte under the cursor is byte `read` of the staged bytes
    have hget : b.staged[b.read]? = acc[b.read]? := by rw [← h.staged, Array.getElem?_toList]
    rw [if_pos hr, hget]
    refine ⟨h.capacity, h.staged, h.fits, by simp only; omega, ?_⟩
    rw [h.taken, List.take_add_one]
  · rw [if_neg hr, Array.getElem?_eq_none (Nat.le_of_not_lt hr), Option.toList_none,
      List.append_nil]
    exact h

theorem rewind (h : Holds cap acc rd b) : Holds cap acc [] b.rewind :=
  ⟨h.capacity, h.staged, h.fits, Nat.zero_le _, by simp [InputBuffer.rewind]⟩

end Holds

theorem Staging.holds {cap : Nat} {b : InputBuffer} {acc rd : List UInt8}
    (h : Staging cap b acc rd) : Holds cap acc rd b := by
  induction h with
  | new => exact Holds.new cap
  | stage _ hs ih => exact ih.stage hs
  | refuse _ _ ih => exact ih
  | next _ ih => exact ih.next
  | rewind _ ih => exact ih.rewind

end InputBuffer

namespace OutputBuffer

/-- The output buffers that writes reach from a new buffer of capacity `cap`, with the bytes of
the writes that succeeded, in order. -/
inductive Emitting (cap : Nat) : OutputBuffer → List UInt8 → Prop
  /-- A new buffer holds nothing. -/
  | new : Emitting cap (.new cap) []
  /-- A write that succeeds adds its byte. -/
  | emit {o o' : OutputBuffer} {out : List UInt8} {byte : UInt8} {ip : Nat} :
      Emitting cap o out → o.emit byte ip = .ok o' → Emitting cap o' (out ++ [byte])
  /-- A write that fails leaves the buffer as it was. -/
  | refuse {o : OutputBuffer} {out : List UInt8} {byte : UInt8} {ip : Nat} {f : Fault} :
      Emitting cap o out → o.emit byte ip = .error f → Emitting cap o out

/-- What an output buffer holds after the writes of `Emitting`: its capacity, and the bytes
written, within it. -/
structure Holds (cap : Nat) (out : List UInt8) (o : OutputBuffer) : Prop where
  capacity : o.capacity = cap
  bytes : o.bytes.toList = out
  fits : out.length ≤ cap

theorem Holds.size_eq {cap : Nat} {out : List UInt8} {o : OutputBuffer} (h : Holds cap out o) :
    o.bytes.size = out.length := by
  rw [← h.bytes, Array.length_toList]

theorem emit_eq_error_iff {o : OutputBuffer} {byte : UInt8} {ip : Nat} {f : Fault} :
    o.emit byte ip = .error f ↔
      o.capacity ≤ o.bytes.size ∧ f = .bufferFull .output o.capacity (some ip) := by
  unfold emit isFull overflow
  split
  · rename_i h
    simp only [decide_eq_true_eq] at h
    simp only [Except.error.injEq, h, true_and]
    exact eq_comm
  · rename_i h
    simp only [decide_eq_true_eq] at h
    simp only [reduceCtorEq, false_iff, not_and]
    intro h'
    exact absurd h' h

theorem Emitting.holds {cap : Nat} {o : OutputBuffer} {out : List UInt8}
    (h : Emitting cap o out) : Holds cap out o := by
  induction h with
  | new => exact ⟨rfl, rfl, Nat.zero_le _⟩
  | @emit o o' out byte ip _ he ih =>
    have hsize := ih.size_eq
    obtain ⟨hlt, rfl⟩ := emit_eq_ok_iff.1 he
    rw [ih.capacity] at hlt
    refine ⟨ih.capacity, by simp [ih.bytes], ?_⟩
    rw [List.length_append, List.length_singleton]
    omega
  | refuse _ _ ih => exact ih

end OutputBuffer

/-- After any calls, the input buffer holds the bytes staged, reads them in order from the last
rewind on and fails a staging exactly when it would overflow; the output buffer holds the bytes
written and fails a write exactly when it is full. -/
theorem buffers_under_calls {cap cap' : Nat} {b : InputBuffer} {acc rd : List UInt8}
    {o : OutputBuffer} {out : List UInt8}
    (hb : InputBuffer.Staging cap b acc rd) (ho : OutputBuffer.Emitting cap' o out) :
    (b.read ≤ b.staged.size ∧ b.staged.size ≤ cap ∧ b.remaining + b.read = b.staged.size ∧
      b.staged.toList = acc ∧ rd = acc.take b.read ∧
      b.next.1 = acc[b.read]? ∧ (b.next.1 = none ↔ b.read = b.staged.size) ∧
      (∀ bytes c, b.stage bytes = .ok c ↔
        b.staged.size + bytes.size ≤ cap ∧ c = { b with staged := b.staged ++ bytes }) ∧
      (∀ bytes f, b.stage bytes = .error f ↔
        cap < b.staged.size + bytes.size ∧ f = .bufferFull .input cap none)) ∧
    (o.bytes.size ≤ cap' ∧ o.bytes.toList = out ∧
      (∀ byte ip c, o.emit byte ip = .ok c ↔
        o.bytes.size < cap' ∧ c = { o with bytes := o.bytes.push byte }) ∧
      (∀ byte ip f, o.emit byte ip = .error f ↔
        o.bytes.size = cap' ∧ f = .bufferFull .output cap' (some ip))) := by
  have hi := hb.holds
  have hout := ho.holds
  have hread := hi.read_le
  have hfits := hi.fits
  have hofits := hout.fits
  have hsize := hi.size_eq
  have hosize := hout.size_eq
  have hnext : b.next.1 = acc[b.read]? := by
    rw [InputBuffer.next_fst, ← hi.staged, Array.getElem?_toList]
  refine ⟨⟨by omega, by omega, by unfold InputBuffer.remaining; omega, hi.staged, hi.taken,
    hnext, ?_, fun bytes c => ?_, fun bytes f => ?_⟩,
    ⟨by omega, hout.bytes, fun byte ip c => ?_, fun byte ip f => ?_⟩⟩
  · rw [hnext, List.getElem?_eq_none_iff]
    omega
  · rw [InputBuffer.stage_eq_ok_iff, hi.capacity]
  · rw [InputBuffer.stage_eq_error_iff, hi.capacity]
  · rw [OutputBuffer.emit_eq_ok_iff, hout.capacity]
  · -- the buffer never holds more than its capacity, so a full buffer holds exactly that
    rw [OutputBuffer.emit_eq_error_iff, hout.capacity]
    constructor
    · rintro ⟨hle, rfl⟩
      exact ⟨by omega, rfl⟩
    · rintro ⟨heq, rfl⟩
      exact ⟨by omega, rfl⟩

/-- Two bytes staged into a buffer of three, a staging of two more refused, and one byte read;
one byte written into a buffer of one, and a second write refused. -/
theorem two_staged_one_read :
    InputBuffer.Staging 3 ⟨3, #[104, 105], 1⟩ [104, 105] [104] ∧
    OutputBuffer.Emitting 1 ⟨1, #[7]⟩ [7] ∧
    ((1 ≤ 2 ∧ 2 ≤ 3 ∧ (⟨3, #[104, 105], 1⟩ : InputBuffer).remaining + 1 = 2 ∧
      #[(104 : UInt8), 105].toList = [104, 105] ∧
      ([104] : List UInt8) = ([104, 105] : List UInt8).take 1 ∧
      (⟨3, #[104, 105], 1⟩ : InputBuffer).next.1 = ([104, 105] : List UInt8)[1]? ∧
      ((⟨3, #[104, 105], 1⟩ : InputBuffer).next.1 = none ↔ 1 = 2) ∧
      (∀ bytes c, (⟨3, #[104, 105], 1⟩ : InputBuffer).stage bytes = .ok c ↔
        2 + bytes.size ≤ 3 ∧ c = ⟨3, #[104, 105] ++ bytes, 1⟩) ∧
      (∀ bytes f, (⟨3, #[104, 105], 1⟩ : InputBuffer).stage bytes = .error f ↔
        3 < 2 + bytes.size ∧ f = .bufferFull .input 3 none)) ∧
    (1 ≤ 1 ∧ #[(7 : UInt8)].toList = [7] ∧
      (∀ byte ip c, (⟨1, #[7]⟩ : OutputBuffer).emit byte ip = .ok c ↔
        1 < 1 ∧ c = ⟨1, #[7].push byte⟩) ∧
      (∀ byte ip f, (⟨1, #[7]⟩ : OutputBuffer).emit byte ip = .error f ↔
        1 = 1 ∧ f = .bufferFull .output 1 (some ip)))) := by
  have h1 : (InputBuffer.new 3).stage #[104, 105] = .ok ⟨3, #[104, 105], 0⟩ := rfl
  have h2 : (⟨3, #[104, 105], 0⟩ : InputBuffer).stage #[99, 100] =
      .error (.bufferFull .input 3 none) := rfl
  have hs : InputBuffer.Staging 3 ⟨3, #[104, 105], 0⟩ [104, 105] [] :=
    @InputBuffer.Staging.stage 3 _ _ [] [] #[104, 105] .new h1
  have hb : InputBuffer.Staging 3 ⟨3, #[104, 105], 1⟩ [104, 105] [104] :=
    InputBuffer.Staging.next (InputBuffer.Staging.refuse hs h2)
  have h3 : (OutputBuffer.new 1).emit 7 0 = .ok ⟨1, #[7]⟩ := rfl
  have h4 : (⟨1, #[7]⟩ : OutputBuffer).emit 8 1 = .error (.bufferFull .output 1 (some 1)) := rfl
  have ho : OutputBuffer.Emitting 1 ⟨1, #[7]⟩ [7] :=
    OutputBuffer.Emitting.refuse (@OutputBuffer.Emitting.emit 1 _ _ [] 7 0 .new h3) h4
  exact ⟨hb, ho, buffers_under_calls hb ho⟩

namespace Tape

/-- The tapes that calls reach from a new tape of `n` cells. A move that would leave the tape
gives no tape, and the caller keeps the one it had, so it adds nothing here. -/
inductive Moves (n : Nat) : Tape → Prop
  | new : Moves n (.new n)
  | shift {t u : Tape} {delta : Int} : Moves n t → t.shift delta = some u → Moves n u
  | write {t : Tape} (v : UInt8) : Moves n t → Moves n (t.write v)
  | increment {t : Tape} : Moves n t → Moves n t.increment
  | decrement {t : Tape} : Moves n t → Moves n t.decrement

/-- `u` is `t` with the cell under the head set to `v`: the head stays, and no other cell
changes. -/
def SetsCell (t u : Tape) (v : UInt8) : Prop :=
  u.pointer = t.pointer ∧ ∀ i, u.cells[i]? = if t.pointer = i then some v else t.cells[i]?

theorem write_setsCell (t : Tape) (v : UInt8) : t.SetsCell (t.write v) v := by
  refine ⟨rfl, fun i => ?_⟩
  obtain ⟨cells, pointer, h⟩ := t
  simp only [write, Array.getElem?_set]

/-- A move succeeds exactly when its target, counted in the integers, lies on the tape. -/
theorem shift_isSome_iff (t : Tape) (delta : Int) :
    (t.shift delta).isSome ↔
      0 ≤ (t.pointer : Int) + delta ∧ (t.pointer : Int) + delta < t.size := by
  rw [Option.isSome_iff_exists]
  constructor
  · rintro ⟨u, hu⟩
    obtain ⟨h0, hlt, -, -⟩ := shift_eq_some_iff.1 hu
    exact ⟨h0, by omega⟩
  · rintro ⟨h0, hlt⟩
    refine ⟨⟨t.cells, ((t.pointer : Int) + delta).toNat, by unfold size at hlt; omega⟩, ?_⟩
    exact shift_eq_some_iff.2 ⟨h0, by omega, rfl, by simp only; omega⟩

theorem Moves.size {n : Nat} {t : Tape} (h : t.Moves n) : t.size = max n 1 := by
  induction h with
  | new => exact size_new n
  | shift _ hs ih => rw [size_shift hs, ih]
  | write v _ ih => rw [size_write, ih]
  | increment _ ih => rw [size_increment, ih]
  | decrement _ ih => rw [size_decrement, ih]

end Tape

/-- After any calls, a tape has the cells it was made with, at least one, and its head on
one of them. A move by `delta` succeeds exactly when the head plus `delta`, counted in the
integers, lies on the tape, and then moves the head there and keeps the cells. A write, an
increment and a decrement change the cell under the head only, the last two by one modulo 256,
and the new value is what the head then reads. -/
theorem tape_under_calls {n : Nat} {t : Tape} (h : t.Moves n) :
    t.size = max n 1 ∧ t.pointer < t.size ∧
    (∀ delta : Int, (t.shift delta).isSome ↔
      0 ≤ (t.pointer : Int) + delta ∧ (t.pointer : Int) + delta < t.size) ∧
    (∀ (delta : Int) (u : Tape), t.shift delta = some u →
      u.cells = t.cells ∧ (u.pointer : Int) = t.pointer + delta) ∧
    (∀ v, t.SetsCell (t.write v) v) ∧
    t.SetsCell t.increment t.increment.read ∧
      t.increment.read.toNat = (t.read.toNat + 1) % 256 ∧
    t.SetsCell t.decrement t.decrement.read ∧
      t.decrement.read.toNat = (t.read.toNat + 255) % 256 := by
  refine ⟨h.size, t.pointer_lt, t.shift_isSome_iff, fun delta u hu => ?_, t.write_setsCell, ?_,
    ?_, ?_, ?_⟩
  · obtain ⟨-, -, hc, hp⟩ := Tape.shift_eq_some_iff.1 hu
    exact ⟨hc, hp⟩
  · rw [Tape.increment, Tape.read_write]
    exact t.write_setsCell _
  · have hadd := UInt8.toNat_add t.read 1
    have hone : (1 : UInt8).toNat = 1 := rfl
    rw [Tape.increment, Tape.read_write]
    omega
  · rw [Tape.decrement, Tape.read_write]
    exact t.write_setsCell _
  · have hsub := UInt8.toNat_sub t.read 1
    have hone : (1 : UInt8).toNat = 1 := rfl
    rw [Tape.decrement, Tape.read_write]
    omega

/-- A tape of three cells with its first cell incremented. -/
theorem incremented_tape_under_calls :
    Tape.Moves 3 (Tape.new 3).increment ∧
    (Tape.new 3).increment.size = max 3 1 ∧
    (Tape.new 3).increment.pointer < (Tape.new 3).increment.size ∧
    (∀ delta : Int, ((Tape.new 3).increment.shift delta).isSome ↔
      0 ≤ ((Tape.new 3).increment.pointer : Int) + delta ∧
        ((Tape.new 3).increment.pointer : Int) + delta < (Tape.new 3).increment.size) ∧
    (∀ (delta : Int) (u : Tape), (Tape.new 3).increment.shift delta = some u →
      u.cells = (Tape.new 3).increment.cells ∧
        (u.pointer : Int) = (Tape.new 3).increment.pointer + delta) ∧
    (∀ v, (Tape.new 3).increment.SetsCell ((Tape.new 3).increment.write v) v) ∧
    (Tape.new 3).increment.SetsCell (Tape.new 3).increment.increment
      (Tape.new 3).increment.increment.read ∧
      (Tape.new 3).increment.increment.read.toNat =
        ((Tape.new 3).increment.read.toNat + 1) % 256 ∧
    (Tape.new 3).increment.SetsCell (Tape.new 3).increment.decrement
      (Tape.new 3).increment.decrement.read ∧
      (Tape.new 3).increment.decrement.read.toNat =
        ((Tape.new 3).increment.read.toNat + 255) % 256 :=
  ⟨.increment .new, tape_under_calls (.increment .new)⟩

end GotoTape
