import GotoTape.Fault
/-!
# Program output

The bytes a program writes with `.`, in order, up to a capacity. A write into a full buffer is a
fault that names the instruction and changes nothing.

Main statement: `emit_eq_ok_iff`.
-/

namespace GotoTape

/-- The bytes written so far and how many the buffer may hold. -/
structure OutputBuffer where
  capacity : Nat
  bytes : Array UInt8 := #[]
  deriving Repr

namespace OutputBuffer

/-- An empty buffer that holds at most `capacity` bytes. -/
def new (capacity : Nat) : OutputBuffer := { capacity }

/-- The number of bytes written. -/
def size (o : OutputBuffer) : Nat := o.bytes.size

/-- Whether nothing was written. -/
def isEmpty (o : OutputBuffer) : Bool := o.bytes.isEmpty

/-- Whether the buffer holds as many bytes as it may. -/
def isFull (o : OutputBuffer) : Bool := o.capacity ≤ o.bytes.size

/-- The fault of writing into this buffer, full, for the instruction at `ip`. -/
def overflow (o : OutputBuffer) (ip : Nat) : Fault := .bufferFull .output o.capacity (some ip)

/-- Appends a byte without looking at the capacity. -/
def push (o : OutputBuffer) (byte : UInt8) : OutputBuffer :=
  match o with
  | ⟨capacity, bytes⟩ => ⟨capacity, bytes.push byte⟩

/-- Writes one byte for the instruction at `ip`, or reports a full output buffer. -/
def emit (o : OutputBuffer) (byte : UInt8) (ip : Nat) : Except Fault OutputBuffer :=
  if o.isFull then .error (o.overflow ip) else .ok (o.push byte)

theorem emit_eq_ok_iff {o p : OutputBuffer} {byte : UInt8} {ip : Nat} :
    o.emit byte ip = .ok p ↔ o.bytes.size < o.capacity ∧ p = { o with bytes := o.bytes.push byte } := by
  unfold emit isFull push
  split
  · simp only [reduceCtorEq, false_iff, not_and]
    rename_i hf
    simp only [decide_eq_true_eq] at hf
    intro h; omega
  · simp only [Except.ok.injEq]
    rename_i h
    simp only [decide_eq_true_eq, Nat.not_le] at h
    constructor
    · intro h'; exact ⟨h, h'.symm⟩
    · intro h'; exact h'.2.symm

end OutputBuffer
end GotoTape
