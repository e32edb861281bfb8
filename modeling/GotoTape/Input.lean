import GotoTape.Fault
import GotoTape.Text.Blank
/-!
# Program input

The bytes a program reads with `,`, staged before it runs, and the policy for a read after the
last of them. Staging appends and never grows the buffer past its capacity; a run reads from the
first staged byte on, and `rewind` starts the next run there again.

Main statements: `stage_eq_ok_iff` (staging succeeds exactly when the bytes fit) and `next_rewind`.
-/

namespace GotoTape

/-- What `,` stores once the staged input is used up. -/
inductive EofPolicy where
  /-- Store zero in the cell. -/
  | zero
  /-- Leave the cell as it was. -/
  | unchanged
  deriving DecidableEq, Repr, Inhabited

namespace EofPolicy

/-- Reads a policy name, ignoring surrounding blanks and the case of ASCII letters: `zero` or
`0`, `unchanged` or `keep`. -/
def parse (s : String) : Option EofPolicy :=
  match Text.asciiLower (Text.trimBlank s) with
  | "zero" | "0" => some .zero
  | "unchanged" | "keep" => some .unchanged
  | _ => none

/-- The name a policy is shown by. -/
def name : EofPolicy → String
  | .zero => "zero"
  | .unchanged => "unchanged"

end EofPolicy

/-- Staged input bytes and how many of them the current run has read. -/
structure InputBuffer where
  capacity : Nat
  staged : Array UInt8 := #[]
  read : Nat := 0
  deriving Repr

namespace InputBuffer

/-- An empty buffer that holds at most `capacity` bytes. -/
def new (capacity : Nat) : InputBuffer := { capacity }

/-- Appends bytes to the staged input, or reports a full input buffer and changes nothing when
they do not all fit. -/
def stage (b : InputBuffer) (bytes : Array UInt8) : Except Fault InputBuffer :=
  if b.capacity < b.staged.size + bytes.size then
    .error (.bufferFull .input b.capacity none)
  else
    .ok { b with staged := b.staged ++ bytes }

/-- The next unread byte, if any, and the buffer past it. -/
def next (b : InputBuffer) : Option UInt8 × InputBuffer :=
  if h : b.read < b.staged.size then
    (some b.staged[b.read], { b with read := b.read + 1 })
  else (none, b)

/-- Starts reading from the first staged byte again. -/
def rewind (b : InputBuffer) : InputBuffer := { b with read := 0 }

/-- How many staged bytes are still unread. -/
def remaining (b : InputBuffer) : Nat := b.staged.size - b.read

theorem stage_eq_ok_iff {b c : InputBuffer} {bytes : Array UInt8} :
    b.stage bytes = .ok c ↔ b.staged.size + bytes.size ≤ b.capacity ∧
      c = { b with staged := b.staged ++ bytes } := by
  unfold stage
  split
  · simp only [reduceCtorEq, false_iff, not_and]
    intro h; omega
  · simp only [Except.ok.injEq]
    constructor
    · intro h; exact ⟨by omega, h.symm⟩
    · intro h; exact h.2.symm

theorem next_fst (b : InputBuffer) : b.next.1 = b.staged[b.read]? := by
  unfold next
  split <;> simp_all

@[simp] theorem next_rewind (b : InputBuffer) :
    b.rewind.next = (b.staged[0]?, if b.staged.size = 0 then b.rewind else { b.rewind with read := 1 }) := by
  unfold next rewind
  by_cases h : b.staged.size = 0
  · simp [h]
  · have h0 : 0 < b.staged.size := Nat.pos_of_ne_zero h
    simp [h0, h]

end InputBuffer
end GotoTape
