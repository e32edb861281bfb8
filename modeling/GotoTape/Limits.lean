/-!
# Limits

The capacities of everything of fixed size that a run uses: the tape, the two byte buffers, the
label table and the program text itself.
-/

namespace GotoTape

/-- Capacities of a run. Each defaults to the size a program gets when nothing else is said. -/
structure Limits where
  /-- Cells of the tape. -/
  tapeCells : Nat := 5000
  /-- Bytes each of the input and output buffers holds. -/
  bufferCapacity : Nat := 5000
  /-- Distinct labels a program may define. -/
  labelCapacity : Nat := 20
  /-- Characters a program may have. -/
  programCapacity : Nat := 5000
  deriving DecidableEq, Repr, Inhabited

end GotoTape
