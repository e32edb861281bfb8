/-!
# Faults

Everything that stops a program: the four faults the pre-scan finds before anything runs, the
three a running program can meet, and the two ways a run is aborted from outside. Each fault
carries what it is about; its sentence, the instruction it points at and whether it is static
are read off it by `Fault.message`, `Fault.position` and `Fault.isStatic`.
-/

namespace GotoTape

/-- The side of a loop that has no partner. -/
inductive BracketSide where
  | opening
  | closing
  deriving DecidableEq, Repr

/-- The character that opens or closes a loop. -/
def BracketSide.glyph : BracketSide → Char
  | .opening => '['
  | .closing => ']'

/-- The two byte channels of a machine. -/
inductive Channel where
  | input
  | output
  deriving DecidableEq, Repr

/-- The capitalised name a channel is reported by. -/
def Channel.name : Channel → String
  | .input => "Input"
  | .output => "Output"

/-- Why a program did not run to its end. Instruction positions count characters of the
program text from zero. -/
inductive Fault where
  /-- The text has more characters than the program capacity allows. -/
  | programTooLong (len capacity : Nat)
  /-- A label marker is the last character of the program. -/
  | missingLabel (ip : Nat) (marker : Char)
  /-- A loop bracket without partner. -/
  | unbalanced (ip : Nat) (side : BracketSide)
  /-- A new label was defined after the label table filled up. -/
  | labelTableFull (ip : Nat) (label : Char) (capacity : Nat)
  /-- A jump names a label that no definition introduced. -/
  | unknownLabel (ip : Nat) (label : Char)
  /-- A move would take the head off either end of the tape. -/
  | tapeBounds (ip ptr : Nat) (op : Char)
  /-- A channel's buffer holds as many bytes as it may; only output faults carry a position. -/
  | bufferFull (channel : Channel) (capacity : Nat) (ip : Option Nat)
  /-- The run dispatched as many steps as it was allowed. -/
  | stepLimit (limit : Nat)
  /-- The run was cancelled from outside. -/
  | cancelled
  deriving DecidableEq, Repr

namespace Fault

/-- The sentence that describes a fault. -/
def message : Fault → String
  | .programTooLong len capacity =>
    s!"Program too long: {len} characters (capacity {capacity})"
  | .missingLabel ip marker => s!"Missing label after '{marker}' at instruction {ip}"
  | .unbalanced ip side =>
    let glyph := side.glyph
    s!"Unmatched bracket '{glyph}' at instruction {ip}"
  | .labelTableFull ip label capacity =>
    s!"Label table full: cannot register '{label}' at instruction {ip} (capacity {capacity})"
  | .unknownLabel ip label => s!"Unknown label '{label}' at instruction {ip}"
  | .tapeBounds ip ptr op => s!"Tape bounds exceeded at instruction {ip} (ptr={ptr}, op='{op}')"
  | .bufferFull channel capacity _ =>
    let name := channel.name
    s!"{name} buffer full (capacity {capacity})"
  | .stepLimit limit => s!"Execution aborted: step limit exceeded ({limit})"
  | .cancelled => "Execution aborted: cancelled"

/-- The instruction a fault points at, for the faults that have one. -/
def position : Fault → Option Nat
  | .missingLabel ip _ | .unbalanced ip _ | .labelTableFull ip _ _ | .unknownLabel ip _
  | .tapeBounds ip _ _ => some ip
  | .bufferFull _ _ ip => ip
  | .programTooLong _ _ | .stepLimit _ | .cancelled => none

/-- Static faults are found by the pre-scan, before any instruction runs. -/
def isStatic : Fault → Bool
  | .programTooLong _ _ | .missingLabel _ _ | .unbalanced _ _ | .labelTableFull _ _ _ => true
  | _ => false

end Fault
end GotoTape
