/-!
# Actions and trace rows

What one dispatched instruction did, and the row a traced run records for it: the step number,
the instruction's position, the head and the cell under it before the step, the instruction and
its action. Each action has a sentence, `Action.text`, that the step table prints.
-/

namespace GotoTape

/-- What one step did. -/
inductive Action where
  /-- The head moved to cell `target`. -/
  | movePointer (target : Nat)
  /-- Cell `cell` went up by one. -/
  | increment (cell : Nat) (before after : UInt8)
  /-- Cell `cell` went down by one. -/
  | decrement (cell : Nat) (before after : UInt8)
  /-- The byte was written to the output. -/
  | output (byte : UInt8)
  /-- A byte was read (or none, at the end of the input), and `stored` is in the cell now. -/
  | input (byte : Option UInt8) (stored : UInt8)
  /-- A loop was entered. -/
  | enterLoop
  /-- A loop was skipped; the run goes on at `target`. -/
  | skipLoop (target : Nat)
  /-- A loop goes round again from `target`. -/
  | repeatLoop (target : Nat)
  /-- A loop ended. -/
  | exitLoop
  /-- A label definition was passed. -/
  | defineLabel (label : Char)
  /-- A jump to the label, which goes on at `target`. -/
  | jump (label : Char) (target : Nat)
  /-- An inert character. -/
  | nothing
  deriving DecidableEq, Repr

/-- The sentence that describes an action. -/
def Action.text : Action → String
  | .movePointer target => s!"Moved pointer head to index {target}"
  | .increment cell before after => s!"Increment cell[{cell}] from {before} to {after}"
  | .decrement cell before after => s!"Decrement cell[{cell}] from {before} to {after}"
  | .output byte => s!"Output byte {byte}"
  | .input (some byte) _ => s!"Read input byte {byte}"
  | .input none stored => s!"End of input; cell is {stored}"
  | .enterLoop => "Enter loop (cell != 0)"
  | .skipLoop target => s!"Cell is 0; jump forward to IP {target}"
  | .repeatLoop target => s!"Cell != 0; jump back to IP {target}"
  | .exitLoop => "Exit loop (cell is 0)"
  | .defineLabel label => s!"Label '{label}'"
  | .jump label target => s!"Jump to label '{label}' at IP {target}"
  | .nothing => "No-op"

/-- One step of a traced run, with the head and cell as they were before it. -/
structure Row where
  step : Nat
  ip : Nat
  ptr : Nat
  cell : UInt8
  instr : Char
  action : Action
  deriving DecidableEq, Repr

end GotoTape
