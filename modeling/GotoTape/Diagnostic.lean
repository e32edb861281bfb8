import GotoTape.Interpreter
/-!
# Diagnostics and the step table

How a fault is told to a person: a sentence that says whether the text could not be read or the
run went wrong, and, for faults at an instruction, the position and a window of the program text
with a caret under the instruction. The window reaches 32 characters to each side of the
instruction; line feeds and tabs in it are shown as spaces so the caret stays in its column.

The step table of a traced run has a header, a rule and one row per step.
-/

namespace GotoTape

/-- The sentence a diagnostic opens with. -/
def Fault.diagnostic : Fault → String
  | .programTooLong len capacity =>
    s!"Parse error: program is {len} characters long (capacity {capacity})"
  | .missingLabel _ marker => s!"Parse error: missing label after '{marker}'"
  | .unbalanced _ side =>
    let glyph := side.glyph
    s!"Parse error: unmatched bracket '{glyph}'"
  | .labelTableFull _ label capacity =>
    s!"Parse error: too many labels, cannot define '{label}' (capacity {capacity})"
  | .unknownLabel _ label => s!"Runtime error: jump to unknown label '{label}'"
  | .tapeBounds _ ptr op => s!"Runtime error: pointer out of bounds (ptr={ptr}, op={op})"
  | .bufferFull channel capacity _ =>
    let name := match channel with
      | .input => "input"
      | .output => "output"
    s!"Runtime error: {name} buffer full (capacity {capacity})"
  | f => f.message

namespace Diagnostic

/-- How many characters the window shows on each side of the instruction. -/
def reach : Nat := 32

/-- A character as the window shows it: line feeds and tabs become spaces. -/
def shown (c : Char) : Char := if c = '\n' ∨ c = '\t' then ' ' else c

/-- The window of `code` around position `pos`, and the caret line under it. -/
def window (code : List Char) (pos : Nat) : String × String :=
  let start := pos - reach
  let slice := ((code.drop start).take (pos - start + reach + 1)).map shown
  (String.ofList slice, String.ofList (List.replicate (pos - start) ' ') ++ "^")

/-- The three lines that point at position `pos` of `code`, after the sentence `head`. -/
def pointing (head : String) (code : List Char) (pos : Nat) : String :=
  let (slice, caret) := window code pos
  s!"{head} at instruction {pos}\n  {slice}\n  {caret}\n"

/-- The whole diagnostic of a fault in `code`, prefixed with the program name when given. -/
def ofFault (program : Option String) (code : List Char) (f : Fault) : String :=
  let sentence := f.diagnostic
  let head := match program with
    | some p => s!"{p}: {sentence}"
    | none => sentence
  match f.position with
  | some pos => pointing head code pos
  | none => head ++ "\n"

end Diagnostic

namespace StepTable

/-- Pads a text with spaces on the right to `width` characters. -/
def padRight (s : String) (width : Nat) : String :=
  s ++ String.ofList (List.replicate (width - s.length) ' ')

/-- The header line. -/
def header : String := "STEP | IP  | PTR | CELL | INSTR | ACTION"

/-- The rule under the header. -/
def rule : String := "-----+-----+-----+------+-------+" ++ String.ofList (List.replicate 48 '-')

/-- The line of one row. -/
def line (r : Row) : String :=
  let step := padRight (toString r.step) 4
  let ip := padRight (toString r.ip) 3
  let ptr := padRight (toString r.ptr) 3
  let cell := padRight (toString r.cell) 4
  let instr := r.instr
  let text := r.action.text
  s!"{step} | {ip} | {ptr} | {cell} |  {instr}    | {text}"

/-- The table of a traced run, each line ended by a line feed. -/
def render (rows : Array Row) : String :=
  String.join ((header :: rule :: (rows.toList.map line)).map (· ++ "\n"))

end StepTable
end GotoTape
