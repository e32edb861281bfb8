import GotoTape.Machine
/-!
# The interpreter

A program text with its limits, its end-of-input policy and its staged input, together with the
tape and output the latest run left behind. Every run scans the text first; a text that fails the
scan leaves tape, output and input cursor as they were. A run that passes starts from a zero tape,
an empty output and the first staged byte, so each run is independent of the ones before it.

A run can keep its trace rows and the records of its jumps (`Watch`); what it keeps never changes
what it does. Its report lists the scan's records, then one per jump if asked for, then, when it
finished, a summary.
-/

namespace GotoTape

/-- A program text and everything that stays between its runs. -/
structure Interpreter where
  code : String
  limits : Limits
  eof : EofPolicy := .zero
  input : InputBuffer
  tape : Tape
  output : OutputBuffer

/-- The part of the library whose records are about runs. -/
def Interpreter.logTarget : String := "goto_bf::interpreter"

/-- What a run keeps besides its effect: its trace rows, the records of its jumps. -/
structure Watch where
  rows : Bool := false
  jumps : Bool := false
  deriving DecidableEq, Repr

/-- The rows and jump records a run kept so far. -/
structure Kept where
  rows : Array Row := #[]
  jumps : Array Record := #[]

/-- The record of a jump at `ip` to `label`, which goes on at `dest`. -/
def jumpRecord (ip : Nat) (label : Char) (dest : Nat) : Record :=
  { level := .trace, target := Interpreter.logTarget,
    message := s!"jump at {ip} to label '{label}' -> {dest}" }

/-- Keeps what `w` asks for from one row. -/
def Watch.note (w : Watch) (k : Kept) (r : Row) : Kept :=
  match k with
  | ⟨rows, jumps⟩ =>
    let rows := if w.rows then rows.push r else rows
    match r.action with
    | .jump label target => ⟨rows, if w.jumps then jumps.push (jumpRecord r.ip label target) else jumps⟩
    | _ => ⟨rows, jumps⟩

/-- What a run reports: how it ended, the rows it kept, its records and its step count. -/
structure Report where
  outcome : Outcome
  rows : Array Row := #[]
  records : List Record := []
  steps : Nat := 0

namespace Interpreter

/-- An interpreter for `code` under `limits`, with nothing staged. -/
def withLimits (code : String) (limits : Limits) : Interpreter :=
  { code := code, limits := limits, input := .new limits.bufferCapacity,
    tape := .new limits.tapeCells, output := .new limits.bufferCapacity }

/-- An interpreter for `code` under the default limits. -/
def new (code : String) : Interpreter := withLimits code {}

/-- Stages more input bytes after those already staged; a failure changes nothing. -/
def stage (it : Interpreter) (bytes : Array UInt8) : Except Fault Interpreter :=
  match it.input.stage bytes with
  | .ok b => .ok { it with input := b }
  | .error f => .error f

/-- Sets what `,` stores once the input is used up. -/
def setEof (it : Interpreter) (eof : EofPolicy) : Interpreter := { it with eof := eof }

/-- Scans and runs the program under `ctl`, keeping what `w` asks for. -/
def execute (it : Interpreter) (ctl : Control) (w : Watch) : Report × Interpreter :=
  let scan := Program.scan it.code.toList it.limits
  match scan.result with
  | .error f => ({ outcome := .fault f, records := scan.records }, it)
  | .ok p =>
    let start : Machine :=
      { tape := .new it.limits.tapeCells, input := it.input.rewind,
        output := .new it.limits.bufferCapacity, eof := it.eof }
    let (outcome, m, kept) := Machine.run p ctl w.note {} start
    let steps := m.steps
    let bytes := m.output.size
    let summary : List Record :=
      match outcome with
      | .finished =>
        [{ level := .debug, target := logTarget,
           message := s!"run finished after {steps} step(s); {bytes} byte(s) of output" }]
      | _ => []
    ({ outcome := outcome, rows := kept.rows, records := scan.records ++ kept.jumps.toList ++ summary,
       steps := steps },
     { it with tape := m.tape, output := m.output, input := m.input })

/-- Runs to the end, with no limit. -/
def run (it : Interpreter) : Outcome × Interpreter :=
  let (r, it) := it.execute {} {}
  (r.outcome, it)

/-- Runs to the end under `ctl`. -/
def runControlled (it : Interpreter) (ctl : Control) : Outcome × Interpreter :=
  let (r, it) := it.execute ctl {}
  (r.outcome, it)

/-- Runs to the end keeping the trace, which is given only when the run finished. -/
def runTraced (it : Interpreter) : (Outcome × Option (Array Row)) × Interpreter :=
  let (r, it) := it.execute {} { rows := true }
  match r.outcome with
  | .finished => ((r.outcome, some r.rows), it)
  | _ => ((r.outcome, none), it)

/-- Runs under `ctl` keeping the trace, also of a run that did not finish. -/
def runTracedControlled (it : Interpreter) (ctl : Control) : (Outcome × Array Row) × Interpreter :=
  let (r, it) := it.execute ctl { rows := true }
  ((r.outcome, r.rows), it)

end Interpreter

/-- Runs `code` once on `input` with the default limits and gives the output: the staging fault
if the input does not fit, or how the run ended with what it wrote. -/
def interpret (code : String) (input : Array UInt8) : Outcome × Array UInt8 :=
  match (Interpreter.new code).stage input with
  | .error f => (.fault f, #[])
  | .ok it =>
    let (outcome, it) := it.run
    (outcome, it.output.bytes)

end GotoTape
