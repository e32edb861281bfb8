import GotoTape.Diagnostic
/-!
# Running a program once for a person

The command line and the interactive session run a program the same way: stage the input, run
under the step limit (and the cancellation, when an interrupt can arrive), print the step table
first when asked, then either the output followed by a line feed or the diagnostic. The result is
a transcript: what went to standard output and to standard error, whether the run succeeded, and
the log records of the run.
-/

namespace GotoTape

/-- How to run a program once. -/
structure RunOptions where
  limits : Limits := {}
  eof : EofPolicy := .zero
  maxSteps : Option Nat := none
  input : Array UInt8 := #[]
  debug : Bool := false
  deriving Repr

/-- How one run ended, what it printed, whether it succeeded, and what it logged. -/
structure Transcript where
  outcome : Outcome
  success : Bool
  stdout : Array UInt8 := #[]
  stderr : String := ""
  records : List Record := []

/-- The part of the library whose records are about runs for a person. -/
def Transcript.logTarget : String := "goto_bf::cli_util"

/-- Runs `code` once with `opts`. A diagnostic names `program` first when given. From step
`cancelAt` on, a cancellation is seen; `jumps` asks for the records of the jumps. -/
def Transcript.ofRun (program : Option String) (code : String) (opts : RunOptions)
    (cancelAt : Option Nat) (jumps : Bool) : Transcript :=
  let it := (Interpreter.withLimits code opts.limits).setEof opts.eof
  match it.stage opts.input with
  | .error f =>
    { outcome := .fault f, success := false, stderr := Diagnostic.ofFault program code.toList f }
  | .ok it =>
    let ctl : Control := { limit := opts.maxSteps, cancelAt := cancelAt }
    let (report, it) := it.execute ctl { rows := opts.debug, jumps := jumps }
    let table := if opts.debug then (StepTable.render report.rows).toUTF8.data else #[]
    match report.outcome with
    | .finished =>
      let bytes := it.output.size
      let done : Record :=
        { level := .info, target := logTarget, message := s!"run ok: {bytes} output byte(s)" }
      { outcome := .finished, success := true, stdout := table ++ it.output.bytes.push 10,
        records := report.records ++ [done] }
    | .fault f =>
      { outcome := .fault f, success := false, stdout := table,
        stderr := Diagnostic.ofFault program code.toList f,
        records := report.records }
    | .outOfFuel =>
      { outcome := .outOfFuel, success := false, stdout := table, records := report.records }

end GotoTape
