import GotoTape.Program
import GotoTape.Tape
import GotoTape.Input
import GotoTape.Output
import GotoTape.Action
/-!
# The machine

The state of a running program and its step. A step first passes over comment delimiters and
comment text, then asks the control whether the run may go on (a cancelled run stops before a
step limit is looked at), then dispatches the instruction under the instruction pointer. A step
that faults changes nothing. Every dispatched step yields a trace row and counts one.

A run repeats the step with fuel: a limit of `k` steps needs `k + 1` calls, and a run with neither
limit nor cancellation gets `Machine.budget` calls, more than any run can take in practice.
Running out of fuel is its own outcome, apart from finishing and faulting.

Main statements: `seek_le` (passing over comments only moves forward) and `runFor_succ_finished`
(more fuel keeps a finished run).
-/

namespace GotoTape

/-- When a run must stop early: after `limit` steps, or from step `cancelAt` on, as soon as the
cancel flag is seen set. -/
structure Control where
  limit : Option Nat := none
  cancelAt : Option Nat := none
  deriving DecidableEq, Repr

/-- Whether the step limit stops the run before step number `steps`. -/
def Control.limitCheck (c : Control) (steps : Nat) : Option Fault :=
  match c.limit with
  | some k => if k ≤ steps then some (.stepLimit k) else none
  | none => none

/-- Whether the control stops the run before step number `steps`: cancellation first, then the
limit. -/
def Control.check (c : Control) (steps : Nat) : Option Fault :=
  match c.cancelAt with
  | some n => if n ≤ steps then some .cancelled else c.limitCheck steps
  | none => c.limitCheck steps

/-- Calls of the step granted to a run that nothing stops: `2 ^ 62`. -/
def Machine.budget : Nat := 4611686018427387904

/-- Calls of the step a run under `ctl` needs at most: one more than the steps it may dispatch. -/
def Control.fuel (ctl : Control) : Nat :=
  match ctl.limit, ctl.cancelAt with
  | some k, some n => min k n + 1
  | some k, none => k + 1
  | none, some n => n + 1
  | none, none => Machine.budget

/-- Everything a running program changes: tape, input cursor, output, instruction pointer,
whether a comment is open there, and the number of steps dispatched. -/
structure Machine where
  tape : Tape
  input : InputBuffer
  output : OutputBuffer
  eof : EofPolicy
  ip : Nat := 0
  inComment : Bool := false
  steps : Nat := 0

/-- How a run ended. -/
inductive Outcome where
  /-- The instruction pointer passed the last character. -/
  | finished
  /-- A step faulted. -/
  | fault (f : Fault)
  /-- The fuel ran out first. -/
  | outOfFuel
  deriving DecidableEq, Repr

/-- What one call of the step gives. -/
inductive Step where
  /-- Nothing is left to dispatch. -/
  | halted (m : Machine)
  /-- The step faulted; the machine is as it was, past the comments. -/
  | faulted (f : Fault) (m : Machine)
  /-- A step ran, described by its row. -/
  | stepped (row : Row) (m : Machine)

namespace Machine

/-- The position of the next character to dispatch at or after `ip`, with the comment flag
there: delimiters toggle the flag and text inside a comment is passed over. -/
def seek (chars : Array Char) (ip : Nat) (inComment : Bool) : Nat × Bool :=
  if h : ip < chars.size then
    let c := chars[ip]
    if c = commentMark then seek chars (ip + 1) (!inComment)
    else if inComment then seek chars (ip + 1) true
    else (ip, false)
  else (ip, inComment)
termination_by chars.size - ip

theorem seek_le (chars : Array Char) (ip : Nat) (inComment : Bool) :
    ip ≤ (seek chars ip inComment).1 := by
  fun_induction seek chars ip inComment <;> omega

/-- Dispatches the instruction `c` under the instruction pointer of `m`, with the program `p`
for partners and labels. The machine is taken apart first, so that the tape and the output are
changed in place. -/
def dispatch (p : Program) (c : Char) (m : Machine) : Step :=
  match m with
  | ⟨tape, input, output, eof, ip, inComment, steps⟩ =>
    let ptr := tape.pointer
    let cell := tape.read
    let done (a : Action) (tape : Tape) (input : InputBuffer) (output : OutputBuffer)
        (next : Nat) : Step :=
      .stepped { step := steps, ip := ip, ptr := ptr, cell := cell, instr := c, action := a }
        ⟨tape, input, output, eof, next, inComment, steps + 1⟩
    let stay (f : Fault) (tape : Tape) (output : OutputBuffer) : Step :=
      .faulted f ⟨tape, input, output, eof, ip, inComment, steps⟩
    match c with
    | '>' | '<' =>
      match tape.shift (if c = '>' then 1 else -1) with
      | some t => done (.movePointer t.pointer) t input output (ip + 1)
      | none => stay (.tapeBounds ip ptr c) tape output
    | '+' =>
      let t := tape.increment
      done (.increment ptr cell t.read) t input output (ip + 1)
    | '-' =>
      let t := tape.decrement
      done (.decrement ptr cell t.read) t input output (ip + 1)
    | '.' =>
      if output.isFull then stay (output.overflow ip) tape output
      else done (.output cell) tape input (output.push cell) (ip + 1)
    | ',' =>
      let (byte, input) := input.next
      let t := match byte, eof with
        | some b, _ => tape.write b
        | none, .zero => tape.write 0
        | none, .unchanged => tape
      done (.input byte t.read) t input output (ip + 1)
    | '[' =>
      if cell = 0 then
        match p.brackets.partner ip with
        | some j => done (.skipLoop (j + 1)) tape input output (j + 1)
        | none => stay (.unbalanced ip .opening) tape output
      else done .enterLoop tape input output (ip + 1)
    | ']' =>
      if cell ≠ 0 then
        match p.brackets.partner ip with
        | some j => done (.repeatLoop (j + 1)) tape input output (j + 1)
        | none => stay (.unbalanced ip .closing) tape output
      else done .exitLoop tape input output (ip + 1)
    | '^' =>
      match p.chars[ip + 1]? with
      | some l => done (.defineLabel l) tape input output (ip + 2)
      | none => stay (.missingLabel ip labelMark) tape output
    | 'v' =>
      match p.chars[ip + 1]? with
      | some l =>
        match p.labels.resolve l ip with
        | .ok target => done (.jump l target) tape input output target
        | .error f => stay f tape output
      | none => stay (.missingLabel ip jumpMark) tape output
    | _ => done .nothing tape input output (ip + 1)

/-- One step of program `p` under control `ctl`: pass over comments, ask the control, dispatch. -/
def step (p : Program) (ctl : Control) (m : Machine) : Step :=
  let (ip, inComment) := seek p.chars m.ip m.inComment
  let m := { m with ip := ip, inComment := inComment }
  if h : ip < p.chars.size then
    match ctl.check m.steps with
    | some f => .faulted f m
    | none => dispatch p p.chars[ip] m
  else .halted m

/-- Calls the step at most `fuel` times, folding each row into `acc` with `watch`. -/
def runFor {σ : Type} (p : Program) (ctl : Control) (watch : σ → Row → σ) :
    Nat → σ → Machine → Outcome × Machine × σ
  | 0, acc, m => (.outOfFuel, m, acc)
  | fuel + 1, acc, m =>
    match step p ctl m with
    | .halted m' => (.finished, m', acc)
    | .faulted f m' => (.fault f, m', acc)
    | .stepped row m' => runFor p ctl watch fuel (watch acc row) m'

/-- Runs program `p` under `ctl` from `m`, folding the rows into `acc` with `watch`. -/
def run {σ : Type} (p : Program) (ctl : Control) (watch : σ → Row → σ) (acc : σ) (m : Machine) :
    Outcome × Machine × σ :=
  runFor p ctl watch ctl.fuel acc m

theorem runFor_succ_finished {σ : Type} {p : Program} {ctl : Control} {watch : σ → Row → σ}
    {fuel : Nat} {acc : σ} {m m' : Machine} {r : σ}
    (h : runFor p ctl watch fuel acc m = (.finished, m', r)) :
    runFor p ctl watch (fuel + 1) acc m = (.finished, m', r) := by
  induction fuel generalizing acc m with
  | zero => simp [runFor] at h
  | succ n ih =>
    unfold runFor at h ⊢
    split at h
    · simp only [h]
    · simp only [h]
    · exact ih h

end Machine
end GotoTape
