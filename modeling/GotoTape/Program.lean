import GotoTape.Lexeme
import GotoTape.LabelTable
import GotoTape.BracketMap
import GotoTape.Limits
import GotoTape.Log
/-!
# Programs and the pre-scan

A program is a text that passed the pre-scan: it is no longer than the program capacity, every
loop bracket has a partner, every label marker has a label, and its labels fit the label table.
The pre-scan reads the lexemes from the left and stops at the first fault: a closing bracket with
no open loop, a label that does not fit, a marker with no label; only when all lexemes pass does
it look for a loop left open, and then it names the most recent one.

The pre-scan also notes each label defined again (the first definition is kept), in the order
met, also when it fails later; `Scan.records` turns these notes into log records.
-/

namespace GotoTape

/-- A checked program: its characters, the partners of its brackets and its labels. -/
structure Program where
  chars : Array Char
  brackets : BracketMap
  labels : LabelTable

/-- The part of the library whose records are about the pre-scan. -/
def Program.logTarget : String := "goto_bf::program"

namespace Program

/-- The number of characters. -/
def len (p : Program) : Nat := p.chars.size

/-- Whether the program has no characters. -/
def isEmpty (p : Program) : Bool := p.chars.isEmpty

/-- The work of the pre-scan between lexemes: brackets and labels so far, and the labels defined
again with the position of the repeated definition, the most recent first. -/
structure Pass where
  brackets : BracketMap
  labels : LabelTable
  repeats : List (Char × Nat) := []

/-- What one lexeme does to the pre-scan. -/
def Pass.absorb (s : Pass) (x : Lexeme) : Except Fault Pass :=
  match x.kind with
  | .op c =>
    if c = '[' then .ok { s with brackets := s.brackets.openAt x.start }
    else if c = ']' then
      match s.brackets.close x.start with
      | .ok b => .ok { s with brackets := b }
      | .error (.fault f) => .error f
      | .error (.outOfRange _ _) => .error (.unbalanced x.start .closing)
    else .ok s
  | .labelDef (some l) =>
    match s.labels.register l (x.start + 2) x.start with
    | .ok (true, t) => .ok { s with labels := t }
    | .ok (false, t) => .ok { s with labels := t, repeats := (l, x.start) :: s.repeats }
    | .error f => .error f
  | .labelDef none => .error (.missingLabel x.start labelMark)
  | .jump none => .error (.missingLabel x.start jumpMark)
  | .jump (some _) | .commentDelimiter | .comment | .inert _ => .ok s

/-- Absorbs lexemes from the left until one fails; gives the pass reached and the fault, if any. -/
def Pass.absorbAll (s : Pass) : List Lexeme → Pass × Option Fault
  | [] => (s, none)
  | x :: xs =>
    match s.absorb x with
    | .ok s' => s'.absorbAll xs
    | .error f => (s, some f)

end Program

/-- The outcome of a pre-scan, with the labels it saw defined again, in order. -/
structure Scan where
  result : Except Fault Program
  repeats : List (Char × Nat)

namespace Program

/-- The pre-scan of a program text under `limits`. -/
def scan (code : List Char) (limits : Limits) : Scan :=
  let chars := code.toArray
  if limits.programCapacity < chars.size then
    { result := .error (.programTooLong chars.size limits.programCapacity), repeats := [] }
  else
    let start : Pass := { brackets := .withLen chars.size, labels := .new limits.labelCapacity }
    let (s, fault) := start.absorbAll (lex code)
    let repeats := s.repeats.reverse
    match fault with
    | some f => { result := .error f, repeats := repeats }
    | none =>
      match s.brackets.finish with
      | .error f => { result := .error f, repeats := repeats }
      | .ok b =>
        { result := .ok { chars := chars, brackets := b, labels := s.labels }, repeats := repeats }

/-- The pre-scan's verdict alone. -/
def check (code : List Char) (limits : Limits) : Except Fault Program :=
  (scan code limits).result

end Program

/-- The records of a pre-scan: one for each label defined again, and a summary when it passed. -/
def Scan.records (s : Scan) : List Record :=
  let notes := s.repeats.map fun (label, ip) =>
    { level := .debug, target := Program.logTarget,
      message := s!"label '{label}' redefined at {ip}; keeping the first definition" }
  match s.result with
  | .error _ => notes
  | .ok p =>
    let chars := p.len
    let loops := p.brackets.pairs
    let labels := p.labels.size
    let summary := s!"pre-scan ok: {chars} chars, {loops} loop(s), {labels} label(s)"
    notes ++ [{ level := .debug, target := Program.logTarget, message := summary }]

end GotoTape
