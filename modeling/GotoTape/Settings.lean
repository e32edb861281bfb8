import GotoTape.Settings.Sections
import GotoTape.Settings.Color
import GotoTape.Limits
import GotoTape.Input
import GotoTape.Log
import GotoTape.Text.Quoted
/-!
# Settings

What a settings file may set: the limits, a step limit and the end-of-input policy in section
`interpreter`, and the highlighter's colors in section `colors`. A number is read after deleting
its underscores and must be a count from 1 to `2 ^ 64 - 1`; any other value is ignored with a
warning record, and the default stays. The step limit is always taken from the file, so an
invalid one leaves no limit. A color or policy that cannot be read is ignored silently.
-/

namespace GotoTape

/-- The colors of the eleven kinds of lexeme the highlighter tells apart. -/
structure Palette where
  opRight : Settings.Color := .rgb 137 220 235
  opLeft : Settings.Color := .rgb 148 226 213
  opInc : Settings.Color := .rgb 166 227 161
  opDec : Settings.Color := .rgb 243 139 168
  opOutput : Settings.Color := .rgb 249 226 175
  opInput : Settings.Color := .rgb 250 179 135
  opBracket : Settings.Color := .rgb 203 166 247
  labelDef : Settings.Color := .rgb 137 180 250
  jump : Settings.Color := .rgb 245 194 231
  comment : Settings.Color := .rgb 108 112 134
  inert : Settings.Color := .rgb 88 91 112
  deriving DecidableEq, Repr

/-- Sets the palette entry of a key. -/
def Palette.set (p : Palette) (key : String) (c : Settings.Color) : Palette :=
  match key with
  | "op_right" => { p with opRight := c }
  | "op_left" => { p with opLeft := c }
  | "op_inc" => { p with opInc := c }
  | "op_dec" => { p with opDec := c }
  | "op_output" => { p with opOutput := c }
  | "op_input" => { p with opInput := c }
  | "op_bracket" => { p with opBracket := c }
  | "label_def" => { p with labelDef := c }
  | "jump" => { p with jump := c }
  | "comment" => { p with comment := c }
  | "inert" => { p with inert := c }
  | _ => p

/-- Everything a settings file can set. -/
structure Settings where
  limits : Limits := {}
  maxSteps : Option Nat := none
  eof : EofPolicy := .zero
  palette : Palette := {}
  deriving DecidableEq, Repr

namespace Settings

/-- The part of the library whose records are about settings. -/
def logTarget : String := "goto_bf::config"

/-- The palette keys of the file, in the order they are read. -/
def paletteKeys : List String :=
  ["op_right", "op_left", "op_inc", "op_dec", "op_output", "op_input", "op_bracket",
   "label_def", "jump", "comment", "inert"]

/-- Reads a positive count after deleting underscores. -/
def count? (raw : String) : Option Nat :=
  match Text.readWord (String.ofList (raw.toList.filter (· != '_'))) with
  | .ok n => if 0 < n then some n else none
  | .error _ => none

/-- The count set for `key` in section `interpreter`, and the warning when it is set but
unreadable. -/
def number (s : Settings.Sections) (key : String) : Option Nat × List Record :=
  match s.get? "interpreter" key with
  | none => (none, [])
  | some raw =>
    match count? raw with
    | some n => (some n, [])
    | none =>
      let shown := Text.quote raw
      (none, [{ level := .warn, target := logTarget,
                message := s!"ignoring invalid {key} = {shown} in config" }])

/-- Reads a settings file, with the warnings about values it ignored. -/
def parse (content : String) : Settings × List Record :=
  let s := Settings.Sections.parse content
  let (tape, w1) := number s "tape_cells"
  let (buffer, w2) := number s "buffer_capacity"
  let (labels, w3) := number s "label_capacity"
  let (program, w4) := number s "program_capacity"
  let (steps, w5) := number s "max_steps"
  let d : Limits := {}
  let limits : Limits :=
    { tapeCells := tape.getD d.tapeCells, bufferCapacity := buffer.getD d.bufferCapacity,
      labelCapacity := labels.getD d.labelCapacity, programCapacity := program.getD d.programCapacity }
  let eof := ((s.get? "interpreter" "eof").bind EofPolicy.parse).getD .zero
  let palette := paletteKeys.foldl (fun p key =>
    match (s.get? "colors" key).bind Settings.Color.parse with
    | some c => Palette.set p key c
    | none => p) {}
  ({ limits := limits, maxSteps := steps, eof := eof, palette := palette }, w1 ++ w2 ++ w3 ++ w4 ++ w5)

end Settings
end GotoTape
