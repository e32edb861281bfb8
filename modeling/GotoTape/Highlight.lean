import GotoTape.Lexeme
import GotoTape.Settings
/-!
# Highlighting

The line editor draws a program in the colors of its lexemes: operators, label definitions and
jumps in bold, comments with their delimiters in italic, inert characters plain. A line becomes a
list of segments, each a run of text in one style, and neighbouring lexemes of one style share a
segment, so that comments and label operands are never drawn as instructions.

Main statement: `flatMap_text_segments`, joining neighbours keeps the text of the lexemes.
-/

namespace GotoTape

/-- How a run of text is drawn: its foreground color, and whether it is bold or italic. -/
structure Style where
  color : Settings.Color
  bold : Bool := false
  italic : Bool := false
  deriving DecidableEq, Repr

/-- A run of text drawn in one style. -/
structure Segment where
  style : Style
  text : List Char
  deriving DecidableEq, Repr

namespace Segment

/-- Joins each segment with the next when both have one style, so that no two neighbours share
a style. -/
def coalesce : List Segment → List Segment
  | [] => []
  | s :: rest =>
    match coalesce rest with
    | [] => [s]
    | t :: more => if s.style = t.style then ⟨s.style, s.text ++ t.text⟩ :: more else s :: t :: more

/-- Joining neighbours keeps the text. -/
theorem flatMap_text_coalesce (ss : List Segment) :
    (coalesce ss).flatMap text = ss.flatMap text := by
  induction ss with
  | nil => rfl
  | cons s rest ih =>
    rw [coalesce]
    split
    · next h => rw [h] at ih; simp [← ih]
    · next t more h =>
      rw [h] at ih
      by_cases hs : s.style = t.style
      · simp [hs, ← ih]
      · simp [hs, ← ih]

end Segment

namespace Palette

/-- The color of an operator: one per direction, per arithmetic step and per channel, and one
for both brackets. -/
def opColor (p : Palette) : Char → Settings.Color
  | '>' => p.opRight
  | '<' => p.opLeft
  | '+' => p.opInc
  | '-' => p.opDec
  | '.' => p.opOutput
  | ',' => p.opInput
  | _ => p.opBracket

/-- The style of a lexeme. -/
def style (p : Palette) : LexemeKind → Style
  | .op c => { color := p.opColor c, bold := true }
  | .labelDef _ => { color := p.labelDef, bold := true }
  | .jump _ => { color := p.jump, bold := true }
  | .commentDelimiter => { color := p.comment, italic := true }
  | .comment => { color := p.comment, italic := true }
  | .inert _ => { color := p.inert }

/-- One segment per lexeme of a line, before neighbours are joined. -/
def pieces (p : Palette) (line : List Char) : List Segment :=
  (lex line).map fun l => ⟨p.style l.kind, (line.drop l.start).take l.len⟩

/-- The segments the editor draws a line with. -/
def segments (p : Palette) (line : List Char) : List Segment :=
  Segment.coalesce (p.pieces line)

/-- The segments of a line spell the same text as its lexemes. -/
theorem flatMap_text_segments (p : Palette) (line : List Char) :
    (p.segments line).flatMap Segment.text = (p.pieces line).flatMap Segment.text :=
  Segment.flatMap_text_coalesce _

end Palette

end GotoTape
