import GotoTape.Text.WordBreak
import GotoTape.Text.CaseMap
/-!
# The line buffer

The text an editor holds, of one or more lines, and the cursor in it, as a position between
characters. The cursor moves by grapheme clusters, so a letter with its accents is passed in one
step, and by words, which are the pieces between word boundaries that are not all blank: a move
to the left goes to the start of the last word before the cursor, a move to the right to the end
of the first word after it.

A line is the stretch between two line feeds. Moving to the line above or below keeps the
column, counted in clusters, when that line is long enough, and goes to its end otherwise.
-/

namespace GotoTape
namespace Terminal

open Text

/-- A text and a cursor, the number of characters before it. -/
structure LineBuffer where
  text : List Char := []
  cursor : Nat := 0
  deriving DecidableEq, Repr

namespace LineBuffer

/-- The characters before the cursor. -/
def before (b : LineBuffer) : List Char := b.text.take b.cursor

/-- The characters after the cursor. -/
def after (b : LineBuffer) : List Char := b.text.drop b.cursor

/-- The characters from `i` up to `j`. -/
def slice (b : LineBuffer) (i j : Nat) : List Char := (b.text.take j).drop i

/-- A buffer holding a text, with the cursor at its end. -/
def ofText (cs : List Char) : LineBuffer := { text := cs, cursor := cs.length }

/-- Whether the cursor is at the end of the text. -/
def atEnd (b : LineBuffer) : Bool := b.text.length ≤ b.cursor

/-- The start of the cluster before the cursor; the cursor itself at the start of the text. -/
def graphemeLeft (b : LineBuffer) : Nat := lastGraphemeStart b.before

/-- The end of the cluster that starts at `i`; `i` itself at the end of the text. -/
def graphemeRightFrom (b : LineBuffer) (i : Nat) : Nat := i + firstGraphemeEnd (b.text.drop i)

/-- The end of the cluster after the cursor. -/
def graphemeRight (b : LineBuffer) : Nat := b.graphemeRightFrom b.cursor

/-- The start of the last word before the cursor, or the start of the text. -/
def wordLeft (b : LineBuffer) : Nat :=
  let cs := b.before
  (((wordBounds cs).filter fun (i, j) => !isBlankPiece ((cs.take j).drop i)).getLast?.map
    Prod.fst).getD 0

/-- The end of the first word after the cursor, or the end of the text. -/
def wordRight (b : LineBuffer) : Nat :=
  let cs := b.after
  match (wordBounds cs).find? fun (i, j) => !isBlankPiece ((cs.take j).drop i) with
  | some (_, j) => b.cursor + j
  | none => b.text.length

/-- The start and the end of the word that ends at the first word end after the cursor. -/
def currentWord (b : LineBuffer) : Nat × Nat :=
  let stop := b.wordRight
  (({ b with cursor := stop } : LineBuffer).wordLeft, stop)

/-- The start of the cursor's line. -/
def lineStart (b : LineBuffer) : Nat :=
  let cs := b.before
  match cs.reverse.findIdx? (· == '\n') with
  | some k => cs.length - k
  | none => 0

/-- The end of the cursor's line: the position of the next line feed, or the end of the text. -/
def lineEnd (b : LineBuffer) : Nat :=
  match b.after.findIdx? (· == '\n') with
  | some k => b.cursor + k
  | none => b.text.length

/-- Whether the cursor is on the first line. -/
def onFirstLine (b : LineBuffer) : Bool := !b.before.contains '\n'

/-- Whether the cursor is on the last line. -/
def onLastLine (b : LineBuffer) : Bool := !b.after.contains '\n'

/-- Moves the cursor. -/
def moveTo (b : LineBuffer) (i : Nat) : LineBuffer := { b with cursor := i }

/-- Moves the cursor one cluster left. -/
def moveLeft (b : LineBuffer) : LineBuffer := b.moveTo b.graphemeLeft

/-- Moves the cursor one cluster right. -/
def moveRight (b : LineBuffer) : LineBuffer := b.moveTo b.graphemeRight

/-- The cursor's column, in clusters from the start of its line. -/
def column (b : LineBuffer) : Nat := graphemeCount (b.slice b.lineStart b.cursor)

/-- Puts the cursor at column `col` of its line, or at the line's end when it is shorter. -/
def toColumn (b : LineBuffer) (col : Nat) : LineBuffer :=
  let start := b.lineStart
  b.moveTo (start + graphemeOffset (b.slice start b.lineEnd) col)

/-- Moves the cursor to the line above, keeping its column where it can. -/
def moveLineUp (b : LineBuffer) : LineBuffer :=
  if b.onFirstLine then b
  else (b.moveTo b.lineStart).moveLeft.toColumn b.column

/-- Moves the cursor to the line below, keeping its column where it can. -/
def moveLineDown (b : LineBuffer) : LineBuffer :=
  if b.onLastLine then b
  else (b.moveTo b.lineEnd).moveRight.toColumn b.column

/-- Inserts characters at the cursor and moves the cursor past them. -/
def insert (b : LineBuffer) (cs : List Char) : LineBuffer :=
  { text := b.before ++ cs ++ b.after, cursor := b.cursor + cs.length }

/-- Removes the characters from `i` up to `j`, leaving the cursor where it is. -/
def erase (b : LineBuffer) (i j : Nat) : LineBuffer :=
  { b with text := b.text.take i ++ b.text.drop j }

/-- Replaces the characters from `i` up to `j`, leaving the cursor where it is. -/
def replace (b : LineBuffer) (i j : Nat) (cs : List Char) : LineBuffer :=
  { b with text := b.text.take i ++ cs ++ b.text.drop j }

/-- Removes the cluster before the cursor. -/
def deleteLeft (b : LineBuffer) : LineBuffer :=
  let i := b.graphemeLeft
  if i < b.cursor then (b.erase i b.cursor).moveTo i else b

/-- Removes the cluster after the cursor. -/
def deleteRight (b : LineBuffer) : LineBuffer :=
  let j := b.graphemeRight
  if b.cursor < j then b.erase b.cursor j else b

/-- Removes the text from the start of the last word before the cursor up to the cursor. -/
def deleteWordLeft (b : LineBuffer) : LineBuffer :=
  let i := b.wordLeft
  (b.erase i b.cursor).moveTo i

/-- Removes the text from the cursor to the end of the first word after it. -/
def deleteWordRight (b : LineBuffer) : LineBuffer := b.erase b.cursor b.wordRight

/-- Swaps the clusters on both sides of the cursor and puts the cursor after them; at the start
of the text the first two are swapped and at its end the last two. When there are not two, the
cursor only makes that first step. -/
def swapGraphemes (b : LineBuffer) : LineBuffer :=
  let b := if b.cursor == 0 then b.moveRight else if b.atEnd then b.moveLeft else b
  let i := b.graphemeLeft
  let j := b.graphemeRight
  if i < b.cursor && b.cursor < j then
    { text := b.text.take i ++ b.slice b.cursor j ++ b.slice i b.cursor ++ b.text.drop j,
      cursor := j }
  else b

/-- Puts the word that ends at the first word end after the cursor into capitals, or into small
letters, and moves the cursor to the end of the first word after it. -/
def recaseWord (b : LineBuffer) (upper : Bool) : LineBuffer :=
  let (i, j) := b.currentWord
  let part := b.slice i j
  let b := b.replace i j (if upper then toUpperText part else toLowerText part)
  b.moveTo b.wordRight

/-- Puts the first cluster after the cursor that does not start with a blank into capitals and
moves the cursor past it; with only blanks after the cursor nothing changes. -/
def capitalize (b : LineBuffer) : LineBuffer :=
  match b.after.findIdx? (fun c => !isBlank c) with
  | some k =>
    let i := b.cursor + k
    let j := b.graphemeRightFrom i
    (b.replace i j (toUpperText (b.slice i j))).moveTo j
  | none => b

end LineBuffer

end Terminal
end GotoTape
