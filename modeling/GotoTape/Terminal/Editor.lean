import GotoTape.Command.Linked
import GotoTape.Terminal.Key
import GotoTape.Terminal.History
/-!
# The line editor

The editor of the interactive session reads keys and edits a buffer of one or more lines, with
the key bindings of Emacs: Ctrl+B and Ctrl+F move by a character, Alt+B and Alt+F by a word,
Ctrl+A and Ctrl+E to the ends of the line, Ctrl+Home and Ctrl+End to the ends of the buffer;
Ctrl+W cuts the word before the cursor, Alt+D the word after it, Ctrl+U everything before it and
Ctrl+K the rest of the line, or the line feed at its end; Ctrl+Y puts the last cut text back;
Ctrl+T swaps two characters, and Alt+U, Alt+L and Alt+C change the case of a word or a
character. Enter inserts a line break; Ctrl+D, Ctrl+Z and Ctrl+J hand the buffer over; Ctrl+C
leaves the editor.

Up and Down move between the lines of the buffer, and from its first or last line they browse
the history, as Ctrl+P and Ctrl+N do; Ctrl or Alt with Up or Down always browses. Editing an
entry shown by a browse makes it the buffer. Shift with a move selects the text it passes,
including the character under the cursor, and typing replaces what is selected.

Ctrl+R starts a search of the history: typed characters and Backspace change the text searched
for, which shows the newest entry containing it; Up, Down and Ctrl+R step through the matches.
The keys that hand a buffer over, Right, Ctrl+F, End and Ctrl+E take the entry found into the
buffer; any other edit ends the search and is not carried out.

The cut text and the history outlast the buffer that is handed over.

These are reedline's default Emacs bindings. An editor is made with bindings of its own
(`Command.KeyBinding`), which replace the default binding of their keys: the command binds Enter
to insert a line break, Ctrl+D and Ctrl+Z to hand the buffer over, and Ctrl or Alt with Up or Down
to browse the history.
-/

namespace GotoTape
namespace Terminal

open Command (LineRead KeyBinding BoundEvent)

/-- A change to the buffer or the cursor. -/
inductive EditCommand where
  | insertChar (c : Char)
  | insertText (cs : List Char)
  | insertNewline
  | backspace
  | delete
  | backspaceWord
  | deleteWord
  | moveLeft (select : Bool)
  | moveRight (select : Bool)
  | moveWordLeft (select : Bool)
  | moveWordRight (select : Bool)
  | moveToLineStart (select : Bool)
  | moveToLineEnd (select : Bool)
  | moveToStart (select : Bool)
  | moveToEnd (select : Bool)
  | selectAll
  | cutFromStart
  | cutWordLeft
  | cutWordRight
  | killLine
  | paste
  | swapGraphemes
  | upperWord
  | lowerWord
  | capitalizeChar
  | redo
  deriving DecidableEq, Repr

/-- Whether a command keeps the selection: the moves that select, and selecting everything. -/
def EditCommand.keepsSelection : EditCommand → Bool
  | .moveLeft s | .moveRight s | .moveWordLeft s | .moveWordRight s | .moveToLineStart s
  | .moveToLineEnd s | .moveToStart s | .moveToEnd s => s
  | .selectAll => true
  | _ => false

/-- What a key does. -/
inductive Action where
  | edit (c : EditCommand)
  /-- A character left; nothing during a search. -/
  | left
  /-- A character right; takes the entry a search found. -/
  | right
  /-- To the end of the line; takes the entry a search found. -/
  | toLineEnd
  /-- A line up, or back through the history from the first line. -/
  | up
  /-- A line down, or forward through the history from the last line. -/
  | down
  | previousHistory
  | nextHistory
  | searchHistory
  | submit
  | interrupt
  /-- Drops the selection. -/
  | escape
  | nothing
  deriving DecidableEq, Repr

namespace Modifiers

/-- Ctrl alone. -/
def ctrl : Modifiers := { control := true }

/-- Alt alone. -/
def altOnly : Modifiers := { alt := true }

/-- Shift alone. -/
def shiftOnly : Modifiers := { shift := true }

/-- Ctrl and Shift. -/
def ctrlShift : Modifiers := { control := true, shift := true }

/-- Ctrl and Alt, which keyboards with an AltGr key send for some characters. -/
def ctrlAlt : Modifiers := { control := true, alt := true }

/-- Ctrl, Alt and Shift. -/
def ctrlAltShift : Modifiers := { control := true, alt := true, shift := true }

end Modifiers

/-- What a character does with modifiers other than none or Shift alone, by default. reedline
binds Ctrl+D to end an empty buffer and Ctrl+Z to undo; this editor keeps neither, and leaves
both keys to the bindings an editor is made with. -/
def charBinding (mods : Modifiers) (c : Char) : Option Action :=
  if mods == Modifiers.ctrl then
    match c with
    | 'c' => some .interrupt
    | 'j' => some .submit
    | 'b' => some .left
    | 'f' => some .right
    | 'a' => some (.edit (.moveToLineStart false))
    | 'e' => some .toLineEnd
    | 'p' => some .up
    | 'n' => some .down
    | 'g' => some (.edit .redo)
    | 'y' => some (.edit .paste)
    | 'w' => some (.edit .cutWordLeft)
    | 'k' => some (.edit .killLine)
    | 'u' => some (.edit .cutFromStart)
    | 't' => some (.edit .swapGraphemes)
    | 'h' => some (.edit .backspace)
    | 'r' => some .searchHistory
    | 'l' | 'o' => some .nothing
    | _ => none
  else if mods == Modifiers.altOnly then
    match c with
    | 'b' => some (.edit (.moveWordLeft false))
    | 'f' => some (.edit (.moveWordRight false))
    | 'd' => some (.edit .cutWordRight)
    | 'm' => some (.edit .backspaceWord)
    | 'u' => some (.edit .upperWord)
    | 'l' => some (.edit .lowerWord)
    | 'c' => some (.edit .capitalizeChar)
    | _ => none
  else if mods == Modifiers.ctrlShift && c == 'a' then some (.edit .selectAll)
  else none

/-- What a key other than a character does, by default. -/
def codeBinding (mods : Modifiers) (code : KeyCode) : Action :=
  if mods == {} then
    match code with
    | .escape => .escape
    | .enter => .submit
    | .up => .up
    | .down => .down
    | .left => .left
    | .right => .right
    | .home => .edit (.moveToLineStart false)
    | .«end» => .toLineEnd
    | .backspace => .edit .backspace
    | .delete => .edit .delete
    | _ => .nothing
  else if mods == Modifiers.ctrl then
    match code with
    | .left => .edit (.moveWordLeft false)
    | .right => .edit (.moveWordRight false)
    | .home => .edit (.moveToStart false)
    | .«end» => .edit (.moveToEnd false)
    | .backspace => .edit .backspaceWord
    | .delete => .edit .deleteWord
    | _ => .nothing
  else if mods == Modifiers.altOnly then
    match code with
    | .enter => .edit .insertNewline
    | .left => .edit (.moveWordLeft false)
    | .right => .edit (.moveWordRight false)
    | .backspace => .edit .backspaceWord
    | .delete => .edit .deleteWord
    | _ => .nothing
  else if mods == Modifiers.shiftOnly then
    match code with
    | .enter => .edit .insertNewline
    | .left => .edit (.moveLeft true)
    | .right => .edit (.moveRight true)
    | .home => .edit (.moveToLineStart true)
    | .«end» => .edit (.moveToLineEnd true)
    | _ => .nothing
  else if mods == Modifiers.ctrlShift then
    match code with
    | .left => .edit (.moveWordLeft true)
    | .right => .edit (.moveWordRight true)
    | .home => .edit (.moveToStart true)
    | .«end» => .edit (.moveToEnd true)
    | _ => .nothing
  else .nothing

/-- Whether a binding names a key with these modifiers. -/
def bindingNames (b : KeyBinding) (mods : Modifiers) (code : KeyCode) : Bool :=
  (match b.mods with
    | .none => mods == {}
    | .control => mods == Modifiers.ctrl
    | .alt => mods == Modifiers.altOnly) &&
  (match b.key with
    | .enter => code == .enter
    | .up => code == .up
    | .down => code == .down
    | .char c => code == .char c)

/-- What a bound event does. -/
def Action.ofBound : BoundEvent → Action
  | .insertNewline => .edit .insertNewline
  | .submit => .submit
  | .up => .up
  | .down => .down
  | .previousHistory => .previousHistory
  | .nextHistory => .nextHistory

/-- What the bindings an editor was made with give a key, if one names it; a later binding of
the same key replaces an earlier one. -/
def boundAction (bindings : List KeyBinding) (mods : Modifiers) (code : KeyCode) :
    Option Action :=
  (bindings.reverse.find? fun b => bindingNames b mods code).map fun b => Action.ofBound b.event

/-- What a key does: the editor's own bindings first, then the defaults. A character with no
binding is typed when it comes alone, with Shift, or with Ctrl and Alt (with or without Shift);
with other modifiers it does nothing. -/
def Action.ofKey (bindings : List KeyBinding) (k : KeyPress) : Action :=
  match k.code with
  | .char c =>
    let c := if k.mods == {} then c else c.toLower
    match boundAction bindings k.mods (.char c) <|> charBinding k.mods c with
    | some a => a
    | none =>
      if k.mods == {} || k.mods == Modifiers.ctrlAlt || k.mods == Modifiers.ctrlAltShift then
        .edit (.insertChar c)
      else if k.mods == Modifiers.shiftOnly then .edit (.insertChar c.toUpper)
      else .nothing
  | code => (boundAction bindings k.mods code).getD (codeBinding k.mods code)

/-- A pasted text with its line ends made line feeds. -/
def pastedLines : List Char → List Char
  | '\r' :: '\n' :: rest => '\n' :: pastedLines rest
  | '\r' :: rest => '\n' :: pastedLines rest
  | c :: rest => c :: pastedLines rest
  | [] => []

/-- What an event does: a paste inserts its text. -/
def Action.ofEvent (bindings : List KeyBinding) : Event → Action
  | .key k => Action.ofKey bindings k
  | .paste text => .edit (.insertText (pastedLines text.toList))

/-- The editor: the bindings it was made with, the buffer, where a selection was started, the
browse or the search under way, the last cut text and the history. -/
structure Editor where
  bindings : List KeyBinding := []
  buffer : LineBuffer := {}
  anchor : Option Nat := none
  browse : Option Browse := none
  search : Option Browse := none
  cut : List Char := []
  history : History := {}
  deriving Repr

namespace Editor

/-- Changes the buffer. -/
def withBuffer (e : Editor) (f : LineBuffer → LineBuffer) : Editor :=
  { e with buffer := f e.buffer }

/-- The selected stretch: from the anchor to the cursor, with the character under whichever of
them comes last. -/
def selection (e : Editor) : Option (Nat × Nat) :=
  e.anchor.map fun a =>
    let b := e.buffer
    if a < b.cursor then (a, min b.graphemeRight b.text.length)
    else (b.cursor, min (b.graphemeRightFrom a) b.text.length)

/-- Removes the selected stretch, if any, and puts the cursor where it started. -/
def deleteSelection (e : Editor) : Editor :=
  match e.selection with
  | some (i, j) =>
    let n := e.buffer.text.length
    { e with buffer := (e.buffer.erase (min i n) (min j n)).moveTo i, anchor := none }
  | none => e

/-- Starts a selection at the cursor for a selecting move, or drops it for another move. -/
def setAnchor (e : Editor) (select : Bool) : Editor :=
  { e with anchor := if select then some (e.anchor.getD e.buffer.cursor) else none }

/-- Moves the cursor to `f` of the buffer, selecting when asked. -/
def moveBy (e : Editor) (select : Bool) (f : LineBuffer → Nat) : Editor :=
  let e := e.setAnchor select
  e.withBuffer fun b => b.moveTo (f b)

/-- Cuts the text from `i` up to `j`, when there is any, and puts the cursor at `i`. -/
def cutRange (e : Editor) (i j : Nat) : Editor :=
  if i < j then { e with cut := e.buffer.slice i j, buffer := (e.buffer.erase i j).moveTo i }
  else e

/-- Carries out one command on the buffer. -/
def perform (e : Editor) : EditCommand → Editor
  | .insertChar c => e.deleteSelection.withBuffer (·.insert [c])
  | .insertText cs => e.deleteSelection.withBuffer (·.insert cs)
  | .insertNewline => e.deleteSelection.withBuffer (·.insert ['\n'])
  | .backspace => if e.anchor.isSome then e.deleteSelection else e.withBuffer (·.deleteLeft)
  | .delete => if e.anchor.isSome then e.deleteSelection else e.withBuffer (·.deleteRight)
  | .backspaceWord => e.withBuffer (·.deleteWordLeft)
  | .deleteWord => e.withBuffer (·.deleteWordRight)
  | .moveLeft s => e.moveBy s (·.graphemeLeft)
  | .moveRight s => e.moveBy s (·.graphemeRight)
  | .moveWordLeft s => e.moveBy s (·.wordLeft)
  | .moveWordRight s => e.moveBy s (·.wordRight)
  | .moveToLineStart s => e.moveBy s (·.lineStart)
  | .moveToLineEnd s => e.moveBy s (·.lineEnd)
  | .moveToStart s => e.moveBy s fun _ => 0
  | .moveToEnd s => e.moveBy s (·.text.length)
  | .selectAll => { e with anchor := some 0, buffer := e.buffer.moveTo e.buffer.text.length }
  | .cutFromStart => e.cutRange 0 e.buffer.cursor
  | .cutWordLeft => e.cutRange e.buffer.wordLeft e.buffer.cursor
  | .cutWordRight => e.cutRange e.buffer.cursor e.buffer.wordRight
  | .killLine =>
    let b := e.buffer
    e.cutRange b.cursor (if b.cursor == b.lineEnd then b.graphemeRight else b.lineEnd)
  | .paste => let e := e.deleteSelection; e.withBuffer (·.insert e.cut)
  | .swapGraphemes => e.withBuffer (·.swapGraphemes)
  | .upperWord => e.withBuffer (·.recaseWord true)
  | .lowerWord => e.withBuffer (·.recaseWord false)
  | .capitalizeChar => e.withBuffer (·.capitalize)
  | .redo => e

/-- Carries out a command; the selection lasts only through selecting moves. -/
def command (e : Editor) (c : EditCommand) : Editor :=
  let e := e.perform c
  if c.keepsSelection then e else { e with anchor := none }

/-- Ends a browse before an edit: an entry shown of the whole history becomes the buffer, with
the cursor at its end. -/
def endBrowse (e : Editor) : Editor :=
  match e.browse with
  | some b =>
    let e := match b.query, b.shown.bind (e.history.entries[·]?) with
      | .every _, some cs => { e with buffer := LineBuffer.ofText cs }
      | _, _ => e
    { e with browse := none }
  | none => e

/-- Goes one entry back in the history, with the cursor at the end of the entry's first line. -/
def previousHistory (e : Editor) : Editor :=
  let b := (e.browse.getD (Browse.start e.buffer)).back e.history
  let buf := (b.buffer e.history).moveTo 0
  { e with browse := some b, buffer := buf.moveTo buf.lineEnd, anchor := none }

/-- Goes one entry forward in the history, with the cursor at the end of the buffer. -/
def nextHistory (e : Editor) : Editor :=
  let b := (e.browse.getD (Browse.start e.buffer)).forward e.history
  let buf := b.buffer e.history
  { e with browse := some b, buffer := buf.moveTo buf.text.length, anchor := none }

/-- The editor with no buffer, selection, browse or search. -/
def cleared (e : Editor) : Editor :=
  { e with buffer := {}, anchor := none, browse := none, search := none }

/-- A buffer handed over, ending the buffer and remembering its text. -/
def handOver (e : Editor) : Editor :=
  { e.cleared with history := e.history.save e.buffer.text }

/-- A search for `text`: the newest entry that contains it. -/
def searchFor (e : Editor) (text : List Char) : Browse :=
  ({ query := .containing text } : Browse).back e.history

/-- The text a search looks for. -/
def searched (s : Browse) : List Char :=
  match s.query with
  | .containing t => t
  | _ => []

/-- What an action does during a search. -/
def actSearching (e : Editor) (s : Browse) : Action → Editor ⊕ (LineRead × Editor)
  | .interrupt => .inr (.interrupted, e.cleared)
  | .submit | .right | .toLineEnd =>
    match s.shown.bind (e.history.entries[·]?) with
    | some cs => .inl { e with buffer := LineBuffer.ofText cs, search := none }
    | none => .inl { e with search := none }
  | .up | .previousHistory | .searchHistory => .inl { e with search := some (s.back e.history) }
  | .down | .nextHistory =>
    let t := s.forward e.history
    .inl { e with search := some (if t.shown.isNone then t.back e.history else t) }
  | .edit (.insertChar c) => .inl { e with search := some (e.searchFor (searched s ++ [c])) }
  | .edit .backspace => .inl { e with search := some (e.searchFor (searched s).dropLast) }
  | .edit _ => .inl { e with search := none }
  | .left | .escape | .nothing => .inl e

/-- What an action does: the editor after it, or how the reading ends. -/
def act (e : Editor) (a : Action) : Editor ⊕ (LineRead × Editor) :=
  match e.search with
  | some s => e.actSearching s a
  | none =>
    match a with
    | .edit c => .inl ((e.endBrowse).command c)
    | .left => .inl ((e.endBrowse).command (.moveLeft false))
    | .right => .inl ((e.endBrowse).command (.moveRight false))
    | .toLineEnd => .inl ((e.endBrowse).command (.moveToLineEnd false))
    | .up =>
      if e.buffer.onFirstLine then .inl e.previousHistory
      else .inl (e.withBuffer (·.moveLineUp))
    | .down =>
      if e.buffer.onLastLine then .inl e.nextHistory
      else .inl (e.withBuffer (·.moveLineDown))
    | .previousHistory => .inl e.previousHistory
    | .nextHistory => .inl e.nextHistory
    | .searchHistory => .inl { e with browse := none, search := some { query := .containing [] } }
    | .submit => .inr (.submitted (String.ofList e.buffer.text), e.handOver)
    | .interrupt => .inr (.interrupted, e.cleared)
    | .escape => .inl { e with anchor := none }
    | .nothing => .inl e

/-- Reads events into the buffer until it is handed over or Ctrl+C is pressed; gives how the
reading ended, the editor after it, and the events left. -/
def readLine (e : Editor) : List Event → LineRead × Editor × List Event
  | [] => (.exhausted, e, [])
  | ev :: rest =>
    match e.act (Action.ofEvent e.bindings ev) with
    | .inl e' => readLine e' rest
    | .inr (r, e') => (r, e', rest)

end Editor

end Terminal
end GotoTape
