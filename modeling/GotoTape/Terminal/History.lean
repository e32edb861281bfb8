import GotoTape.Terminal.LineBuffer
/-!
# Submission history

The editor remembers the texts it handed over, oldest first, up to a thousand; an empty text is
not kept, nor one equal to the last one kept.

Browsing walks the history from the newest entry back and forward again. It either shows every
entry, or, when it starts with text in the buffer and the cursor at its end, only the entries that
start with that text; a search shows the entries that contain the text searched for. A step skips
the entries equal to the one shown, and a step forward past the newest entry leaves the history
and brings back what the buffer held.
-/

namespace GotoTape
namespace Terminal

/-- The texts handed over, oldest first. -/
structure History where
  entries : List (List Char) := []
  deriving DecidableEq, Repr

/-- The most entries a history keeps. -/
def History.capacity : Nat := 1000

/-- Remembers a text unless it is empty or equal to the newest entry; the oldest entry goes
when the history is full. -/
def History.save (h : History) (cs : List Char) : History :=
  if cs.isEmpty || h.entries.getLast? == some cs then h
  else
    let kept := if h.entries.length ≥ History.capacity then h.entries.drop 1 else h.entries
    { entries := kept ++ [cs] }

/-- Which entries a browse shows. -/
inductive Query where
  /-- Every entry; leaving the history brings back this buffer. -/
  | every (original : LineBuffer)
  /-- The entries that start with this text, which leaving the history brings back. -/
  | prefixed (text : List Char)
  /-- The entries that contain this text anywhere. -/
  | containing (text : List Char)
  deriving DecidableEq, Repr

/-- Whether `p` occurs in `cs` as a stretch of consecutive characters. -/
def occursIn (p cs : List Char) : Bool :=
  (List.range (cs.length + 1)).any fun i => p.isPrefixOf (cs.drop i)

/-- A browse through the history: what it shows and the index of the entry shown, if any. -/
structure Browse where
  query : Query
  shown : Option Nat := none
  deriving DecidableEq, Repr

namespace Browse

/-- Whether entry `cs` may be shown: it matches the query and differs from the entry shown. -/
def admits (b : Browse) (h : History) (cs : List Char) : Bool :=
  let fits := match b.query with
    | .every _ => true
    | .prefixed p => p.isPrefixOf cs
    | .containing p => occursIn p cs
  fits && (b.shown.bind (h.entries[·]?)) != some cs

/-- One step back: the newest admitted entry older than the one shown, or than the end; the
browse stays where it is when there is none. -/
def back (b : Browse) (h : History) : Browse :=
  let limit := b.shown.getD h.entries.length
  let older := (List.range limit).reverse.find? fun i => b.admits h (h.entries.getD i [])
  match older with
  | some i => { b with shown := some i }
  | none => b

/-- One step forward: the oldest admitted entry newer than the one shown; past the newest the
browse shows no entry. Before the first step back there is nowhere to go. -/
def forward (b : Browse) (h : History) : Browse :=
  match b.shown with
  | none => b
  | some k =>
    let newer := ((List.range h.entries.length).filter (k < ·)).find? fun i =>
      b.admits h (h.entries.getD i [])
    { b with shown := newer }

/-- The buffer a browse puts up: the entry shown with the cursor at its end, or when none is
shown the buffer it started from. -/
def buffer (b : Browse) (h : History) : LineBuffer :=
  match b.shown.bind (h.entries[·]?), b.query with
  | some cs, _ => LineBuffer.ofText cs
  | none, .every original => original
  | none, .prefixed p | none, .containing p => LineBuffer.ofText p

end Browse

/-- The browse that starts from a buffer: every entry when it is empty or the cursor is not at
its end, else the entries that start with its text. -/
def Browse.start (buf : LineBuffer) : Browse :=
  if buf.text.isEmpty || !buf.atEnd then { query := .every buf }
  else { query := .prefixed buf.text }

end Terminal
end GotoTape
