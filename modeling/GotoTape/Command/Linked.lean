import GotoTape.Log
/-!
# What the command links

The command reads its log filter with `env_logger` and its interactive lines with `reedline`,
which reads keys through `crossterm`. None of these is part of the program: the command is a
function of a `Linked` value that gives the operations of those crates it calls, with what the
command relies on written beside each one. The command configures the editor itself: it adds key
bindings to reedline's Emacs bindings (`KeyBinding`), and those stay with the command.
-/

namespace GotoTape
namespace Command

/-- How reading a line from the editor ended: reedline's `Signal`, or the end of the keys. -/
inductive LineRead where
  /-- The buffer was handed over (`Signal::Success`). -/
  | submitted (text : String)
  /-- Ctrl+C left the editor (`Signal::CtrlC`). -/
  | interrupted
  /-- The keys ran out before either. -/
  | exhausted
  deriving DecidableEq, Repr

/-- The modifier sets the command's own key bindings name. -/
inductive BoundMods where
  | none
  | control
  | alt
  deriving DecidableEq, Repr

/-- The keys the command's own key bindings name. -/
inductive BoundKey where
  | enter
  | up
  | down
  | char (c : Char)
  deriving DecidableEq, Repr

/-- The reedline events the command binds keys to. -/
inductive BoundEvent where
  | insertNewline
  | submit
  | up
  | down
  | previousHistory
  | nextHistory
  deriving DecidableEq, Repr

/-- A key binding added to the editor: a key with modifiers, and the event it sends. -/
structure KeyBinding where
  mods : BoundMods
  key : BoundKey
  event : BoundEvent
  deriving DecidableEq, Repr

/-- The operations of the linked crates that the command calls. -/
structure Linked where
  /-- env_logger's filter, built once from `RUST_LOG`. -/
  Filter : Type
  /-- Reads a `RUST_LOG` specification: the filter, and the warning lines printed about the
  pieces it cannot read. -/
  parseFilter : String → Filter × List String
  /-- The filter when `RUST_LOG` is unset: errors only. -/
  quiet : Filter
  /-- Whether records of a level from a target pass the filter (`log_enabled!`). -/
  enabled : Filter → Level → String → Bool
  /-- Whether a record is shown: its level and target pass, and its message matches the filter's
  pattern if there is one. -/
  admits : Filter → Record → Bool
  /-- The line pretty_env_logger prints for a shown record, given the widest target printed
  before it; gives the new widest. -/
  line : Nat → Record → String × Nat
  /-- An event crossterm reads off the terminal. -/
  Event : Type
  /-- The events that the strings typed on the terminal decode to. -/
  decode : List (List UInt8) → List Event
  /-- Whether an event is Ctrl+C. -/
  isInterrupt : Event → Bool
  /-- reedline's editor, with what outlasts a line: the cut text and the history. -/
  Editor : Type
  /-- An editor in Emacs mode, with reedline's default Emacs bindings and then the given ones
  added, each replacing the default binding of its key. -/
  newEditor : List KeyBinding → Editor
  /-- Reads events until a line is handed over or Ctrl+C is pressed; gives how reading ended,
  the editor after it and the events left. -/
  readLine : Editor → List Event → LineRead × Editor × List Event

end Command
end GotoTape
