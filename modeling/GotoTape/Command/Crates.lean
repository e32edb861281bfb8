import GotoTape.Command.LogFilter
import GotoTape.Terminal.Editor
/-!
# The crates the command links, as this library runs them

`Linked.crates` gives the command the log filter of `Command.LogFilter` (env_logger's filter
syntax, with its regex patterns read by `Pattern`) and the editor of `Terminal` (crossterm's key
decoding and reedline's Emacs editor, with the Unicode segmentation of `Text.Grapheme` and
`Text.WordBreak`). Those modules follow the crates' documented behaviour and the answers the
original gives, so that the command runs as the original does; the command itself only uses the
operations `Linked` names, and no theorem of the library rests on them.
-/

namespace GotoTape
namespace Command

/-- The linked crates as this library models them. -/
def Linked.crates : Linked where
  Filter := LogFilter
  parseFilter := LogFilter.parse
  quiet := LogFilter.quiet
  enabled := LogFilter.enabled
  admits := LogFilter.admits
  line := LogFilter.line
  Event := Terminal.Event
  decode := Terminal.decodeTyped
  isInterrupt := Terminal.Event.isInterrupt
  Editor := Terminal.Editor
  newEditor bindings := { bindings := bindings }
  readLine := Terminal.Editor.readLine

end Command
end GotoTape
