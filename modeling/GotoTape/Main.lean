import GotoTape.Command.Crates
import GotoTape.Command.Session
/-!
# The command

Gathers what the command reads from the system (arguments, the environment variables it
consults, the files its arguments and settings may name, and standard input when a session is
interactive), runs the command on that host and writes what it printed.

A terminal here is in line mode: what is typed up to the end of input is one submission, each
line break an Enter.
-/

open GotoTape GotoTape.Command

/-- The environment variables the command consults. -/
def consultedVariables : List String :=
  ["RUST_LOG", "GBF_CONFIG", "XDG_CONFIG_HOME", "HOME", "GBF_MAX_STEPS", "GBF_REPL_MODE",
   "GBF_REPL_ONCE"]

/-- The strings typed on a line-mode terminal: its input with line breaks as Enter, then Ctrl+D
to submit the buffer and Ctrl+C to leave the editor. -/
def typedKeys (input : Array UInt8) : List (List UInt8) :=
  [input.toList.map fun b => if b == 10 then 13 else b, [4], [3]]

/-- The contents of a file, or nothing when it cannot be read. -/
def readIfPresent (path : String) : IO (Option (Array UInt8)) := do
  try
    let bytes ← IO.FS.readBinFile path
    pure (some bytes.data)
  catch _ => pure none

/-- Reads a stream to its end. -/
partial def readToEnd (s : IO.FS.Stream) (acc : ByteArray) : IO ByteArray := do
  let chunk ← s.read 65536
  if chunk.isEmpty then pure acc else readToEnd s (acc ++ chunk)

def main (args : List String) : IO UInt32 := do
  let mut env : List (String × String) := []
  for name in consultedVariables do
    if let some v ← IO.getEnv name then env := env ++ [(name, v)]
  let cwd := (← IO.currentDir).toString
  let probe : Host := { args := args, env := env }
  let mut files : List (String × Array UInt8) := []
  for p in pathsNamed args ++ probe.settingsPath.toList do
    if !p.isEmpty then
      if let some bytes ← readIfPresent p then
        files := files ++ [("/" ++ String.intercalate "/" (FileSystem.locate cwd p), bytes)]
  let stdin ← IO.getStdin
  let tty ← stdin.isTty
  let interactive := match Invocation.parse probe.program args with
    | .ok inv => inv.interactive
    | .error _ => false
  let input ← if interactive then readToEnd stdin ByteArray.empty else pure ByteArray.empty
  let stderr ← IO.getStderr
  let host : Host :=
    { probe with files := { cwd := cwd, files := files },
                 stdin := if tty then .terminal (typedKeys input.data) else .pipe input.data true,
                 stderrIsTerminal := ← stderr.isTty }
  let e := host.run Linked.crates
  let stdout ← IO.getStdout
  stdout.write (ByteArray.mk e.stdout)
  stdout.flush
  stderr.putStr e.stderr
  stderr.flush
  pure e.code.toUInt32
