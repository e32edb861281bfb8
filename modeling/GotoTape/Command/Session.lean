import GotoTape.Execution
import GotoTape.Settings
import GotoTape.Command.Linked
import GotoTape.Command.Options
import GotoTape.Command.Usage
import GotoTape.Command.Host
/-!
# A command session

What the command does from start to exit, as a function of its host. It sets up the log filter
from `RUST_LOG` (warning about pieces it cannot read), reads its arguments (a usage fault exits
with status 2), prints the help when asked, loads the settings file, and settles the run options:
the step limit comes from the option, else from `GBF_MAX_STEPS`, else from the settings file.

Then it runs a program given as tokens or in a file, exiting 1 when the program fails, or it
starts an interactive session: a bare one reads standard input to its end and runs it once, a
line editor on a terminal runs each submission until Ctrl+C. Interactive sessions exit 0 even
after a failed program.

An interrupt that arrives while a program runs cancels it; one that arrives while the command
waits for input ends the command at once with status 0. Ctrl+C typed on the terminal while a
program runs is such an interrupt, and the keys typed before it are lost.

The log filter and the line editor come from the crates the command links (`Linked`), so the
session is a function of them; the key bindings it adds to the editor are its own
(`keyBindings`).
-/

namespace GotoTape
namespace Command

/-- What the command has written so far and what it has yet to read. -/
structure Console (L : Linked) where
  stdout : Array UInt8 := #[]
  stderr : String := ""
  filter : L.Filter
  /-- The widest target of the log lines printed so far. -/
  width : Nat := 0
  rawMode : Bool := false
  /-- The keys still to come from the terminal. -/
  events : List L.Event
  /-- Steps of running left until the interrupt, while one is still to come. -/
  interrupt : Option Nat := none

/-- How a command ended: its status and what it wrote, and whether the terminal was taken over
by the line editor. -/
structure Exit where
  code : Nat
  stdout : Array UInt8
  stderr : String
  rawMode : Bool

/-- A computation of the command: it reads the host, may exit early with a status, and writes
to its console. -/
abbrev Session (L : Linked) := ReaderT Host (ExceptT Nat (StateM (Console L)))

/-- The two kinds of interactive session. -/
inductive Mode where
  | bare
  | editor
  deriving DecidableEq, Repr

/-- The name of a mode in the log. -/
def Mode.name : Mode → String
  | .bare => "Bare"
  | .editor => "Editor"

/-- Chooses the interactive mode: a `--bare` or `--editor` option first, then the value of
`GBF_REPL_MODE`, then whether standard input is a terminal. The editor needs a terminal. -/
def Mode.select (bare editor : Bool) (setting : Option String) (tty : Bool) : Except String Mode :=
  if bare then .ok .bare
  else if editor then
    if tty then .ok .editor
    else .error "cannot start editor: stdin is not a TTY (use --bare or GBF_REPL_MODE=bare)"
  else
    match setting with
    | some val =>
      match Text.asciiLower (Text.trimBlank val) with
      | "bare" => .ok .bare
      | "editor" =>
        if tty then .ok .editor
        else .error "cannot start editor: stdin is not a TTY (use GBF_REPL_MODE=bare)"
      | _ => .error s!"invalid GBF_REPL_MODE value: {val}, must be 'bare' or 'editor'"
    | none => .ok (if tty then .editor else .bare)

/-- The bindings the session adds to the editor's Emacs bindings: Enter inserts a line break,
Ctrl+D and Ctrl+Z hand the buffer over, Up and Down move by a line, and Alt or Ctrl with Up or
Down browse the history. -/
def keyBindings : List KeyBinding :=
  [⟨.none, .enter, .insertNewline⟩, ⟨.control, .char 'd', .submit⟩,
   ⟨.control, .char 'z', .submit⟩, ⟨.none, .up, .up⟩, ⟨.none, .down, .down⟩,
   ⟨.alt, .up, .previousHistory⟩, ⟨.control, .up, .previousHistory⟩,
   ⟨.alt, .down, .nextHistory⟩, ⟨.control, .down, .nextHistory⟩]

namespace Session

variable {L : Linked}

/-- Writes to standard error. -/
def say (s : String) : Session L Unit :=
  modify fun c => { c with stderr := c.stderr ++ s }

/-- Writes to standard output. -/
def emit (b : Array UInt8) : Session L Unit :=
  modify fun c => { c with stdout := c.stdout ++ b }

/-- Logs a record, if the filter shows it. -/
def note (r : Record) : Session L Unit :=
  modify fun c =>
    if L.admits c.filter r then
      let (line, width) := L.line c.width r
      { c with stderr := c.stderr ++ line, width := width }
    else c

/-- Logs a record at the information level. -/
def inform (target message : String) : Session L Unit :=
  note { level := .info, target := target, message := message }

/-- Exits with a status. -/
def quit {α : Type} (code : Nat) : Session L α := throw code

/-- The part of the command whose records are about the command itself. -/
def logTarget : String := "gbf"

/-- Prints the help and exits with a status. -/
def usageExit {α : Type} (code : Nat) : Session L α := do
  say (usageText (← read).program)
  quit code

/-- Waits for input that never comes: an interrupt ends the command with status 0. -/
def block {α : Type} : Session L α := quit 0

/-- The settings from the settings file, or the defaults when it cannot be read. -/
def loadSettings : Session L Settings := do
  let h ← read
  match h.settingsPath with
  | none => pure {}
  | some path =>
    match h.files.readText path with
    | .error _ => pure {}
    | .ok content =>
      note { level := .debug, target := Settings.logTarget, message := s!"loading settings from {path}" }
      let (s, warnings) := Settings.parse content
      for w in warnings do note w
      pure s

/-- The run options from the invocation, the environment and the settings. -/
def resolveOptions (inv : Invocation) (s : Settings) : Session L RunOptions := do
  let h ← read
  let p := h.program
  let fromEnv := (h.getEnv "GBF_MAX_STEPS").bind fun v => (Text.readWord (Text.trimBlank v)).toOption
  let maxSteps := inv.maxSteps <|> fromEnv <|> s.maxSteps
  let input ← match inv.input, inv.inputFile with
    | some text, _ => pure text.toUTF8.data
    | none, some path =>
      match h.files.read path with
      | .ok b => pure b
      | .error e =>
        let m := e.message
        say s!"{p}: failed to read input file {path}: {m}\n"
        quit 1
    | none, none => pure #[]
  pure { limits := s.limits, eof := inv.eof.getD s.eof, maxSteps := maxSteps, input := input,
         debug := inv.debug }

/-- The earlier of two interrupts, by the steps before them. -/
def earlier : Option Nat → Option Nat → Option Nat
  | some a, some b => some (min a b)
  | a, none => a
  | none, b => b

/-- Runs a program once and prints what it gives; diagnostics name `prefix` when given. On a
terminal, a Ctrl+C among the keys still to come interrupts a run that outlasts the typist's wait.
Gives whether the run succeeded. -/
def runProgram (pfx : Option String) (code : String) (opts : RunOptions) : Session L Bool := do
  let c ← get
  let typed :=
    if c.events.any L.isInterrupt then some (typingWait * stepsPerMillisecond)
    else none
  let cancelAt := earlier c.interrupt typed
  let t := Transcript.ofRun pfx code opts cancelAt (L.enabled c.filter .trace Interpreter.logTarget)
  for r in t.records do note r
  emit t.stdout
  say t.stderr
  if t.outcome == .fault .cancelled then
    if c.interrupt.isSome && c.interrupt == cancelAt then
      modify fun c => { c with interrupt := none }
    else
      modify fun c =>
        { c with events := (c.events.dropWhile fun e => !L.isInterrupt e).drop 1 }
  pure t.success

/-- Runs one interactive submission; a failed run still ends its output with a line feed. -/
def submit (code : String) (opts : RunOptions) : Session L Unit := do
  let n := code.length
  inform "goto_bf::repl" s!"running {n} char submission"
  if !(← runProgram none code opts) then emit #[10]

/-- A bare session: reads standard input to its end and runs it once, unless it is blank. -/
def bare (opts : RunOptions) : Session L Unit := do
  let h ← read
  match h.stdin with
  | .pipe bytes true =>
    match Text.decodeUtf8? bytes with
    | none =>
      let p := h.program
      say s!"{p}: interactive mode error: stream did not contain valid UTF-8\n"
      quit 1
    | some s => if !(Text.trimBlank s).isEmpty then submit s opts
  | _ => block

/-- The line editor: reads and runs submissions until Ctrl+C, or until the first one that is not
blank when `GBF_REPL_ONCE` is `1`. The editor is made with the session's bindings, and its cut
text and history last from one submission to the next. Each round takes at least one key, so
the keys bound the rounds. -/
def editor (opts : RunOptions) : Session L Unit := do
  modify fun c => { c with rawMode := true }
  let once := (← read).getEnv "GBF_REPL_ONCE" == some "1"
  let rounds := (← get).events.length + 1
  go once (L.newEditor keyBindings) rounds
where
  go (once : Bool) (ed : L.Editor) : Nat → Session L Unit
    | 0 => block
    | n + 1 => do
      let c ← get
      let (ending, ed, rest) := L.readLine ed c.events
      set { c with events := rest }
      match ending with
      | .submitted text =>
        if (Text.trimBlank text).isEmpty then go once ed n
        else
          submit text opts
          if once then pure () else go once ed n
      | .interrupted => emit #[10]
      | .exhausted => block

/-- The banner an editor shows when a person watches standard error. -/
def banner : String :=
  "gbf interactive mode\n" ++
  "Enter inserts a newline; Ctrl+d (Ctrl+z on Windows) runs the buffer. Ctrl+c exits.\n"

/-- An interactive session. -/
def interactive (inv : Invocation) (opts : RunOptions) : Session L Unit := do
  let h ← read
  let p := h.program
  if !inv.tokens.isEmpty then
    say s!"{p}: cannot use positional tokens together with --interactive\n"
    usageExit 2
  match Mode.select inv.bare inv.editor (h.getEnv "GBF_REPL_MODE") h.stdinIsTerminal with
  | .error msg =>
    say s!"{p}: {msg}\n"
    quit 1
  | .ok mode =>
    let name := mode.name
    inform logTarget s!"interactive mode: {name}"
    match mode with
    | .editor =>
      if h.stderrIsTerminal then say banner
      editor opts
    | .bare => bare opts
    quit 0

/-- The whole command. -/
def main : Session L Unit := do
  let h ← read
  let p := h.program
  let (filter, warnings) := match h.getEnv "RUST_LOG" with
    | some spec => L.parseFilter spec
    | none => (L.quiet, [])
  modify fun c => { c with filter := filter }
  for w in warnings do say (w ++ "\n")
  let inv ← match Invocation.parse p h.args with
    | .ok inv => pure inv
    | .error e =>
      say e.render
      quit 2
  if inv.help then usageExit 0
  let settings ← loadSettings
  let opts ← resolveOptions inv settings
  if inv.interactive then interactive inv opts
  if inv.file.isNone && inv.tokens.isEmpty then usageExit 2
  if inv.file.isSome && !inv.tokens.isEmpty then
    say s!"{p}: cannot use positional tokens together with --file\n"
    usageExit 2
  let code ← match inv.file with
    | some path =>
      match h.files.readText path with
      | .ok s => pure s
      | .error e =>
        let m := e.message
        say s!"{p}: failed to read program file as UTF-8: {m}\n"
        quit 1
    | none =>
      inform logTarget "processing command line arguments as code"
      pure (String.intercalate " " inv.tokens)
  let ok ← runProgram (some p) code opts
  quit (if ok then 0 else 1)

end Session

/-- Runs the command on a host, with the crates it links. -/
def Host.run (h : Host) (L : Linked) : Exit :=
  let start : Console L :=
    { filter := L.quiet,
      events := match h.stdin with
        | .terminal typed => L.decode typed
        | .pipe _ _ => [],
      interrupt := h.interruptAt.map (· * stepsPerMillisecond) }
  let (result, c) := (((Session.main : Session L Unit).run h).run).run start
  let code := match result with
    | .ok () => 0
    | .error code => code
  { code := code, stdout := c.stdout, stderr := c.stderr, rawMode := c.rawMode }

end Command
end GotoTape
