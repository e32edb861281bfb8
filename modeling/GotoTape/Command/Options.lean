import GotoTape.Input
import GotoTape.Text.Count
/-!
# The command line's options

The options the command accepts and how an argument list is read into an `Invocation`. Long
options take their value after `=` or as the next argument; short ones may be grouped (`-di`),
and the last of a group takes the rest of the argument, or the next argument, as its value. The
first argument that is not an option, and everything after `--`, are program tokens; so is an
argument that only looks like an option (`-+.`, `--x`), since tokens may start with a dash.

An option's value is taken when the next option or token begins, or at the end; only then is it
checked, so of two faults the one met first in this order is reported. After the whole list is
read, options that exclude each other are reported, the earliest given first, and then options
that need another one that is missing.

Every failure is a `UsageError`, reported with a usage line built from the options that were
given (`UsageError.render`). A value after `=` for an option that takes none is refused at once;
once an option has been taken, that refusal's usage line names every option and the tokens as
one group. An empty path is refused as a missing value.
-/

namespace GotoTape
namespace Command

/-- The options of the command, and the program tokens. -/
inductive Opt where
  | file
  | interactive
  | bare
  | editor
  | input
  | inputFile
  | maxSteps
  | eof
  | debug
  | help
  | tokens
  deriving DecidableEq, Repr

namespace Opt

/-- The options proper, in the order the command declares them. -/
def options : List Opt :=
  [.file, .interactive, .bare, .editor, .input, .inputFile, .maxSteps, .eof, .debug, .help]

/-- The long name, after `--`. -/
def long : Opt → String
  | .file => "file"
  | .interactive => "interactive"
  | .bare => "bare"
  | .editor => "editor"
  | .input => "input"
  | .inputFile => "input-file"
  | .maxSteps => "max-steps"
  | .eof => "eof"
  | .debug => "debug"
  | .help => "help"
  | .tokens => "token"

/-- The one-letter name, after `-`, of the options that have one. -/
def short? : Opt → Option Char
  | .file => some 'f'
  | .interactive => some 'i'
  | .debug => some 'd'
  | .help => some 'h'
  | _ => none

/-- The name of the value an option takes, for the options that take one. -/
def valueName? : Opt → Option String
  | .file => some "FILE"
  | .input => some "TEXT"
  | .inputFile => some "PATH"
  | .maxSteps => some "N"
  | .eof => some "MODE"
  | _ => none

/-- Whether the option takes a value. -/
def takesValue (o : Opt) : Bool := o.valueName?.isSome

/-- How an option is named in messages: `--input <TEXT>`, `--debug`. -/
def display (o : Opt) : String :=
  let name := o.long
  match o with
  | .tokens => "[token]..."
  | _ =>
    match o.valueName? with
    | some v => s!"--{name} <{v}>"
    | none => s!"--{name}"

/-- The options an option is declared to exclude; exclusion works both ways. -/
def excludes : Opt → List Opt
  | .file => [.interactive]
  | .bare => [.editor]
  | .input => [.inputFile]
  | _ => []

/-- Whether two options exclude each other. -/
def clash (a b : Opt) : Bool := a != b && ((a.excludes.contains b) || (b.excludes.contains a))

/-- The options an option needs beside it. -/
def needs : Opt → List Opt
  | .bare => [.interactive]
  | .editor => [.interactive]
  | _ => []

/-- The option with a long name. -/
def ofLong? (name : String) : Option Opt := options.find? (fun o => o.long == name)

/-- The option with a one-letter name. -/
def ofShort? (c : Char) : Option Opt := options.find? (fun o => o.short? == some c)

end Opt

/-- Keeps the first of each repeated element. -/
def dedup (l : List Opt) : List Opt :=
  l.foldl (fun acc o => if acc.contains o then acc else acc ++ [o]) []

/-- The usage line for the options `given`, after those the command then needs: every option
named, then the tokens, shown as required when given. With nothing given it is the general
line. -/
def usageLine (program : String) (needed given : List Opt) : String :=
  if needed.isEmpty && given.isEmpty then s!"{program} [OPTIONS] [token]..."
  else
    let named := dedup (needed ++ given)
    let shown := (named.filter (· != .tokens)).map Opt.display
    let tokens := if named.contains .tokens then "<token>..." else "[token]..."
    String.intercalate " " ([program] ++ shown ++ [tokens])

/-- The usage line that names all the options and the tokens as one group, one of which is
required. -/
def groupUsageLine (program : String) : String :=
  let members := (Opt.options.map Opt.display) ++ ["token"]
  program ++ " <" ++ String.intercalate "|" members ++ ">"

/-- Why an argument list was refused. -/
inductive UsageError where
  /-- Options that exclude each other were given; `former` is the earliest. -/
  | conflict (former : Opt) (others : List Opt) (usage : String)
  /-- An option was given twice. -/
  | repeated (o : Opt) (usage : String)
  /-- An option that takes a value got none. -/
  | missingValue (o : Opt)
  /-- A value an option cannot take. -/
  | invalidValue (o : Opt) (value reason : String)
  /-- A value after `=` for an option that takes none. -/
  | unexpectedValue (o : Opt) (value : String) (usage : String)
  /-- Options needed by those given are missing. -/
  | missingRequired (missing : List Opt) (usage : String)
  deriving Repr

/-- The message of a usage error, as printed. -/
def UsageError.render : UsageError → String
  | .conflict former others usage =>
    let f := former.display
    let tail := match others with
      | [o] => let d := o.display; s!" '{d}'"
      | os => ":" ++ String.join (os.map fun (o : Opt) => "\n  " ++ o.display)
    s!"error: the argument '{f}' cannot be used with{tail}\n\nUsage: {usage}\n"
  | .repeated o usage =>
    let d := o.display
    s!"error: the argument '{d}' cannot be used multiple times\n\nUsage: {usage}\n"
  | .missingValue o =>
    let d := o.display
    s!"error: a value is required for '{d}' but none was supplied\n"
  | .invalidValue o value reason =>
    let d := o.display
    s!"error: invalid value '{value}' for '{d}': {reason}\n"
  | .unexpectedValue o value usage =>
    let d := o.display
    s!"error: unexpected value '{value}' for '{d}' found; no more were expected\n\nUsage: {usage}\n"
  | .missingRequired missing usage =>
    let lines := String.join (missing.map fun (o : Opt) => "\n  " ++ o.display)
    s!"error: the following required arguments were not provided:{lines}\n\nUsage: {usage}\n"

/-- What the command line asks for. -/
structure Invocation where
  file : Option String := none
  interactive : Bool := false
  bare : Bool := false
  editor : Bool := false
  input : Option String := none
  inputFile : Option String := none
  maxSteps : Option Nat := none
  eof : Option EofPolicy := none
  debug : Bool := false
  help : Bool := false
  tokens : List String := []
  deriving Repr

/-- The state of reading an argument list: the options taken so far in the order they were taken, the option
or tokens whose values are still being gathered, whether that option still waits for its value,
and whether only tokens can follow. -/
structure ArgState where
  program : String
  taken : Array (Opt × List String) := #[]
  pending : Option (Opt × Array String) := none
  awaiting : Bool := false
  onlyTokens : Bool := false

namespace ArgState

/-- The options taken so far. -/
def given (r : ArgState) : List Opt := r.taken.toList.map Prod.fst

/-- Checks one value of an option. A path must not be empty. -/
def check (o : Opt) (v : String) : Except UsageError Unit :=
  match o with
  | .file | .inputFile => if v.isEmpty then .error (.missingValue o) else .ok ()
  | .maxSteps =>
    match Text.readWord v with
    | .ok _ => .ok ()
    | .error e => .error (.invalidValue o v e.message)
  | .eof =>
    match EofPolicy.parse v with
    | some _ => .ok ()
    | none => .error (.invalidValue o v s!"invalid EOF mode '{v}', expected 'zero' or 'unchanged'")
  | _ => .ok ()

/-- Takes an option with its values: it must have a value if it takes one, must not have been
taken before, and its value must be one it can take. -/
def accept (r : ArgState) (o : Opt) (vals : List String) : Except UsageError ArgState := do
  if (o.takesValue || o == .tokens) && vals.isEmpty then throw (.missingValue o)
  if o != .tokens && r.given.contains o then
    throw (.repeated o (usageLine r.program [] []))
  for v in vals do check o v
  match r.taken.findIdx? (fun e => e.1 == o) with
  | some i => pure { r with taken := r.taken.modify i fun e => (e.1, e.2 ++ vals) }
  | none => pure { r with taken := r.taken.push (o, vals) }

/-- Takes the option whose values were being gathered, if any. -/
def settle (r : ArgState) : Except UsageError ArgState :=
  match r.pending with
  | none => .ok r
  | some (o, vals) => accept { r with pending := none, awaiting := false } o vals.toList

/-- Takes an option given with its values now, after settling the one before it. -/
def take (r : ArgState) (o : Opt) (vals : List String) : Except UsageError ArgState := do
  let r ← r.settle
  r.accept o vals

/-- Starts gathering the value of an option that takes one. -/
def expect (r : ArgState) (o : Opt) : Except UsageError ArgState := do
  let r ← r.settle
  pure { r with pending := some (o, #[]), awaiting := true }

/-- A program token: from here on only tokens follow. -/
def token (r : ArgState) (arg : String) : Except UsageError ArgState := do
  let r := { r with onlyTokens := true }
  let r ← match r.pending with
    | some (.tokens, _) => pure r
    | _ => r.settle
  match r.pending with
  | some (o, vals) => pure { r with pending := some (o, vals.push arg) }
  | none => pure { r with pending := some (.tokens, #[arg]) }

/-- An argument that is not an option: the value an option waits for, or a token. -/
def plain (r : ArgState) (arg : String) : Except UsageError ArgState :=
  match r.awaiting, r.pending with
  | true, some (o, vals) => .ok { r with pending := some (o, vals.push arg), awaiting := false }
  | _, _ => r.token arg

/-- A group of one-letter options, all of them known. -/
def shorts (r : ArgState) : List Char → Except UsageError ArgState
  | [] => .ok r
  | c :: rest =>
    match Opt.ofShort? c with
    | none => .ok r
    | some o =>
      if o.takesValue then
        match rest with
        | [] => r.expect o
        | '=' :: v => r.take o [String.ofList v]
        | v => r.take o [String.ofList v]
      else do
        let r ← r.take o []
        shorts r rest

/-- Reads one argument. -/
def step (r : ArgState) (arg : String) : Except UsageError ArgState :=
  if r.onlyTokens then r.token arg
  else if arg == "--" then .ok { r with onlyTokens := true }
  else
    match arg.toList with
    | '-' :: '-' :: body =>
      let name := String.ofList (body.takeWhile (· != '='))
      let value := match body.dropWhile (· != '=') with
        | '=' :: v => some (String.ofList v)
        | _ => none
      match Opt.ofLong? name with
      | some o =>
        if o.takesValue then
          match value with
          | some v => r.take o [v]
          | none => r.expect o
        else
          match value with
          | some v =>
            -- Once any option is taken, the usage line names the group of all of them.
            let usage := if r.given.isEmpty then usageLine r.program [] [o]
              else groupUsageLine r.program
            .error (.unexpectedValue o v usage)
          | none => r.take o []
      | none => r.plain arg
    | '-' :: cs@(_ :: _) =>
      if cs.all (fun c => (Opt.ofShort? c).isSome) then r.shorts cs else r.plain arg
    | _ => r.plain arg

/-- Checks the options taken against each other: exclusions first, then needs. -/
def validate (r : ArgState) : Except UsageError Unit := do
  let given := r.given
  for o in given do
    let others := given.filter (Opt.clash o)
    if !others.isEmpty then
      let kept := given.filter (fun p => !others.contains p)
      let extra := (kept.flatMap Opt.needs).filter (fun p => !kept.contains p && !others.contains p)
      throw (.conflict o others (usageLine r.program [] (extra ++ kept)))
  let needed := dedup (given.flatMap Opt.needs)
  let missing := needed.filter fun p => !given.contains p && !given.any (Opt.clash p)
  if !missing.isEmpty then
    throw (.missingRequired missing (usageLine r.program needed (given ++ missing)))

/-- The values of the option `o`, if it was taken. -/
def valuesOf (r : ArgState) (o : Opt) : Option (List String) :=
  (r.taken.find? (fun e => e.1 == o)).map Prod.snd

/-- The invocation the options taken describe. -/
def invocation (r : ArgState) : Invocation :=
  let one (o : Opt) : Option String := (r.valuesOf o).bind List.head?
  let flag (o : Opt) : Bool := (r.valuesOf o).isSome
  { file := one .file, interactive := flag .interactive, bare := flag .bare, editor := flag .editor,
    input := one .input, inputFile := one .inputFile,
    maxSteps := (one .maxSteps).bind fun v => (Text.readWord v).toOption,
    eof := (one .eof).bind EofPolicy.parse, debug := flag .debug, help := flag .help,
    tokens := (r.valuesOf .tokens).getD [] }

end ArgState

/-- Reads the arguments after the program name `program`. -/
def Invocation.parse (program : String) (args : List String) : Except UsageError Invocation := do
  let r ← args.foldlM ArgState.step { program := program }
  let r ← r.settle
  r.validate
  pure r.invocation

end Command
end GotoTape
