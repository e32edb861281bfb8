import GotoTape.Text.Utf8
/-!
# The host of a command

Everything the command reads from the system it runs on, as a value: its arguments and
environment, the files it may open, its standard input, whether standard error is a terminal, and
when an interrupt arrives. Files are looked up the way a path is walked: component by component
from the root or the working directory, where every component but the last must be a directory.
A path of `pathMax` bytes or more is refused at once, and a component longer than `nameMax`
bytes when the walk reaches it.

An interrupt is timed in milliseconds from the start; a running program is taken to dispatch
`stepsPerMillisecond` steps each millisecond, so an interrupt meets a run after that many steps
per millisecond, and meets an idle command at once.
-/

namespace GotoTape
namespace Command

/-- Why a file could not be read. -/
inductive FileError where
  | notFound
  | isDirectory
  | notDirectory
  | nameTooLong
  | invalidUtf8
  deriving DecidableEq, Repr

/-- The sentence a failed read is reported with. -/
def FileError.message : FileError → String
  | .notFound => "No such file or directory (os error 2)"
  | .isDirectory => "Is a directory (os error 21)"
  | .notDirectory => "Not a directory (os error 20)"
  | .nameTooLong => "File name too long (os error 36)"
  | .invalidUtf8 => "stream did not contain valid UTF-8"

/-- Files by absolute path, and the working directory. Directories are the working directory,
the folders above it, and the folders that hold a file. -/
structure FileSystem where
  cwd : String := "/"
  files : List (String × Array UInt8) := []

/-- The components of a path, without empty ones. -/
def components (path : String) : List String :=
  (path.splitOn "/").filter (fun c => !c.isEmpty)

/-- The most bytes a component of a path may have. -/
def nameMax : Nat := 255

/-- The bytes from which a path is too long, counting the zero byte that ends it. -/
def pathMax : Nat := 4096

namespace FileSystem

/-- The files, each as its list of components. -/
def entries (fs : FileSystem) : List (List String × Array UInt8) :=
  fs.files.map fun (p, b) => (components p, b)

/-- The contents of the file at the components `p`, if one is there. -/
def fileAt? (fs : FileSystem) (p : List String) : Option (Array UInt8) :=
  (fs.entries.find? (fun e => e.1 == p)).map Prod.snd

/-- Whether the components `p` name a directory. -/
def isDir (fs : FileSystem) (p : List String) : Bool :=
  p.isPrefixOf (components fs.cwd) ||
    fs.entries.any (fun e => p.isPrefixOf e.1 && p.length < e.1.length)

/-- Walks the components of a path from the directory `here`. -/
def walk (fs : FileSystem) (here : List String) (trailingSlash : Bool) :
    List String → Except FileError (Array UInt8)
  | [] =>
    match fs.fileAt? here with
    | some b => if trailingSlash then .error .notDirectory else .ok b
    | none => if fs.isDir here then .error .isDirectory else .error .notFound
  | c :: rest =>
    if c == "." then fs.walk here trailingSlash rest
    else if c == ".." then fs.walk here.dropLast trailingSlash rest
    else if nameMax < c.utf8ByteSize then .error .nameTooLong
    else
      let next := here ++ [c]
      match fs.fileAt? next with
      | some b =>
        if rest.isEmpty then
          if trailingSlash then .error .notDirectory else .ok b
        else .error .notDirectory
      | none =>
        if fs.isDir next then fs.walk next trailingSlash rest else .error .notFound

/-- The bytes of the file at `path`, absolute or relative to the working directory. -/
def read (fs : FileSystem) (path : String) : Except FileError (Array UInt8) :=
  if path.isEmpty then .error .notFound
  else if pathMax ≤ path.utf8ByteSize + 1 then .error .nameTooLong
  else
    let start := if path.startsWith "/" then [] else components fs.cwd
    fs.walk start (path.endsWith "/") (components path)

/-- The text of the file at `path`, which must be UTF-8. -/
def readText (fs : FileSystem) (path : String) : Except FileError String :=
  match fs.read path with
  | .ok b =>
    match Text.decodeUtf8? b with
    | some s => .ok s
    | none => .error .invalidUtf8
  | .error e => .error e

end FileSystem

/-- Standard input of a command. -/
inductive Stdin where
  /-- A pipe that carries these bytes; `closed` says whether it is closed after them. -/
  | pipe (bytes : Array UInt8) (closed : Bool)
  /-- A terminal, and the strings typed on it once the line editor has taken it over, each as
  its bytes. -/
  | terminal (typed : List (List UInt8))
  deriving Repr

/-- Steps a running program is taken to dispatch per millisecond. -/
def stepsPerMillisecond : Nat := 50000

/-- How long a typist waits for a busy editor before typing the next key, in milliseconds. -/
def typingWait : Nat := 200

/-- The system a command runs on. -/
structure Host where
  program : String := "gbf"
  args : List String := []
  env : List (String × String) := []
  files : FileSystem := {}
  stdin : Stdin := .pipe #[] true
  stderrIsTerminal : Bool := false
  /-- Milliseconds after the start when an interrupt arrives, if one does. -/
  interruptAt : Option Nat := none

/-- The value of an environment variable. -/
def Host.getEnv (h : Host) (name : String) : Option String :=
  (h.env.reverse.find? (fun e => e.1 == name)).map Prod.snd

/-- Joins a file name to a directory path; an empty directory path leaves the name alone. -/
def joinPath (dir name : String) : String :=
  if dir.isEmpty then name else if dir.endsWith "/" then dir ++ name else dir ++ "/" ++ name

/-- The configuration folder: `XDG_CONFIG_HOME` whenever it is set, even to a relative or empty
path, and otherwise `.config` in the home folder. An empty `HOME` names no home folder. Without
either there is none. -/
def Host.configHome (h : Host) : Option String :=
  match h.getEnv "XDG_CONFIG_HOME" with
  | some x => some x
  | none => ((h.getEnv "HOME").filter (!·.isEmpty)).map fun home => joinPath home ".config"

/-- Where the settings file is: the path in `GBF_CONFIG`, else `gbf.toml` in the configuration
folder. -/
def Host.settingsPath (h : Host) : Option String :=
  match h.getEnv "GBF_CONFIG" with
  | some p => some p
  | none => h.configHome.map fun base => joinPath base "gbf.toml"

/-- The components of `path` seen from the directory `cwd`, with `.` and `..` taken by name. -/
def FileSystem.locate (cwd path : String) : List String :=
  let start := if path.startsWith "/" then [] else components cwd
  (components path).foldl (fun acc c =>
    if c == "." then acc else if c == ".." then acc.dropLast else acc ++ [c]) start

/-- Every path an argument list may name for reading: each argument, what follows the first `=`
in it, and what follows its first two characters, where a one-letter option ends. -/
def pathsNamed (args : List String) : List String :=
  args.flatMap fun a =>
    let cs := a.toList
    [a, String.ofList ((cs.dropWhile (· != '=')).drop 1), String.ofList (cs.drop 2)]

/-- Whether standard input is a terminal. -/
def Host.stdinIsTerminal (h : Host) : Bool :=
  match h.stdin with
  | .terminal _ => true
  | .pipe _ _ => false

end Command
end GotoTape
