import GotoTape.Log
import GotoTape.Pattern
import GotoTape.Text.Blank
/-!
# Which log records are shown, and how

A filter specification is a comma-separated list of directives, optionally followed by `/` and a
pattern that a shown message must match somewhere; a pattern that cannot be compiled is reported
with a warning line and dropped. A directive is a level (`off`, `error`, `warn`, `info`,
`debug`, `trace`, in any case) for every target, a target name (shown at every level), or
`name=level`. A target matches the directives whose names it starts with; the longest such name
decides, and a directive without a name matches every target. With no directive at all only
errors are shown. Malformed pieces are skipped with a warning line.

A shown record is one line: the level padded to five characters, the target padded to the widest
target shown so far, then `>` and the message.
-/

namespace GotoTape
namespace Command

/-- A directive: the target prefix it is for (none for all) and the highest rank it lets through;
rank zero lets nothing through. -/
structure Directive where
  name : Option String
  rank : Nat
  deriving DecidableEq, Repr

/-- The length of a directive's name, zero for none. -/
def Directive.width (d : Directive) : Nat := (d.name.map String.length).getD 0

/-- The rank a level name stands for, ignoring ASCII case. -/
def rankOfName? (s : String) : Option Nat :=
  match Text.asciiLower s with
  | "off" => some 0
  | "error" => some 1
  | "warn" => some 2
  | "info" => some 3
  | "debug" => some 4
  | "trace" => some 5
  | _ => none

/-- Directives, and the pattern a shown message must match. -/
structure LogFilter where
  directives : List Directive := [{ name := none, rank := 1 }]
  pattern : Option Pattern.Matcher := none

namespace LogFilter

/-- Adds a directive, replacing the one with the same name. -/
def insert (ds : List Directive) (d : Directive) : List Directive :=
  if ds.any (fun e => e.name == d.name) then ds.map (fun e => if e.name == d.name then d else e)
  else ds ++ [d]

/-- The directive one piece of the specification gives, or the warning it earns. -/
def directive (piece : String) : Except String Directive :=
  match piece.splitOn "=" with
  | [part] =>
    match rankOfName? part with
    | some r => .ok { name := none, rank := r }
    | none => .ok { name := some part, rank := 5 }
  | [part, level] =>
    let level := Text.trimBlank level
    if level.isEmpty then .ok { name := some part, rank := 5 }
    else
      match rankOfName? level with
      | some r => .ok { name := some part, rank := r }
      | none => .error s!"warning: invalid logging spec '{level}', ignoring it"
  | _ => .error s!"warning: invalid logging spec '{piece}', ignoring it"

/-- Reads a filter specification; gives the filter and the warning lines. -/
def parse (spec : String) : LogFilter × List String :=
  match spec.splitOn "/" with
  | [mods] => build mods none
  | [mods, text] => build mods (some text)
  | _ => ({}, [s!"warning: invalid logging spec '{spec}', ignoring it (too many '/'s)"])
where
  build (mods : String) (pattern : Option String) : LogFilter × List String :=
    let pieces := (mods.splitOn ",").map Text.trimBlank |>.filter (fun s => !s.isEmpty)
    let (ds, warnings) := pieces.foldl (fun (ds, ws) piece =>
      match directive piece with
      | .ok d => (insert ds d, ws)
      | .error w => (ds, ws ++ [w])) ([], [])
    let ds := if ds.isEmpty then [{ name := none, rank := 1 }] else ds
    match pattern.map Pattern.compile with
    | some (.ok m) => ({ directives := ds, pattern := some m }, warnings)
    | some (.error report) =>
      ({ directives := ds, pattern := none },
        warnings ++ [s!"warning: invalid regex filter - {report}"])
    | none => ({ directives := ds, pattern := none }, warnings)

/-- The filter used when no specification is given: errors only. -/
def quiet : LogFilter := {}

/-- Whether records of `level` from `target` pass: the directive with the longest name that
`target` starts with decides. -/
def enabled (f : LogFilter) (level : Level) (target : String) : Bool :=
  let matching := f.directives.filter fun d =>
    match d.name with
    | none => true
    | some n => target.startsWith n
  match matching.foldl (fun best d =>
      match best with
      | none => some d
      | some b => if b.width ≤ d.width then some d else some b) none with
  | some d => level.rank ≤ d.rank
  | none => false

/-- Whether a record is shown. -/
def admits (f : LogFilter) (r : Record) : Bool :=
  f.enabled r.level r.target &&
    match f.pattern with
    | none => true
    | some m => m.matches r.message

/-- Pads a text with spaces on the right to `width` characters. -/
def padRight (s : String) (width : Nat) : String :=
  s ++ String.ofList (List.replicate (width - s.length) ' ')

/-- The line of a shown record, given the widest target shown before it; gives the new widest. -/
def line (width : Nat) (r : Record) : String × Nat :=
  let width := max width r.target.length
  let level := padRight r.level.name 5
  let target := padRight r.target width
  let message := r.message
  (s!" {level} {target} > {message}\n", width)

end LogFilter
end Command
end GotoTape
