import GotoTape.Text.Blank
/-!
# Sections of a settings file

A settings file is read line by line. Blank lines and lines that start with `#` are skipped. A line
in brackets opens a section; in a section, a line with `=` sets the key before the first `=` to
the value after it, both without surrounding blanks, and a value in double quotes loses them.
Lines before the first section are ignored. The last setting of a key wins, also across repeated
headers of one section.
-/

namespace GotoTape
namespace Settings

/-- Settings grouped by section: the section name, its key, its value, the latest first. -/
structure Sections where
  entries : List (String × String × String) := []

namespace Sections

/-- The value of `key` in section `name`, from its last setting. -/
def get? (s : Sections) (name : String) (key : String) : Option String :=
  (s.entries.find? (fun e => e.1 == name && e.2.1 == key)).map (fun e => e.2.2)

/-- A value without one pair of double quotes around it. -/
def unquote (v : List Char) : List Char :=
  match v with
  | '"' :: rest@(_ :: _) => if rest.getLast? = some '"' then rest.dropLast else v
  | _ => v

/-- What one trimmed line does to the open section and the settings. -/
def absorbLine (state : Option String × Sections) (line : List Char) : Option String × Sections :=
  let (current, s) := state
  match line with
  | [] => state
  | '#' :: _ => state
  | '[' :: inner =>
    if inner.getLast? = some ']' then
      (some (String.ofList (Text.trimBlankList inner.dropLast)), s)
    else setting current s line
  | _ => setting current s line
where
  /-- A `key = value` line in the open section. -/
  setting (current : Option String) (s : Sections) (line : List Char) : Option String × Sections :=
    match current with
    | none => (current, s)
    | some name =>
      match line.idxOf? '=' with
      | none => (current, s)
      | some i =>
        let key := String.ofList (Text.trimBlankList (line.take i))
        let value := String.ofList (unquote (Text.trimBlankList (line.drop (i + 1))))
        (current, { entries := (name, key, value) :: s.entries })

/-- Reads the sections of a settings file. -/
def parse (content : String) : Sections :=
  let lines := (content.toList.splitOn '\n').map Text.trimBlankList
  (lines.foldl absorbLine (none, {})).2

end Sections
end Settings
end GotoTape
