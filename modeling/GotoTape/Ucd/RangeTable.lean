/-!
# Code point tables

The character database is kept as text: a table is a list of words separated by blanks and line
feeds. A set of code points is written as its closed ranges, sorted and disjoint, each word a
range `lo-hi` or a single code point, in upper-case hexadecimal. A map from code points to lists
of code points is written one entry a word, `key:value,value`, sorted by key; and a list of names
one entry a word, `name:full name`.

Reading a table is a fold over its words, and looking a code point up halves the table, so it
takes a logarithmic number of steps.
-/

namespace GotoTape
namespace Ucd

/-- The value of an upper-case hexadecimal digit; none for any other character. -/
def hexValue? (c : Char) : Option Nat :=
  if '0' ≤ c && c ≤ '9' then some (c.toNat - '0'.toNat)
  else if 'A' ≤ c && c ≤ 'F' then some (c.toNat - 'A'.toNat + 10)
  else none

/-- A hexadecimal numeral; none when it is empty or holds a character that is no digit. -/
def readHex? (cs : List Char) : Option Nat :=
  if cs.isEmpty then none
  else cs.foldlM (fun acc c => (hexValue? c).map (acc * 16 + ·)) 0

/-- The pieces of a list between the characters that `sep` picks, empty pieces included. -/
def splitWhere (sep : Char → Bool) : List Char → List (List Char)
  | [] => [[]]
  | c :: rest =>
    if sep c then [] :: splitWhere sep rest
    else
      match splitWhere sep rest with
      | piece :: pieces => (c :: piece) :: pieces
      | [] => [[c]]

/-- The words of a table: the pieces of its text between blanks and line feeds that are not
empty. -/
def words (s : String) : List (List Char) :=
  (splitWhere (fun c => c == ' ' || c == '\n') s.toList).filter (!·.isEmpty)

/-- A set of code points: its closed ranges, sorted and disjoint. -/
structure RangeTable where
  ranges : Array (Nat × Nat)
  deriving Inhabited, Repr

/-- A range as written: `lo-hi`, or a single code point. -/
def readRange? (w : List Char) : Option (Nat × Nat) :=
  match splitWhere (· == '-') w with
  | [a] => (readHex? a).map fun n => (n, n)
  | [a, b] =>
    match readHex? a, readHex? b with
    | some lo, some hi => some (lo, hi)
    | _, _ => none
  | _ => none

/-- The set a table text writes; a word that is no range is passed over. -/
def RangeTable.ofText (s : String) : RangeTable :=
  ⟨((words s).filterMap readRange?).toArray⟩

/-- Whether the ranges from index `lo` up to `hi` of a sorted table hold `n`, by halving. -/
def rangesHold (table : Array (Nat × Nat)) (n lo hi : Nat) : Bool :=
  if _h : lo < hi then
    let mid := (lo + hi) / 2
    match table[mid]? with
    | some (a, b) =>
      if n < a then rangesHold table n lo mid
      else if b < n then rangesHold table n (mid + 1) hi
      else true
    | none => false
  else false
termination_by hi - lo
decreasing_by all_goals omega

/-- Whether a set holds the code point `n`. -/
def RangeTable.contains (t : RangeTable) (n : Nat) : Bool :=
  rangesHold t.ranges n 0 t.ranges.size

/-- Whether a set holds a character. -/
def RangeTable.mem (t : RangeTable) (c : Char) : Bool := t.contains c.toNat

/-- A map from code points to lists of code points, sorted by key. -/
structure PointMap where
  entries : Array (Nat × List Nat)
  deriving Inhabited

/-- An entry as written: `key:value,value`. -/
def readEntry? (w : List Char) : Option (Nat × List Nat) :=
  match splitWhere (· == ':') w with
  | [k, vs] =>
    match readHex? k, (splitWhere (· == ',') vs).mapM readHex? with
    | some key, some values => some (key, values)
    | _, _ => none
  | _ => none

/-- The map a table text writes; a word that is no entry is passed over. -/
def PointMap.ofText (s : String) : PointMap :=
  ⟨((words s).filterMap readEntry?).toArray⟩

/-- The values of the key `n` among the entries from index `lo` up to `hi`, by halving. -/
def entryValues (table : Array (Nat × List Nat)) (n lo hi : Nat) : List Nat :=
  if _h : lo < hi then
    let mid := (lo + hi) / 2
    match table[mid]? with
    | some (k, vs) =>
      if n < k then entryValues table n lo mid
      else if k < n then entryValues table n (mid + 1) hi
      else vs
    | none => []
  else []
termination_by hi - lo
decreasing_by all_goals omega

/-- The values of a key; none when it has no entry. -/
def PointMap.find (m : PointMap) (n : Nat) : List Nat :=
  entryValues m.entries n 0 m.entries.size

/-- A name as written: `name:full name`. -/
def readName? (w : List Char) : Option (String × String) :=
  match splitWhere (· == ':') w with
  | [a, b] => some (String.ofList a, String.ofList b)
  | _ => none

/-- The names a table text lists, each with the full name it stands for. -/
def namesOfText (s : String) : List (String × String) :=
  (words s).filterMap readName?

/-- The entry of a list of named texts for a name. -/
def textNamed? (texts : List (String × String)) (name : String) : Option String :=
  (texts.find? (·.1 == name)).map Prod.snd

theorem readHex?_digit (c : Char) (n : Nat) (h : hexValue? c = some n) :
    readHex? [c] = some n := by
  simp [readHex?, List.foldlM, h]

theorem splitWhere_nil (sep : Char → Bool) : splitWhere sep [] = [[]] := rfl

end Ucd
end GotoTape
