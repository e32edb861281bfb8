import GotoTape.Pattern.Syntax
import GotoTape.Ucd.Binary
import GotoTape.Ucd.Category
import GotoTape.Ucd.CaseFolding
/-!
# Character sets

The sets of characters a pattern position may match, kept in a canonical form: the closed ranges
of code points the set covers, sorted, disjoint and apart. Two ranges are apart when at least
one character lies between them; the surrogates are no characters, so a range that ends just
before them and one that starts just after them touch and are joined. Every set operation gives
back a set in this form, so two sets with the same characters have the same ranges.

Case-insensitive matching closes a set under case: a character that is equal up to case to a
member of the set is added. With Unicode off only the ASCII letters have other cases.
-/

namespace GotoTape
namespace Pattern

/-- The largest code point. -/
def maxCodePoint : Nat := 0x10FFFF

/-- Whether a code point is a surrogate, which is no character. -/
def isSurrogate (n : Nat) : Bool := 0xD800 ≤ n && n ≤ 0xDFFF

/-- A set of characters: its closed ranges of code points, sorted, disjoint and apart. -/
structure CharSet where
  ranges : Array (Nat × Nat)
  deriving Inhabited, Repr

/-- A range with its ends moved off the surrogates: a start among them moves up past them, an
end among them moves down before them. The range may become empty. -/
def trimSurrogates (r : Nat × Nat) : Nat × Nat :=
  (if isSurrogate r.1 then 0xE000 else r.1, if isSurrogate r.2 then 0xD7FF else r.2)

/-- Whether a range that starts at `lo` touches or overlaps one that ends at `hi`. -/
def touches (hi lo : Nat) : Bool := lo ≤ hi + 1 || (hi == 0xD7FF && lo == 0xE000)

/-- Joins sorted ranges that touch or overlap, the last one kept open in `cur`. -/
def joinSorted : List (Nat × Nat) → Nat × Nat → List (Nat × Nat)
  | [], cur => [cur]
  | (lo, hi) :: rest, (a, b) =>
    if touches b lo then joinSorted rest (a, max b hi) else (a, b) :: joinSorted rest (lo, hi)

/-- The set of the characters in any of the ranges. -/
def CharSet.ofRanges (rs : List (Nat × Nat)) : CharSet :=
  let kept := (rs.map trimSurrogates).filter fun (lo, hi) => lo ≤ hi && lo ≤ maxCodePoint
  let clipped := kept.map fun (lo, hi) => (lo, min hi maxCodePoint)
  match clipped.mergeSort fun x y => x.1 ≤ y.1 with
  | [] => ⟨#[]⟩
  | r :: rest => ⟨(joinSorted rest r).toArray⟩

/-- The set of one character. -/
def CharSet.single (c : Char) : CharSet := ⟨#[(c.toNat, c.toNat)]⟩

/-- The set of the characters from `lo` to `hi`. -/
def CharSet.span (lo hi : Nat) : CharSet := CharSet.ofRanges [(lo, hi)]

/-- The set of all characters. -/
def CharSet.all : CharSet := CharSet.span 0 maxCodePoint

/-- The set of the characters of a table of the character database. -/
def CharSet.ofTable (t : Ucd.RangeTable) : CharSet := CharSet.ofRanges t.ranges.toList

/-- Whether a set holds a character. -/
def CharSet.mem (s : CharSet) (c : Char) : Bool :=
  Ucd.rangesHold s.ranges c.toNat 0 s.ranges.size

/-- The characters of either set. -/
def CharSet.union (a b : CharSet) : CharSet :=
  CharSet.ofRanges (a.ranges.toList ++ b.ranges.toList)

/-- The characters of any set of a list. -/
def CharSet.unionAll (sets : List CharSet) : CharSet :=
  CharSet.ofRanges (sets.flatMap fun s => s.ranges.toList)

/-- The gaps between sorted ranges from `next` on, up to the largest code point. -/
def gapsFrom : List (Nat × Nat) → Nat → List (Nat × Nat)
  | [], next => if next ≤ maxCodePoint then [(next, maxCodePoint)] else []
  | (lo, hi) :: rest, next =>
    (if next < lo then [(next, lo - 1)] else []) ++ gapsFrom rest (hi + 1)

/-- The characters outside a set. -/
def CharSet.compl (s : CharSet) : CharSet := CharSet.ofRanges (gapsFrom s.ranges.toList 0)

/-- The characters of both sets. -/
def CharSet.inter (a b : CharSet) : CharSet :=
  CharSet.ofRanges (a.ranges.toList.flatMap fun (lo, hi) =>
    b.ranges.toList.filterMap fun (lo', hi') =>
      if max lo lo' ≤ min hi hi' then some (max lo lo', min hi hi') else none)

/-- The characters of the first set that are not in the second. -/
def CharSet.diff (a b : CharSet) : CharSet := a.inter b.compl

/-- The characters of exactly one of the sets. -/
def CharSet.symmDiff (a b : CharSet) : CharSet := (a.union b).diff (a.inter b)

/-- The simple case folding of Unicode: for each character that is equal to others up to case,
those others. -/
def caseFolding : Ucd.PointMap := Ucd.PointMap.ofText Ucd.caseFoldingText

/-- The set with every character added that is equal up to case to one of its members. -/
def CharSet.foldCase (s : CharSet) : CharSet :=
  let added := caseFolding.entries.toList.flatMap fun (k, vs) =>
    if Ucd.rangesHold s.ranges k 0 s.ranges.size then vs.map fun v => (v, v) else []
  CharSet.ofRanges (s.ranges.toList ++ added)

/-- The set with the other case of each ASCII letter in it added. -/
def CharSet.foldAsciiCase (s : CharSet) : CharSet :=
  let lower := s.inter (CharSet.span 0x61 0x7A)
  let upper := s.inter (CharSet.span 0x41 0x5A)
  CharSet.ofRanges (s.ranges.toList ++ lower.ranges.toList.map (fun (a, b) => (a - 32, b - 32)) ++
    upper.ranges.toList.map fun (a, b) => (a + 32, b + 32))

/-- The set closed under case: by Unicode simple case folding, or with Unicode off by ASCII case
alone. -/
def CharSet.closeCase (unicode : Bool) (s : CharSet) : CharSet :=
  if unicode then s.foldCase else s.foldAsciiCase

/-- The characters of an ASCII class. -/
def AsciiClass.set (cls : AsciiClass) : CharSet :=
  CharSet.ofRanges <| match cls with
    | .alnum => [(0x30, 0x39), (0x41, 0x5A), (0x61, 0x7A)]
    | .alpha => [(0x41, 0x5A), (0x61, 0x7A)]
    | .ascii => [(0, 0x7F)]
    | .blank => [(0x09, 0x09), (0x20, 0x20)]
    | .cntrl => [(0, 0x1F), (0x7F, 0x7F)]
    | .digit => [(0x30, 0x39)]
    | .graph => [(0x21, 0x7E)]
    | .lower => [(0x61, 0x7A)]
    | .print => [(0x20, 0x7E)]
    | .punct => [(0x21, 0x2F), (0x3A, 0x40), (0x5B, 0x60), (0x7B, 0x7E)]
    | .space => [(0x09, 0x0D), (0x20, 0x20)]
    | .upper => [(0x41, 0x5A)]
    | .word => [(0x30, 0x39), (0x41, 0x5A), (0x5F, 0x5F), (0x61, 0x7A)]
    | .xdigit => [(0x30, 0x39), (0x41, 0x46), (0x61, 0x66)]

/-- The set of a named table of the character database; empty when there is no such table. -/
def CharSet.named (texts : List (String × String)) (name : String) : CharSet :=
  CharSet.ofTable (Ucd.RangeTable.ofText ((Ucd.textNamed? texts name).getD ""))

/-- The decimal digits of every script. -/
def decimalDigits : CharSet := CharSet.named Ucd.categoryTexts "Decimal_Number"

/-- The characters with the `White_Space` property. -/
def whiteSpace : CharSet := CharSet.named Ucd.binaryPropertyTexts "White_Space"

/-- The characters with the `Alphabetic` property. -/
def alphabetic : CharSet := CharSet.named Ucd.binaryPropertyTexts "Alphabetic"

/-- The numeric characters: decimal numbers, letter numbers and other numbers. -/
def numeric : CharSet :=
  CharSet.unionAll (["Decimal_Number", "Letter_Number", "Other_Number"].map
    (CharSet.named Ucd.categoryTexts))

/-- The word characters of every script. -/
def wordChars : CharSet := CharSet.ofTable (Ucd.RangeTable.ofText Ucd.wordText)

/-- The characters of `\d`, `\s` or `\w`: by Unicode, or with Unicode off by ASCII alone. -/
def PerlClass.set (unicode : Bool) : PerlClass → CharSet
  | .digit => if unicode then decimalDigits else AsciiClass.digit.set
  | .space => if unicode then whiteSpace else AsciiClass.space.set
  | .word => if unicode then wordChars else AsciiClass.word.set

/-- Whether a character is a word character of any script. -/
def isWordChar (c : Char) : Bool := wordChars.mem c

end Pattern
end GotoTape
