import GotoTape.Pattern.Syntax
/-!
# Pattern faults

Why a pattern is refused, and the report that shows where: the pattern, and under it a row of
carets beneath the stretch at fault (one caret for an empty stretch). A pattern of several lines
is shown between two rules of tildes with numbered lines, and a stretch that runs over several
lines is named by its lines and columns below the pattern.
-/

namespace GotoTape
namespace Pattern

/-- The causes for refusing a pattern. -/
inductive ErrorKind where
  | classEscapeInvalid
  | classRangeInvalid
  | classRangeLiteral
  | classUnclosed
  | decimalEmpty
  | decimalInvalid
  | escapeHexEmpty
  | escapeHexInvalid
  | escapeHexInvalidDigit
  | escapeUnexpectedEof
  | escapeUnrecognized
  | flagDanglingNegation
  | flagDuplicate
  | flagRepeatedNegation
  | flagUnexpectedEof
  | flagUnrecognized
  | groupNameDuplicate
  | groupNameEmpty
  | groupNameInvalid
  | groupNameUnexpectedEof
  | groupUnclosed
  | groupUnopened
  | repetitionCountInvalid
  | repetitionCountDecimalEmpty
  | repetitionCountUnclosed
  | repetitionMissing
  | specialWordBoundaryUnclosed
  | specialWordBoundaryUnrecognized
  | specialWordOrRepetitionUnexpectedEof
  | unicodeClassInvalid
  | unsupportedBackreference
  | unsupportedLookAround
  /-- Groups, classes and repetitions nested more than this many levels deep. -/
  | nestLimitExceeded (limit : Nat)
  /-- A Unicode class, or a character beyond ASCII in a class, while Unicode is off. -/
  | unicodeNotAllowed
  /-- A piece that could match a byte that is not a whole character, while Unicode is off. -/
  | invalidUtf8
  | propertyNotFound
  | propertyValueNotFound
  deriving DecidableEq, Repr

/-- The sentence that names a cause. -/
def ErrorKind.message : ErrorKind → String
  | .classEscapeInvalid => "invalid escape sequence found in character class"
  | .classRangeInvalid => "invalid character class range, the start must be <= the end"
  | .classRangeLiteral => "invalid range boundary, must be a literal"
  | .classUnclosed => "unclosed character class"
  | .decimalEmpty => "decimal literal empty"
  | .decimalInvalid => "decimal literal invalid"
  | .escapeHexEmpty => "hexadecimal literal empty"
  | .escapeHexInvalid => "hexadecimal literal is not a Unicode scalar value"
  | .escapeHexInvalidDigit => "invalid hexadecimal digit"
  | .escapeUnexpectedEof => "incomplete escape sequence, reached end of pattern prematurely"
  | .escapeUnrecognized => "unrecognized escape sequence"
  | .flagDanglingNegation => "dangling flag negation operator"
  | .flagDuplicate => "duplicate flag"
  | .flagRepeatedNegation => "flag negation operator repeated"
  | .flagUnexpectedEof => "expected flag but got end of regex"
  | .flagUnrecognized => "unrecognized flag"
  | .groupNameDuplicate => "duplicate capture group name"
  | .groupNameEmpty => "empty capture group name"
  | .groupNameInvalid => "invalid capture group character"
  | .groupNameUnexpectedEof => "unclosed capture group name"
  | .groupUnclosed => "unclosed group"
  | .groupUnopened => "unopened group"
  | .repetitionCountInvalid => "invalid repetition count range, the start must be <= the end"
  | .repetitionCountDecimalEmpty => "repetition quantifier expects a valid decimal"
  | .repetitionCountUnclosed => "unclosed counted repetition"
  | .repetitionMissing => "repetition operator missing expression"
  | .specialWordBoundaryUnclosed =>
    "special word boundary assertion is either unclosed or contains an invalid character"
  | .specialWordBoundaryUnrecognized =>
    "unrecognized special word boundary assertion, valid choices are: start, end, start-half " ++
      "or end-half"
  | .specialWordOrRepetitionUnexpectedEof =>
    "found either the beginning of a special word boundary or a bounded repetition on a \\b " ++
      "with an opening brace, but no closing brace"
  | .unicodeClassInvalid => "invalid Unicode character class"
  | .unsupportedBackreference => "backreferences are not supported"
  | .unsupportedLookAround =>
    "look-around, including look-ahead and look-behind, is not supported"
  | .nestLimitExceeded limit =>
    s!"exceed the maximum number of nested parentheses/brackets ({limit})"
  | .unicodeNotAllowed => "Unicode not allowed here"
  | .invalidUtf8 => "pattern can match invalid UTF-8"
  | .propertyNotFound => "Unicode property not found"
  | .propertyValueNotFound => "Unicode property value not found"

/-- A refused pattern: the cause, the stretch at fault, and for a repeated flag or group name
the stretch of its first occurrence. -/
structure Error where
  kind : ErrorKind
  span : Span
  aux : Option Span
  deriving Repr

/-- A place in a pattern: line and column, both from one, columns counted in characters. -/
structure Place where
  line : Nat
  column : Nat
  deriving DecidableEq, Repr

/-- The place of the character index `i` of a pattern. -/
def placeOf (pattern : List Char) (i : Nat) : Place :=
  (pattern.take i).foldl (fun p c => if c == '\n' then ⟨p.line + 1, 1⟩ else ⟨p.line, p.column + 1⟩)
    ⟨1, 1⟩

/-- The lines of a text: split at each line feed, with a carriage return before a line feed
dropped, and no line after a final line feed. -/
def textLines (s : List Char) : List (List Char) :=
  let pieces := s.splitOn '\n'
  let ended := pieces.dropLast.map fun l => if l.getLast? == some '\r' then l.dropLast else l
  match pieces.getLast? with
  | some last => if last.isEmpty then ended else ended ++ [last]
  | none => ended

/-- The carets under one line: spaces up to each stretch, then a caret per character of it,
at least one. -/
def caretRow (indent : Nat) (stretches : List (Place × Place)) : String :=
  let (row, _) := stretches.foldl (fun (acc, col) (a, b) =>
    let gap := a.column - 1 - col
    let width := max 1 (b.column - a.column)
    (acc ++ List.replicate gap ' ' ++ List.replicate width '^', col + gap + width))
    (List.replicate indent ' ', 0)
  String.ofList row

/-- Pads a line number on the left to `width` digits. -/
def padNumber (width n : Nat) : String :=
  let s := toString n
  String.ofList (List.replicate (width - s.length) ' ') ++ s

/-- The report for a refused pattern. -/
def Error.render (pattern : String) (e : Error) : String :=
  let cs := pattern.toList
  let lines := textLines cs
  let lineCount := lines.length + (if cs.getLast? == some '\n' then 1 else 0)
  let width := if lineCount ≤ 1 then 0 else (toString lineCount).length
  let stretches := (e.span :: e.aux.toList).map fun s => (placeOf cs s.start, placeOf cs s.stop)
  let oneLine := stretches.filter fun (a, b) => a.line == b.line
  let sorted := oneLine.mergeSort fun x y =>
    x.1.column < y.1.column || (x.1.column == y.1.column && x.2.column ≤ y.2.column)
  let multi := stretches.filter fun (a, b) => a.line != b.line
  let indent := if width == 0 then 4 else 2 + width
  let body := (lines.zipIdx.map fun (l, i) =>
    let head := if width == 0 then "    " else padNumber width (i + 1) ++ ": "
    let marks := sorted.filter fun (a, _) => a.line == i + 1
    head ++ String.ofList l ++ "\n" ++
      (if marks.isEmpty then "" else caretRow indent marks ++ "\n")).foldl (· ++ ·) ""
  let message := "error: " ++ e.kind.message
  if cs.contains '\n' then
    let rule := String.ofList (List.replicate 79 '~')
    let notes := multi.map fun (a, b) =>
      s!"on line {a.line} (column {a.column}) through line {b.line} (column {b.column - 1})"
    "regex parse error:\n" ++ rule ++ "\n" ++ body ++ rule ++ "\n" ++
      (if notes.isEmpty then "" else String.intercalate "\n" notes ++ "\n") ++ message
  else
    "regex parse error:\n" ++ body ++ message

end Pattern
end GotoTape
