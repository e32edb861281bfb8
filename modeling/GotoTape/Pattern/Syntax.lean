/-!
# Pattern syntax

The parsed form of a pattern in the usual regular-expression notation: literals, the dot,
classes (bracketed, Perl-style, ASCII-named and Unicode-property), assertions, groups that
capture or set flags, counted and uncounted repetition, concatenation and alternation. Every
piece that a later stage may find fault with keeps the stretch of the pattern it was read from.
-/

namespace GotoTape
namespace Pattern

/-- A stretch of a pattern by character index: from `start` up to, not including, `stop`. -/
structure Span where
  start : Nat
  stop : Nat
  deriving DecidableEq, Repr, Inhabited

/-- The flags a group can set or clear. -/
inductive Flag where
  | caseInsensitive
  | multiLine
  | dotAll
  | swapGreed
  | unicode
  | crlf
  | ignoreSpace
  deriving DecidableEq, Repr

/-- The flag a letter names inside `(?…)`. -/
def Flag.ofChar? : Char → Option Flag
  | 'i' => some .caseInsensitive
  | 'm' => some .multiLine
  | 's' => some .dotAll
  | 'U' => some .swapGreed
  | 'u' => some .unicode
  | 'R' => some .crlf
  | 'x' => some .ignoreSpace
  | _ => none

/-- One item of a list of flags: a flag, or the `-` that clears the flags after it. -/
inductive FlagItem where
  | negation
  | flag (f : Flag)
  deriving DecidableEq, Repr

/-- What a list of flags does to `f`: sets it, clears it (it follows a `-`), or leaves it. -/
def flagState (items : List FlagItem) (f : Flag) : Option Bool :=
  go false items
where
  go (negated : Bool) : List FlagItem → Option Bool
    | [] => none
    | .negation :: rest => go true rest
    | .flag g :: rest => if g = f then some !negated else go negated rest

/-- The zero-width assertions. -/
inductive Assertion where
  | startLine
  | endLine
  | startText
  | endText
  | wordBoundary
  | notWordBoundary
  | wordStart
  | wordEnd
  | wordStartHalf
  | wordEndHalf
  deriving DecidableEq, Repr

/-- The classes written `\d`, `\s` and `\w`. -/
inductive PerlClass where
  | digit
  | space
  | word
  deriving DecidableEq, Repr

/-- The classes written `[:name:]` inside brackets. -/
inductive AsciiClass where
  | alnum
  | alpha
  | ascii
  | blank
  | cntrl
  | digit
  | graph
  | lower
  | print
  | punct
  | space
  | upper
  | word
  | xdigit
  deriving DecidableEq, Repr

/-- The ASCII class a name stands for. -/
def AsciiClass.ofName? : String → Option AsciiClass
  | "alnum" => some .alnum
  | "alpha" => some .alpha
  | "ascii" => some .ascii
  | "blank" => some .blank
  | "cntrl" => some .cntrl
  | "digit" => some .digit
  | "graph" => some .graph
  | "lower" => some .lower
  | "print" => some .print
  | "punct" => some .punct
  | "space" => some .space
  | "upper" => some .upper
  | "word" => some .word
  | "xdigit" => some .xdigit
  | _ => none

/-- How a Unicode class names its characters: by one letter (`\pL`), by a name (`\p{Greek}`),
or by a property and a value (`\p{sc=Greek}`), where `!=` instead of `=` takes the others. -/
inductive Query where
  | letter (c : Char)
  | name (n : String)
  | value (property value : String) (notEqual : Bool)
  deriving DecidableEq, Repr

/-- A character written in a pattern; `byte` says it was written as a `\x` escape of two
digits, which names a byte rather than a character when Unicode is off. -/
structure Literal where
  span : Span
  c : Char
  byte : Bool
  deriving DecidableEq, Repr

/-- The operators between the parts of a bracketed class: `&&`, `--` and `~~`. -/
inductive SetOp where
  | intersection
  | difference
  | symmetricDifference
  deriving DecidableEq, Repr

/-- The inside of a bracketed class. -/
inductive ClassSet where
  | literal (lit : Literal)
  | range (span : Span) (lo hi : Literal)
  | ascii (span : Span) (cls : AsciiClass) (negated : Bool)
  | unicode (span : Span) (query : Query) (negated : Bool)
  | perl (span : Span) (cls : PerlClass) (negated : Bool)
  | bracketed (span : Span) (negated : Bool) (inner : ClassSet)
  /-- Members in a row; none stands for an empty inside, which keeps the place it was met. -/
  | union (span : Span) (items : List ClassSet)
  | op (span : Span) (kind : SetOp) (lhs rhs : ClassSet)
  deriving Repr

/-- The stretch of the pattern a piece of a class was read from. -/
def ClassSet.span : ClassSet → Span
  | .literal lit => lit.span
  | .range s _ _ => s
  | .ascii s _ _ => s
  | .unicode s _ _ => s
  | .perl s _ _ => s
  | .bracketed s _ _ => s
  | .union s _ => s
  | .op s _ _ _ => s

/-- A group: one that captures, numbered and perhaps named, or one that only groups and may set
flags for its inside. -/
inductive GroupKind where
  | capture (index : Nat) (name : Option String)
  | plain (flags : List FlagItem)
  deriving Repr

/-- A parsed pattern; each node keeps the stretch it was read from. A repetition's stretch runs
from the start of what it repeats to the end of its operator, a group's from its `(` to its `)`,
and a row's or an alternation's from where it began to where it was ended. -/
inductive Node where
  | empty (span : Span)
  | flags (span : Span) (items : List FlagItem)
  | literal (lit : Literal)
  | dot (span : Span)
  | assertion (span : Span) (kind : Assertion)
  | unicode (span : Span) (query : Query) (negated : Bool)
  | perl (span : Span) (cls : PerlClass) (negated : Bool)
  | bracketed (span : Span) (negated : Bool) (set : ClassSet)
  | repetition (span : Span) (min : Nat) (max : Option Nat) (greedy : Bool) (sub : Node)
  | group (span : Span) (kind : GroupKind) (sub : Node)
  | concat (span : Span) (items : List Node)
  | alternation (span : Span) (items : List Node)
  deriving Repr

/-- The stretch of the pattern a node was read from. -/
def Node.span : Node → Span
  | .empty s => s
  | .flags s _ => s
  | .literal lit => lit.span
  | .dot s => s
  | .assertion s _ => s
  | .unicode s _ _ => s
  | .perl s _ _ => s
  | .bracketed s _ _ => s
  | .repetition s _ _ _ _ => s
  | .group s _ _ => s
  | .concat s _ => s
  | .alternation s _ => s

end Pattern
end GotoTape
