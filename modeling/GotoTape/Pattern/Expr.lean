import GotoTape.Pattern.CharSet
/-!
# Expressions

A parsed pattern becomes an expression over text, character sets, zero-width tests, repetition,
capturing groups, sequence and choice. Expressions are made through the constructors of this
module, which keep them in a simplified form; every simplification keeps the set of texts an
expression matches, so matching may ignore it, but the size of the automaton a pattern compiles
to is read off this form, which is why it is kept exactly:

* a set of one character is that character as text, and a set of none stays the set that
  matches nothing;
* a sequence has no empty item, no nested sequence and no two texts side by side: they are
  joined into one; a sequence of one item is that item;
* a choice has no nested choice; a choice of single characters, or of sets, is the one set of
  them all; a choice among sequences that start with the same items is those items followed by
  the choice among the rests;
* a repetition of something that only matches the empty text is done at most once, and a
  repetition exactly once is its body.

Besides the language, an expression knows the least and the most bytes a match of it takes,
and whether every match of it starts at the start of the text or ends at its end.
-/

namespace GotoTape
namespace Pattern

/-- The zero-width tests a position can pass. -/
inductive Look where
  | startText
  | endText
  /-- The start of a line; with `crlf` a carriage return ends a line too, but not the line feed
  that follows it. -/
  | startLine (crlf : Bool)
  | endLine (crlf : Bool)
  | boundary (unicode : Bool)
  | notBoundary (unicode : Bool)
  | wordStart (unicode : Bool)
  | wordEnd (unicode : Bool)
  | wordStartHalf (unicode : Bool)
  | wordEndHalf (unicode : Bool)
  deriving DecidableEq, Repr

/-- A pattern ready to be matched. -/
inductive Expr where
  | empty
  /-- These characters in a row; never no characters. -/
  | text (chars : List Char)
  | set (s : CharSet)
  | look (l : Look)
  /-- From `min` to `max` matches of `sub` in a row, no upper bound without `max`; `greedy`
  says whether more matches are preferred to fewer. -/
  | rep (min : Nat) (max : Option Nat) (greedy : Bool) (sub : Expr)
  | group (index : Nat) (name : Option String) (sub : Expr)
  | seq (items : List Expr)
  | alt (items : List Expr)
  deriving Repr, Inhabited

mutual
/-- Whether two expressions are the same. -/
def Expr.same : Expr → Expr → Bool
  | .empty, .empty => true
  | .text a, .text b => a == b
  | .set a, .set b => a.ranges == b.ranges
  | .look a, .look b => a == b
  | .rep a₁ a₂ a₃ a, .rep b₁ b₂ b₃ b => a₁ == b₁ && a₂ == b₂ && a₃ == b₃ && Expr.same a b
  | .group a₁ a₂ a, .group b₁ b₂ b => a₁ == b₁ && a₂ == b₂ && Expr.same a b
  | .seq as, .seq bs => Expr.sameAll as bs
  | .alt as, .alt bs => Expr.sameAll as bs
  | _, _ => false

/-- Whether two lists of expressions are the same, item by item. -/
def Expr.sameAll : List Expr → List Expr → Bool
  | [], [] => true
  | a :: as, b :: bs => Expr.same a b && Expr.sameAll as bs
  | _, _ => false
end

instance : BEq Expr := ⟨Expr.same⟩

/-- The number of bytes of the UTF-8 encoding of a code point. -/
def utf8Width (n : Nat) : Nat :=
  if n < 0x80 then 1 else if n < 0x800 then 2 else if n < 0x10000 then 3 else 4

/-- The number of bytes of the UTF-8 encoding of some characters. -/
def utf8Length (cs : List Char) : Nat := cs.foldl (fun n c => n + utf8Width c.toNat) 0

/-- The expression of a set: a set of one character is that character as text. -/
def Expr.ofSet (s : CharSet) : Expr :=
  match s.ranges.toList with
  | [(lo, hi)] => if lo == hi then .text [Char.ofNat lo] else .set s
  | _ => .set s

/-- The set that matches nothing. -/
def Expr.never : Expr := .set ⟨#[]⟩

/-- The items an expression stands for inside a sequence: those of a sequence, none for the
empty expression, else itself. -/
def Expr.seqItems : Expr → List Expr
  | .seq items => items
  | .empty => []
  | e => [e]

/-- Joins the texts that stand side by side. -/
def joinTexts : List Expr → List Expr
  | [] => []
  | .text a :: rest =>
    match joinTexts rest with
    | .text b :: rest' => .text (a ++ b) :: rest'
    | rest' => .text a :: rest'
  | e :: rest => e :: joinTexts rest

/-- The sequence of some expressions. -/
def Expr.concat (items : List Expr) : Expr :=
  match joinTexts (items.flatMap Expr.seqItems) with
  | [] => .empty
  | [e] => e
  | es => .seq es

/-- The items an expression stands for inside a choice: those of a choice, else itself. -/
def Expr.altItems : Expr → List Expr
  | .alt items => items
  | e => [e]

/-- The character of a text of one character. -/
def Expr.singleChar? : Expr → Option Char
  | .text [c] => some c
  | _ => none

/-- The set of a set expression. -/
def Expr.set? : Expr → Option CharSet
  | .set s => some s
  | _ => none

/-- The items of a sequence expression. -/
def Expr.seq? : Expr → Option (List Expr)
  | .seq items => some items
  | _ => none

/-- The number of leading items two lists share. -/
def sharedLeading : List Expr → List Expr → Nat
  | a :: as, b :: bs => if a == b then sharedLeading as bs + 1 else 0
  | _, _ => 0

mutual
/-- The number of nodes of an expression; it bounds how often a choice can be refactored. -/
def Expr.nodes : Expr → Nat
  | .rep _ _ _ sub => sub.nodes + 1
  | .group _ _ sub => sub.nodes + 1
  | .seq items => Expr.nodesAll items + 1
  | .alt items => Expr.nodesAll items + 1
  | _ => 1

/-- The number of nodes of some expressions. -/
def Expr.nodesAll : List Expr → Nat
  | [] => 0
  | e :: rest => e.nodes + Expr.nodesAll rest
end

/-- The choice among some expressions, given `fuel` rounds of taking out shared leading
items. Each round takes at least one node out of every branch, so the number of nodes of the
branches is enough fuel. -/
def Expr.choiceWith : Nat → List Expr → Expr
  | fuel, items =>
    let flat := items.flatMap Expr.altItems
    match flat with
    | [] => Expr.never
    | [e] => e
    | first :: rest =>
      match flat.mapM Expr.singleChar? with
      | some cs => Expr.ofSet (CharSet.ofRanges (cs.map fun c => (c.toNat, c.toNat)))
      | none =>
        match flat.mapM Expr.set? with
        | some sets => Expr.ofSet (CharSet.unionAll sets)
        | none =>
          match fuel, first.seq?, rest.mapM Expr.seq? with
          | fuel + 1, some head, some tails =>
            let shared := tails.foldl (fun n t => min n (sharedLeading head t)) head.length
            if shared == 0 then .alt flat
            else
              let rests := (head :: tails).map fun items => Expr.concat (items.drop shared)
              Expr.concat (head.take shared ++ [Expr.choiceWith fuel rests])
          | _, _, _ => .alt flat

/-- The choice among some expressions. -/
def Expr.choice (items : List Expr) : Expr :=
  Expr.choiceWith (Expr.nodesAll items) items

mutual
/-- The most bytes a match takes; none when there is no bound or no match at all. -/
def Expr.maxLen : Expr → Option Nat
  | .empty => some 0
  | .text cs => some (utf8Length cs)
  | .set s => s.ranges.back?.map fun r => utf8Width r.2
  | .look _ => some 0
  | .rep _ max _ sub => do
    let m ← max
    let k ← sub.maxLen
    return k * m
  | .group _ _ sub => sub.maxLen
  | .seq items => Expr.maxLenSeq items
  | .alt items => Expr.maxLenAlt items

/-- The most bytes a match of a sequence takes. -/
def Expr.maxLenSeq : List Expr → Option Nat
  | [] => some 0
  | e :: rest => do
    let a ← e.maxLen
    let b ← Expr.maxLenSeq rest
    return a + b

/-- The most bytes a match of a choice takes: none when a branch has no bound. -/
def Expr.maxLenAlt : List Expr → Option Nat
  | [] => none
  | [e] => e.maxLen
  | e :: rest => do
    let a ← e.maxLen
    let b ← Expr.maxLenAlt rest
    return max a b
end

mutual
/-- The least bytes a match takes; none when there is no match at all. -/
def Expr.minLen : Expr → Option Nat
  | .empty => some 0
  | .text cs => some (utf8Length cs)
  | .set s => s.ranges[0]?.map fun r => utf8Width r.1
  | .look _ => some 0
  | .rep min _ _ sub => sub.minLen.map (· * min)
  | .group _ _ sub => sub.minLen
  | .seq items => Expr.minLenSeq items
  | .alt items => Expr.minLenAlt items

/-- The least bytes a match of a sequence takes. -/
def Expr.minLenSeq : List Expr → Option Nat
  | [] => some 0
  | e :: rest => do
    let a ← e.minLen
    let b ← Expr.minLenSeq rest
    return a + b

/-- The least bytes a match of a choice takes: none when a branch has no match. -/
def Expr.minLenAlt : List Expr → Option Nat
  | [] => none
  | [e] => e.minLen
  | e :: rest => do
    let a ← e.minLen
    let b ← Expr.minLenAlt rest
    return min a b
end

/-- The repetition of `sub` from `min` to `max` times. Something that only matches the empty
text matches the same whether repeated once or more, so it is repeated at most once. -/
def Expr.repeat (min : Nat) (max : Option Nat) (greedy : Bool) (sub : Expr) : Expr :=
  let (min, max) :=
    if sub.maxLen == some 0 then (Nat.min min 1, some (Nat.min (max.getD 1) 1)) else (min, max)
  if min == 0 && max == some 0 then .empty
  else if min == 1 && max == some 1 then sub
  else .rep min max greedy sub

mutual
/-- Whether every match starts at the start of the text. -/
def Expr.anchoredStart : Expr → Bool
  | .look .startText => true
  | .rep min _ _ sub => 0 < min && sub.anchoredStart
  | .group _ _ sub => sub.anchoredStart
  | .seq items => Expr.anchoredStartSeq items
  | .alt items => Expr.anchoredStartAlt items
  | _ => false

/-- Whether every match of a sequence starts at the start of the text: some item does, and
every item before it matches only the empty text. -/
def Expr.anchoredStartSeq : List Expr → Bool
  | [] => false
  | e :: rest => e.anchoredStart || (e.maxLen == some 0 && Expr.anchoredStartSeq rest)

/-- Whether every match of a choice starts at the start of the text: every branch does. -/
def Expr.anchoredStartAlt : List Expr → Bool
  | [] => false
  | [e] => e.anchoredStart
  | e :: rest => e.anchoredStart && Expr.anchoredStartAlt rest
end

mutual
/-- Whether every match ends at the end of the text. -/
def Expr.anchoredEnd : Expr → Bool
  | .look .endText => true
  | .rep min _ _ sub => 0 < min && sub.anchoredEnd
  | .group _ _ sub => sub.anchoredEnd
  | .seq items => Expr.anchoredEndSeq items
  | .alt items => Expr.anchoredEndAlt items
  | _ => false

/-- Whether every match of a sequence ends at the end of the text: some item does, and every
item after it matches only the empty text. -/
def Expr.anchoredEndSeq : List Expr → Bool
  | [] => false
  | e :: rest =>
    Expr.anchoredEndSeq rest || (e.anchoredEnd && rest.all fun x => x.maxLen == some 0)

/-- Whether every match of a choice ends at the end of the text: every branch does. -/
def Expr.anchoredEndAlt : List Expr → Bool
  | [] => false
  | [e] => e.anchoredEnd
  | e :: rest => e.anchoredEnd && Expr.anchoredEndAlt rest
end

end Pattern
end GotoTape
