import GotoTape.Pattern.Expr
/-!
# Matching

An expression is matched against a text by the sets of positions it can reach: from a set of
start positions, an expression reaches the positions where one of its matches from one of them
ends. A text matches when some position is reached from all positions
at once, which is a match anywhere in it.

A set of positions is an array of flags, one per position from `0` to the length of the text.
Repetition adds the positions that one more round reaches until no new one comes, which takes at
most one round per position.
-/

namespace GotoTape
namespace Pattern

/-- Whether a character is a word character, by Unicode or by ASCII. -/
def isWordOf (unicode : Bool) : Option Char → Bool
  | none => false
  | some c => if unicode then isWordChar c else c.isAlphanum || c == '_'

/-- Whether position `i` of a text passes a test. -/
def Look.holds (text : Array Char) (i : Nat) : Look → Bool
  | .startText => i == 0
  | .endText => i == text.size
  | .startLine crlf =>
    let prev := if i == 0 then none else text[i - 1]?
    let cur := text[i]?
    i == 0 || prev == some '\n' || (crlf && prev == some '\r' && cur != some '\n')
  | .endLine crlf =>
    let prev := if i == 0 then none else text[i - 1]?
    let cur := text[i]?
    i == text.size || cur == some '\n' && (!crlf || prev != some '\r') ||
      (crlf && cur == some '\r')
  | .boundary u => isWordOf u (prevOf i) != isWordOf u text[i]?
  | .notBoundary u => isWordOf u (prevOf i) == isWordOf u text[i]?
  | .wordStart u => !isWordOf u (prevOf i) && isWordOf u text[i]?
  | .wordEnd u => isWordOf u (prevOf i) && !isWordOf u text[i]?
  | .wordStartHalf u => !isWordOf u (prevOf i)
  | .wordEndHalf u => !isWordOf u text[i]?
where
  prevOf (i : Nat) : Option Char := if i == 0 then none else text[i - 1]?

/-- Positions reached by one character of `s` from the positions `start`. -/
def stepSet (text : Array Char) (s : CharSet) (start : Array Bool) : Array Bool :=
  (Array.range (text.size + 1)).map fun i =>
    i != 0 && start.getD (i - 1) false && (text[i - 1]?.map s.mem).getD false

/-- Positions reached by the character `c` from the positions `start`. -/
def stepChar (text : Array Char) (c : Char) (start : Array Bool) : Array Bool :=
  (Array.range (text.size + 1)).map fun i =>
    i != 0 && start.getD (i - 1) false && text[i - 1]? == some c

/-- The positions of either set. -/
def unionPositions (a b : Array Bool) : Array Bool :=
  (Array.range (max a.size b.size)).map fun i => a.getD i false || b.getD i false

/-- Applies `step` exactly `k` times, stopping early once the positions no longer change. -/
def iterateExactly (step : Array Bool → Array Bool) : Nat → Array Bool → Array Bool
  | 0, s => s
  | k + 1, s =>
    let t := step s
    if t == s || !t.any id then t else iterateExactly step k t

/-- Adds the positions of up to `k` more applications of `step`, stopping once a round brings
no new position: from then on none would. -/
def iterateUpTo (step : Array Bool → Array Bool) : Nat → Array Bool → Array Bool → Array Bool
  | 0, acc, _ => acc
  | k + 1, acc, cur =>
    let next := step cur
    let acc' := unionPositions acc next
    if acc' == acc then acc else iterateUpTo step k acc' next

mutual
/-- The positions an expression reaches from the positions `s`. -/
def Expr.reach (text : Array Char) : Expr → Array Bool → Array Bool
  | .empty, s => s
  | .text cs, s => cs.foldl (fun t c => stepChar text c t) s
  | .set cs, s => stepSet text cs s
  | .look l, s => s.mapIdx fun i b => b && l.holds text i
  | .seq items, s => Expr.reachSeq text items s
  | .alt items, s => Expr.reachAlt text items s
  | .group _ _ e, s => e.reach text s
  | .rep lo hi _ e, s =>
    let base := iterateExactly (fun t => e.reach text t) lo s
    let extra := match hi with
      | some h => h - lo
      | none => text.size + 2
    iterateUpTo (fun t => e.reach text t) extra base base

/-- The positions a sequence reaches: each item from where the one before ended. -/
def Expr.reachSeq (text : Array Char) : List Expr → Array Bool → Array Bool
  | [], s => s
  | e :: rest, s => Expr.reachSeq text rest (e.reach text s)

/-- The positions a choice reaches: those of any branch. -/
def Expr.reachAlt (text : Array Char) : List Expr → Array Bool → Array Bool
  | [], s => s.map fun _ => false
  | e :: rest, s => unionPositions (e.reach text s) (Expr.reachAlt text rest s)
end

/-- Whether an expression matches somewhere in a text. -/
def Expr.matchesIn (e : Expr) (text : String) : Bool :=
  let cs := text.toList.toArray
  (e.reach cs (Array.replicate (cs.size + 1) true)).any id

end Pattern
end GotoTape
