import GotoTape.Pattern.Parse
import GotoTape.Pattern.Property
import GotoTape.Pattern.Expr
/-!
# From a parsed pattern to an expression

The flags in force are followed left to right: a flag setting holds to the end of the group that
holds it, a group's own flags hold inside it, and every group gives back the flags it found.
Case-insensitive matching closes a class under case before negating it, so `(?i)[^a]` takes
neither `a` nor `A`.

With Unicode off a pattern still has to match whole characters: a piece that could stop inside
one (the dot, a negated class, a byte escape above `\x7F`) is refused, and so are Unicode
classes and characters beyond ASCII inside brackets.
-/

namespace GotoTape
namespace Pattern

/-- The flags that decide what a piece matches. -/
structure Flags where
  caseless : Bool
  multiLine : Bool
  dotAll : Bool
  unicode : Bool
  crlf : Bool
  swapGreed : Bool
  deriving Repr

/-- The flags at the start of a pattern: Unicode on, the others off. -/
def Flags.initial : Flags :=
  { caseless := false, multiLine := false, dotAll := false, unicode := true, crlf := false,
    swapGreed := false }

/-- Sets or clears one flag. -/
def Flags.put (f : Flags) (g : Flag) (v : Bool) : Flags :=
  match g with
  | .caseInsensitive => { f with caseless := v }
  | .multiLine => { f with multiLine := v }
  | .dotAll => { f with dotAll := v }
  | .unicode => { f with unicode := v }
  | .crlf => { f with crlf := v }
  | .swapGreed => { f with swapGreed := v }
  | .ignoreSpace => f

/-- The flags after a flag list: each flag set, or cleared when it follows the `-`. -/
def Flags.apply (f : Flags) (items : List FlagItem) : Flags :=
  (items.foldl (fun (acc : Flags × Bool) item =>
    match item with
    | .negation => (acc.1, true)
    | .flag g => (acc.1.put g !acc.2, acc.2)) (f, false)).1

/-- A fault found after reading. -/
def refuse {α : Type} (kind : ErrorKind) (span : Span) : Except Error α :=
  .error { kind := kind, span := span, aux := none }

/-- Closes a set under case when the flags ask for it. -/
def Flags.closeCase (f : Flags) (s : CharSet) : CharSet :=
  if f.caseless then s.closeCase f.unicode else s

/-- The test an assertion makes under the flags. -/
def Flags.look (f : Flags) : Assertion → Look
  | .startLine => if f.multiLine then .startLine f.crlf else .startText
  | .endLine => if f.multiLine then .endLine f.crlf else .endText
  | .startText => .startText
  | .endText => .endText
  | .wordBoundary => .boundary f.unicode
  | .notWordBoundary => .notBoundary f.unicode
  | .wordStart => .wordStart f.unicode
  | .wordEnd => .wordEnd f.unicode
  | .wordStartHalf => .wordStartHalf f.unicode
  | .wordEndHalf => .wordEndHalf f.unicode

/-- The set of a Unicode class: refused with Unicode off or for an unknown name, closed under
case, then negated by `\P` or `!=`. -/
def unicodeClass (f : Flags) (span : Span) (q : Query) (negated : Bool) :
    Except Error CharSet := do
  if !f.unicode then refuse .unicodeNotAllowed span
  match q.set with
  | .error .notFound => refuse .propertyNotFound span
  | .error .valueNotFound => refuse .propertyValueNotFound span
  | .ok s =>
    let flip := match q with
      | .value _ _ true => !negated
      | _ => negated
    let s := f.closeCase s
    return if flip then s.compl else s

/-- The set of `\d`, `\s`, `\w` or their negations; with Unicode off a negation is refused. -/
def perlClass (f : Flags) (span : Span) (cls : PerlClass) (negated : Bool) :
    Except Error CharSet := do
  if !f.unicode && negated then refuse .invalidUtf8 span
  let s := cls.set f.unicode
  return if negated then s.compl else s

/-- Closes a bracketed class under case and negates it; with Unicode off a negation is
refused. -/
def bracketClass (f : Flags) (span : Span) (negated : Bool) (s : CharSet) :
    Except Error CharSet := do
  let s := f.closeCase s
  if negated && !f.unicode then refuse .invalidUtf8 span
  return if negated then s.compl else s

/-- A character inside brackets; with Unicode off it has to be ASCII. -/
def classChar (f : Flags) (lit : Literal) : Except Error Char := do
  if f.unicode || lit.c.toNat ≤ 0x7F then return lit.c
  if lit.byte then refuse .invalidUtf8 lit.span
  refuse .unicodeNotAllowed lit.span

/-- The set of the inside of a bracketed class. -/
def classSet (f : Flags) : ClassSet → Except Error CharSet
  | .literal lit => return CharSet.single (← classChar f lit)
  | .range _ lo hi => do
    let a ← classChar f lo
    let b ← classChar f hi
    return CharSet.span a.toNat b.toNat
  | .ascii span cls negated => do
    if negated && !f.unicode then refuse .invalidUtf8 span
    let s := f.closeCase cls.set
    return if negated then s.compl else s
  | .unicode span q negated => unicodeClass f span q negated
  | .perl span cls negated => perlClass f span cls negated
  | .bracketed span negated inner => do bracketClass f span negated (← classSet f inner)
  | .union _ items => return CharSet.unionAll (← classSetAll f items)
  | .op _ kind lhs rhs => do
    let a := f.closeCase (← classSet f lhs)
    let b := f.closeCase (← classSet f rhs)
    return match kind with
      | .intersection => a.inter b
      | .difference => a.diff b
      | .symmetricDifference => a.symmDiff b
where
  classSetAll (f : Flags) : List ClassSet → Except Error (List CharSet)
    | [] => return []
    | s :: rest => return (← classSet f s) :: (← classSetAll f rest)

mutual
/-- The expression of a node under the flags in force, and the flags after it. -/
def translate (f : Flags) : Node → Except Error (Expr × Flags)
  | .empty _ => return (.empty, f)
  | .flags _ items => return (.empty, f.apply items)
  | .literal lit => do
    if !f.unicode && lit.byte && lit.c.toNat > 0x7F then refuse .invalidUtf8 lit.span
    return (Expr.ofSet (f.closeCase (CharSet.single lit.c)), f)
  | .dot span => do
    if !f.unicode then refuse .invalidUtf8 span
    let s : CharSet :=
      if f.dotAll then CharSet.all
      else if f.crlf then (CharSet.ofRanges [(0x0A, 0x0A), (0x0D, 0x0D)]).compl
      else (CharSet.single '\n').compl
    return (Expr.ofSet s, f)
  | .assertion _ kind => return (.look (f.look kind), f)
  | .unicode span q negated => return (Expr.ofSet (← unicodeClass f span q negated), f)
  | .perl span cls negated => return (Expr.ofSet (← perlClass f span cls negated), f)
  | .bracketed span negated inner => do
    return (Expr.ofSet (← bracketClass f span negated (← classSet f inner)), f)
  | .repetition _ lo hi greedy sub => do
    let (e, f') ← translate f sub
    return (Expr.repeat lo hi (greedy != f'.swapGreed) e, f')
  | .group _ kind sub => do
    match kind with
    | .plain items =>
      let (e, _) ← translate (f.apply items) sub
      return (e, f)
    | .capture index name =>
      let (e, _) ← translate f sub
      return (.group index name e, f)
  | .concat _ items => do
    let (es, f') ← translateAll f items
    return (Expr.concat es, f')
  | .alternation _ items => do
    let (es, f') ← translateAll f items
    return (Expr.choice es, f')

/-- The expressions of nodes in a row, the flags flowing from each to the next. -/
def translateAll (f : Flags) : List Node → Except Error (List Expr × Flags)
  | [] => return ([], f)
  | n :: rest => do
    let (e, f) ← translate f n
    let (es, f) ← translateAll f rest
    return (e :: es, f)
end

end Pattern
end GotoTape
