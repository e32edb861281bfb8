import GotoTape.Pattern.Compile
import GotoTape.Pattern.Match
import GotoTape.Pattern.Footprint
/-!
# Patterns

Compiling a pattern reads it and turns it into an expression; a refused pattern gives the report
that points at the fault, and one whose automata would take more memory than `sizeLimit` is
refused as too big. A compiled pattern tells whether it matches anywhere in a text.
-/

namespace GotoTape
namespace Pattern

/-- A compiled pattern. -/
structure Matcher where
  source : String
  expr : Expr

/-- The most memory the automata of a pattern may take, in bytes; the report of a larger one
names it. -/
def sizeLimit : Nat := 10485760

/-- Compiles a pattern, or gives the report of why it is refused. -/
def compile (source : String) : Except String Matcher :=
  match parse source with
  | .error e => .error (e.render source)
  | .ok node =>
    match translate Flags.initial node with
    | .error e => .error (e.render source)
    | .ok (expr, _) =>
      if !fitsWithin sizeLimit expr then
        .error s!"Compiled regex exceeds size limit of {sizeLimit} bytes."
      else .ok { source := source, expr := expr }

/-- Whether a compiled pattern matches somewhere in a text. -/
def Matcher.matches (m : Matcher) (text : String) : Bool := m.expr.matchesIn text

end Pattern
end GotoTape
