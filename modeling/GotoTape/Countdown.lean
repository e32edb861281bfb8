import GotoTape.Interpreter
import GotoTape.Text.Utf8
/-!
# A countdown

An example program that prints the digits from 9 down to 1. Cell 0 counts and cell 1 holds the
digit; a label marks the top of the loop, and the loop repeats by jumping back to it while the
counter is non-zero, not by its closing bracket.
-/

namespace GotoTape
namespace Countdown

/-- The program text, laid out over six lines with comments. -/
def code : String :=
  "\n        # counter and digit #\n" ++
  "        +++++++++ > ++++++++++++++++++++++++++++++++++++++++++++++++ +++++++++ <\n" ++
  "        ^l\n" ++
  "        > . - <          # print digit then step it down #\n" ++
  "        -                # one fewer to go #\n" ++
  "        [ vl ]           # jump back to l while the counter is non-zero #\n" ++
  "    "

/-- What running the example prints: its exit status, standard output and standard error. The
output is read as UTF-8, malformed parts replaced, and ended by a line feed. -/
def transcript : Nat × String × String :=
  match (Interpreter.new code).run with
  | (.finished, it) => (0, Text.decodeLossy it.output.bytes ++ "\n", "")
  | (.fault f, _) =>
    let m := f.message
    (1, "", s!"interpreter error: {m}\n")
  | (.outOfFuel, _) => (1, "", "")

end Countdown
end GotoTape
