/-!
# Log records

What the library says while it works, beside its results: a record has a severity, the part of
the program it comes from and a sentence. Records are plain values returned with the results;
which of them are shown, and how, is decided where they are printed.
-/

namespace GotoTape

/-- Severity of a record, from the most to the least urgent. -/
inductive Level where
  | error
  | warn
  | info
  | debug
  | trace
  deriving DecidableEq, Repr

namespace Level

/-- The upper-case name of a level. -/
def name : Level → String
  | .error => "ERROR"
  | .warn => "WARN"
  | .info => "INFO"
  | .debug => "DEBUG"
  | .trace => "TRACE"

/-- Levels numbered by growing detail, from one for errors to five for tracing. -/
def rank : Level → Nat
  | .error => 1
  | .warn => 2
  | .info => 3
  | .debug => 4
  | .trace => 5

end Level

/-- One record: its level, the name of the part that speaks, and the sentence. -/
structure Record where
  level : Level
  target : String
  message : String
  deriving DecidableEq, Repr

end GotoTape
