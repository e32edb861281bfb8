/-!
# Counts written in digits

Reading a non-negative whole number bounded by a machine word: step limits, capacities from the
settings file and the channels of a color are all read this way. A `+` may stand in front, a `-`
never; the digits are read from the left, and the first character that is no digit, or the first
digit that would carry the number past the bound, decides the failure.
-/

namespace GotoTape
namespace Text

/-- Why a text is not a count. -/
inductive CountError where
  /-- The text has no characters at all. -/
  | empty
  /-- Some character is not a digit of the base (a lone sign counts as one). -/
  | invalidDigit
  /-- The number exceeds the bound. -/
  | tooLarge
  deriving DecidableEq, Repr

/-- The sentence each failure is reported with. -/
def CountError.message : CountError → String
  | .empty => "cannot parse integer from empty string"
  | .invalidDigit => "invalid digit found in string"
  | .tooLarge => "number too large to fit in target type"

/-- The largest count a 64-bit word holds, `2 ^ 64 - 1`. -/
def wordMax : Nat := UInt64.size - 1

/-- The value of an ASCII digit in a base of at most sixteen; letters in either case stand for
ten and up. -/
def digitValue (base : Nat) (c : Char) : Option Nat :=
  let n := c.toNat
  let v :=
    if '0'.toNat ≤ n ∧ n ≤ '9'.toNat then some (n - '0'.toNat)
    else if 'a'.toNat ≤ n ∧ n ≤ 'f'.toNat then some (n - 'a'.toNat + 10)
    else if 'A'.toNat ≤ n ∧ n ≤ 'F'.toNat then some (n - 'A'.toNat + 10)
    else none
  match v with
  | some d => if d < base then some d else none
  | none => none

/-- Reads digits onto `acc` from the left, failing at the first non-digit or at the first digit
that would carry the number past `bound`. -/
def readDigits (base bound : Nat) (acc : Nat) : List Char → Except CountError Nat
  | [] => .ok acc
  | c :: rest =>
    match digitValue base c with
    | none => .error .invalidDigit
    | some d =>
      if bound < acc * base + d then .error .tooLarge
      else readDigits base bound (acc * base + d) rest

/-- Reads a count in `base` no larger than `bound`, with an optional leading `+`. -/
def readCount (base bound : Nat) (s : String) : Except CountError Nat :=
  match s.toList with
  | [] => .error .empty
  | ['+'] => .error .invalidDigit
  | '+' :: rest => readDigits base bound 0 rest
  | cs => readDigits base bound 0 cs

/-- Reads a decimal count that fits a 64-bit word. -/
def readWord (s : String) : Except CountError Nat :=
  readCount 10 wordMax s

/-- A count that is read never exceeds its bound. -/
theorem readDigits_le {base bound acc : Nat} {cs : List Char} {n : Nat}
    (hacc : acc ≤ bound) (h : readDigits base bound acc cs = .ok n) : n ≤ bound := by
  induction cs generalizing acc with
  | nil => simp only [readDigits, Except.ok.injEq] at h; omega
  | cons c rest ih =>
    simp only [readDigits] at h
    split at h
    · cases h
    · split at h
      · cases h
      · exact ih (by omega) h

end Text
end GotoTape
