/-!
# UTF-8 text from bytes

Reading bytes as UTF-8 text, strictly (any malformed byte sequence makes the whole reading fail)
or leniently: each maximal malformed part of a sequence becomes one replacement character
`U+FFFD`, following the Unicode rule of substituting maximal subparts. A maximal subpart is a
lead byte followed by the continuation bytes that still fit the ranges of a well-formed sequence.
-/

namespace GotoTape
namespace Text

/-- Reads bytes as UTF-8 text, or `none` when they are not well formed. -/
def decodeUtf8? (bytes : Array UInt8) : Option String :=
  String.fromUTF8? (ByteArray.mk bytes)

/-- The bounds of the second byte and the number of continuation bytes after a lead byte, for
the lead bytes that start a sequence of two to four bytes. -/
def leadShape (b : UInt8) : Option (UInt8 × UInt8 × Nat) :=
  if 0xC2 ≤ b ∧ b ≤ 0xDF then some (0x80, 0xBF, 1)
  else if b = 0xE0 then some (0xA0, 0xBF, 2)
  else if 0xE1 ≤ b ∧ b ≤ 0xEC then some (0x80, 0xBF, 2)
  else if b = 0xED then some (0x80, 0x9F, 2)
  else if 0xEE ≤ b ∧ b ≤ 0xEF then some (0x80, 0xBF, 2)
  else if b = 0xF0 then some (0x90, 0xBF, 3)
  else if 0xF1 ≤ b ∧ b ≤ 0xF3 then some (0x80, 0xBF, 3)
  else if b = 0xF4 then some (0x80, 0x8F, 3)
  else none

/-- How many of the bytes after a lead byte continue its sequence: the first must lie in
`[lo, hi]`, the others in `[0x80, 0xBF]`, and at most `need` are taken. -/
def continuationRun (lo hi : UInt8) (need : Nat) (rest : List UInt8) : Nat :=
  match need, rest with
  | 0, _ => 0
  | _, [] => 0
  | n + 1, b :: bs => if lo ≤ b ∧ b ≤ hi then continuationRun 0x80 0xBF n bs + 1 else 0

/-- The replacement character. -/
def replacementChar : Char := '�'

/-- Reads bytes as UTF-8, replacing each maximal malformed part by `U+FFFD`; `acc` holds the
characters read so far, the latest first. -/
def decodeLossyFrom (acc : List Char) : List UInt8 → List Char
  | [] => acc.reverse
  | b :: rest =>
    if b < 0x80 then decodeLossyFrom (Char.ofNat b.toNat :: acc) rest
    else
      match leadShape b with
      | none => decodeLossyFrom (replacementChar :: acc) rest
      | some (lo, hi, need) =>
        let k := continuationRun lo hi need rest
        if k = need then
          let seq := b :: rest.take k
          let c := (String.fromUTF8? (ByteArray.mk seq.toArray)).bind (fun s => s.toList.head?)
          decodeLossyFrom (c.getD replacementChar :: acc) (rest.drop k)
        else decodeLossyFrom (replacementChar :: acc) (rest.drop k)
termination_by bs => bs.length
decreasing_by all_goals simp only [List.length_drop, List.length_cons]; omega

/-- Reads bytes as UTF-8, replacing each maximal malformed part by `U+FFFD`. -/
def decodeLossy (bytes : Array UInt8) : String :=
  String.ofList (decodeLossyFrom [] bytes.toList)

end Text
end GotoTape
