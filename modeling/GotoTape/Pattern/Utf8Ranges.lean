/-!
# Code point ranges as byte ranges

An automaton that reads UTF-8 bytes matches a range of code points by sequences of byte ranges:
a sequence matches the encodings whose first byte lies in its first range, whose second byte lies
in its second, and so on. A range of code points is cut until each piece is covered by exactly
one such sequence:

* at the surrogates, which have no encoding;
* where the encoding gets longer, after `0x7F`, `0x7FF` and `0xFFFF`;
* at the edges of the blocks of `64`, `64²` and `64³` code points that share all leading bytes
  but the last one, two or three, starting with the smallest block.

A piece that then starts and ends inside one block in every position is the sequence of the
ranges between the bytes of its first and its last code point. The sequences come out in the
order of the code points they cover.
-/

namespace GotoTape
namespace Pattern

/-- The UTF-8 encoding of a code point, as byte values. -/
def utf8Encode (n : Nat) : List Nat :=
  if n < 0x80 then [n]
  else if n < 0x800 then [0xC0 + n / 64, 0x80 + n % 64]
  else if n < 0x10000 then [0xE0 + n / 4096, 0x80 + n / 64 % 64, 0x80 + n % 64]
  else [0xF0 + n / 262144, 0x80 + n / 4096 % 64, 0x80 + n / 64 % 64, 0x80 + n % 64]

/-- Where a range that crosses a block edge is cut: the last code point of the first piece.
The blocks of `64`, `64²` and `64³` code points are tried in turn; a range is cut at the first
block edge it crosses whose start or end it does not fill. -/
def blockCut (lo hi : Nat) : Option Nat :=
  [64, 4096, 262144].findSome? fun w =>
    if lo / w == hi / w then none
    else if lo % w != 0 then some (lo - lo % w + w - 1)
    else if hi % w != w - 1 then some (hi - hi % w - 1)
    else none

/-- The sequences of byte ranges that cover the code points from `lo` to `hi`, given enough
`fuel` for the cuts; a dozen levels are the most any range needs. -/
def byteSequencesWith : Nat → Nat → Nat → List (List (Nat × Nat))
  | 0, _, _ => []
  | fuel + 1, lo, hi =>
    if hi < lo then []
    else if lo < 0xE000 && 0xD7FF < hi then
      byteSequencesWith fuel lo 0xD7FF ++ byteSequencesWith fuel 0xE000 hi
    else
      match [0x7F, 0x7FF, 0xFFFF].find? (fun m => lo ≤ m && m < hi) with
      | some m => byteSequencesWith fuel lo m ++ byteSequencesWith fuel (m + 1) hi
      | none =>
        if hi ≤ 0x7F then [[(lo, hi)]]
        else
          match blockCut lo hi with
          | some cut => byteSequencesWith fuel lo cut ++ byteSequencesWith fuel (cut + 1) hi
          | none => [(utf8Encode lo).zip (utf8Encode hi)]

/-- The sequences of byte ranges that cover the code points from `lo` to `hi`. -/
def byteSequences (lo hi : Nat) : List (List (Nat × Nat)) := byteSequencesWith 32 lo hi

/-- The sequences of byte ranges that cover a list of code point ranges, range by range. -/
def byteSequencesOf (ranges : List (Nat × Nat)) : List (List (Nat × Nat)) :=
  ranges.flatMap fun (lo, hi) => byteSequences lo hi

theorem utf8Encode_ascii {n : Nat} (h : n < 0x80) : utf8Encode n = [n] := by
  simp [utf8Encode, h]

end Pattern
end GotoTape
