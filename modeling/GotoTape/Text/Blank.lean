/-!
# Blank characters

The characters of the Unicode `White_Space` property, and trimming them from both ends of a
text. Settings values, step counts from the environment and the end-of-input policy are all
read after such a trim, so a no-break space or an ideographic space counts as blank too.
-/

namespace GotoTape
namespace Text

/-- The Unicode `White_Space` property: the ASCII blanks and controls from tab to carriage
return, next line, no-break space, ogham space mark, the spaces from en quad to hair space,
the line and paragraph separators, the narrow no-break space, the medium mathematical space
and the ideographic space. -/
def isBlank (c : Char) : Bool :=
  let n := c.toNat
  (0x09 ≤ n && n ≤ 0x0D) || n == 0x20 || n == 0x85 || n == 0xA0 || n == 0x1680 ||
    (0x2000 ≤ n && n ≤ 0x200A) || n == 0x2028 || n == 0x2029 || n == 0x202F ||
    n == 0x205F || n == 0x3000

/-- Drops the blank characters at both ends of a list of characters. -/
def trimBlankList (cs : List Char) : List Char :=
  ((cs.dropWhile isBlank).reverse.dropWhile isBlank).reverse

/-- Drops the blank characters at both ends of a text. -/
def trimBlank (s : String) : String :=
  String.ofList (trimBlankList s.toList)

/-- Lowers the ASCII capitals and keeps every other character. -/
def asciiLower (s : String) : String :=
  String.ofList (s.toList.map Char.toLower)

theorem isBlank_of_isWhitespace {c : Char} (h : c.isWhitespace = true) : isBlank c = true := by
  simp only [Char.isWhitespace, Bool.or_eq_true, decide_eq_true_eq] at h
  simp only [isBlank, Bool.or_eq_true, Bool.and_eq_true, decide_eq_true_eq, beq_iff_eq]
  rcases h with ((h | h) | h) | h <;> simp [h]

end Text
end GotoTape
