/-!
# Lexemes

The program text read as a sequence of lexemes. `#` toggles comments; inside a comment the text
up to the next `#` is one lexeme. Outside, the eight operators stand alone, `^` and `v` take the
next character, whatever it is, as their label, and every other character is inert. A marker at
the very end has no label.

Main statement: `lex` tiles the text: every character belongs to exactly one lexeme, in order.
-/

namespace GotoTape

/-- The marker that toggles comments. -/
def commentMark : Char := '#'

/-- The marker that defines the label after it. -/
def labelMark : Char := '^'

/-- The marker that jumps to the label after it. -/
def jumpMark : Char := 'v'

/-- The eight characters that act on the tape, the channels or the loops. -/
def isOperator (c : Char) : Bool :=
  c == '>' || c == '<' || c == '+' || c == '-' || c == '.' || c == ',' || c == '[' || c == ']'

/-- What a lexeme is. -/
inductive LexemeKind where
  /-- One of the eight operators. -/
  | op (c : Char)
  /-- A label definition, with its label unless the marker ends the text. -/
  | labelDef (label : Option Char)
  /-- A jump, with its label unless the marker ends the text. -/
  | jump (label : Option Char)
  /-- A `#` that opens or closes a comment. -/
  | commentDelimiter
  /-- The text of a comment between two delimiters. -/
  | comment
  /-- A character that does nothing. -/
  | inert (c : Char)
  deriving DecidableEq, Repr

/-- A lexeme: its kind, the position of its first character and how many characters it covers. -/
structure Lexeme where
  start : Nat
  len : Nat
  kind : LexemeKind
  deriving DecidableEq, Repr

namespace Lexeme

/-- Lexemes of `cs`, whose first character stands at `pos`, after those already in `acc` (newest
first); `inComment` says whether a comment is open at `pos`. -/
def scan (pos : Nat) (inComment : Bool) (acc : List Lexeme) : List Char → List Lexeme
  | [] => acc.reverse
  | c :: rest =>
    if c = commentMark then
      scan (pos + 1) (!inComment) (⟨pos, 1, .commentDelimiter⟩ :: acc) rest
    else if inComment then
      let body := rest.takeWhile (· != commentMark)
      scan (pos + body.length + 1) true (⟨pos, body.length + 1, .comment⟩ :: acc)
        (rest.dropWhile (· != commentMark))
    else if c = labelMark then
      match rest with
      | [] => (⟨pos, 1, .labelDef none⟩ :: acc).reverse
      | l :: more => scan (pos + 2) false (⟨pos, 2, .labelDef (some l)⟩ :: acc) more
    else if c = jumpMark then
      match rest with
      | [] => (⟨pos, 1, .jump none⟩ :: acc).reverse
      | l :: more => scan (pos + 2) false (⟨pos, 2, .jump (some l)⟩ :: acc) more
    else if isOperator c then
      scan (pos + 1) false (⟨pos, 1, .op c⟩ :: acc) rest
    else
      scan (pos + 1) false (⟨pos, 1, .inert c⟩ :: acc) rest
termination_by cs => cs.length
decreasing_by
  all_goals simp only [List.length_cons]
  all_goals first
    | omega
    | (have hd := (@List.dropWhile_suffix _ rest (fun x => x != commentMark)).length_le; omega)

end Lexeme

/-- The lexemes of a program text, from its first character on. -/
def lex (cs : List Char) : List Lexeme := Lexeme.scan 0 false [] cs

end GotoTape
