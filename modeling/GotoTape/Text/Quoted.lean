import GotoTape.Text.Printable
/-!
# Quoted text

A text written between double quotes with its special characters escaped, as warnings about the
settings file show a rejected value: a backslash, a quote, tab, carriage return, line feed and
NUL get a backslash form, and the other unprintable characters and the marks that extend the
character before them are written as `\u` with their hexadecimal code in braces.
-/

namespace GotoTape
namespace Text

/-- Lower-case hexadecimal digits of a number, without leading zeros. -/
def hexDigits (n : Nat) : String :=
  String.ofList (Nat.toDigits 16 n)

/-- Characters that are written by their code: those that are not printable, and those that
would join the character before them. -/
def isEscapedByCode (c : Char) : Bool :=
  isGraphemeExtend c || !isPrintable c

/-- The written form of one character inside quotes. -/
def escapeChar (c : Char) : String :=
  match c with
  | '\\' => "\\\\"
  | '"' => "\\\""
  | '\t' => "\\t"
  | '\r' => "\\r"
  | '\n' => "\\n"
  | '\x00' => "\\0"
  | _ =>
    if isEscapedByCode c then
      let code := hexDigits c.toNat
      "\\u\x7b" ++ code ++ "\x7d"
    else c.toString

/-- A text between double quotes with its special characters escaped. -/
def quote (s : String) : String :=
  "\"" ++ String.join (s.toList.map escapeChar) ++ "\""

end Text
end GotoTape
