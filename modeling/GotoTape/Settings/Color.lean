import GotoTape.Text.Blank
import GotoTape.Text.Count
/-!
# Colors

The colors of the highlighter: a 24-bit color written `#rrggbb`, or one of the sixteen terminal
colors by name. Names ignore ASCII case and blanks around them and have a few spellings each
(`grey` and `dark_gray` are the dark gray, `magenta` is purple). In `#rrggbb` each pair of
characters is read as a hexadecimal count up to 255, which lets a `+` stand before a single
digit.
-/

namespace GotoTape
namespace Settings

/-- A highlighter color. -/
inductive Color where
  | rgb (r g b : UInt8)
  | black
  | red
  | green
  | yellow
  | blue
  | purple
  | cyan
  | white
  | darkGray
  | lightRed
  | lightGreen
  | lightBlue
  | lightPurple
  | lightCyan
  | lightGray
  deriving DecidableEq, Repr

namespace Color

/-- The color a name stands for. -/
def ofName : String → Option Color
  | "black" => some .black
  | "red" => some .red
  | "green" => some .green
  | "yellow" => some .yellow
  | "blue" => some .blue
  | "purple" | "magenta" => some .purple
  | "cyan" => some .cyan
  | "white" => some .white
  | "gray" | "grey" | "darkgray" | "dark_gray" | "darkgrey" | "dark_grey" => some .darkGray
  | "lightred" | "light_red" => some .lightRed
  | "lightgreen" | "light_green" => some .lightGreen
  | "lightblue" | "light_blue" => some .lightBlue
  | "lightpurple" | "light_purple" | "lightmagenta" | "light_magenta" => some .lightPurple
  | "lightcyan" | "light_cyan" => some .lightCyan
  | "lightgray" | "light_gray" | "lightgrey" | "light_grey" => some .lightGray
  | _ => none

/-- A channel of a 24-bit color from two characters. -/
def channel (cs : List Char) : Option UInt8 :=
  match Text.readCount 16 255 (String.ofList cs) with
  | .ok n => some n.toUInt8
  | .error _ => none

/-- Reads a color: `#` and six ASCII characters in three hexadecimal pairs, or a name. -/
def parse (value : String) : Option Color :=
  match Text.trimBlankList value.toList with
  | '#' :: hex =>
    if hex.length = 6 ∧ hex.all (fun c => c.toNat < 128) then
      match channel (hex.take 2), channel ((hex.drop 2).take 2), channel (hex.drop 4) with
      | some r, some g, some b => some (.rgb r g b)
      | _, _, _ => none
    else none
  | cs => ofName (Text.asciiLower (String.ofList cs))

/-- Two lower-case hexadecimal digits of a byte. -/
def hexByte (b : UInt8) : String :=
  let digits := Nat.toDigits 16 b.toNat
  String.ofList (if digits.length < 2 then '0' :: digits else digits)

/-- The name a color is shown by: `#rrggbb` in lower case, or its terminal name. -/
def name : Color → String
  | .rgb r g b => "#" ++ hexByte r ++ hexByte g ++ hexByte b
  | .black => "Black"
  | .red => "Red"
  | .green => "Green"
  | .yellow => "Yellow"
  | .blue => "Blue"
  | .purple => "Purple"
  | .cyan => "Cyan"
  | .white => "White"
  | .darkGray => "DarkGray"
  | .lightRed => "LightRed"
  | .lightGreen => "LightGreen"
  | .lightBlue => "LightBlue"
  | .lightPurple => "LightPurple"
  | .lightCyan => "LightCyan"
  | .lightGray => "LightGray"

end Color
end Settings
end GotoTape
