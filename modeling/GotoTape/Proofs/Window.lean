import GotoTape.Diagnostic
/-!
# The window under a diagnostic

`Diagnostic.window code pos` shows the characters of `code` from `s = pos - 32` (cut at zero) up
to `pos + 33` or the end of the text, each line feed and tab as a space, and a caret line of
`pos - s` spaces and a caret. Positions count characters, so the caret stands under the character
at `pos` also in text with characters of several bytes.

Main statement: `window_slice_caret`.
-/

namespace GotoTape
namespace Diagnostic

/-- The caret line is `pos - s` spaces and a caret. -/
theorem caret_window (code : List Char) (pos : Nat) :
    (window code pos).2.toList = List.replicate (pos - (pos - 32)) ' ' ++ ['^'] := by
  simp [window, reach]

/-- The slice is the text from `pos - 32` up to `pos + 33`, cut at both ends of the text. -/
theorem slice_window (code : List Char) (pos : Nat) :
    (window code pos).1.toList = ((code.take (pos + 33)).drop (pos - 32)).map shown := by
  have hlen : pos - (pos - 32) + 32 + 1 = pos + 33 - (pos - 32) := by omega
  simp only [window, reach, String.toList_ofList, List.drop_take, hlen]

/-- The character of the slice in the caret's column is the character at `pos`, shown; past the
end of the text both are absent. -/
theorem getElem?_slice_window (code : List Char) (pos : Nat) :
    (window code pos).1.toList[pos - (pos - 32)]? = code[pos]?.map shown := by
  have hpos : pos - 32 + (pos - (pos - 32)) = pos := by omega
  rw [slice_window, List.getElem?_map, List.getElem?_drop, hpos, List.getElem?_take_of_lt (by omega)]

/-- The window of `code` at `pos`: a caret line of `pos - s` spaces and a caret, where
`s = pos - 32` cut at zero; a slice of the characters from `s` up to `pos + 33` or the end, each
shown with line feeds and tabs as spaces; and in the caret's column the character at `pos`. -/
theorem window_slice_caret (code : List Char) (pos : Nat) :
    (window code pos).2.toList = List.replicate (pos - (pos - 32)) ' ' ++ ['^'] ∧
    (window code pos).1.toList = ((code.take (pos + 33)).drop (pos - 32)).map shown ∧
    (window code pos).1.toList[pos - (pos - 32)]? = code[pos]?.map shown :=
  ⟨caret_window code pos, slice_window code pos, getElem?_slice_window code pos⟩

end Diagnostic
end GotoTape
