import Mathlib.Data.List.Basic
import Mathlib.Data.List.Induction
import GotoTape.Settings
/-!
# What a settings file sets

`Settings.parse` folds the lines of a file into sections, newest setting first. Here the same
reading is said line by line, without the fold. A file is a list of lines, each trimmed. A line
that starts with `[` and ends with `]` is a header: it opens the section named between the two.
A line that is neither a header nor a comment, and has an `=`, is a setting. Its key is the text
before the first `=` and its value the text after it, both trimmed, and the value loses one pair
of double quotes. A line lies in the section of the nearest header above it, so repeated headers
of one section merge, and the lines above the first header lie in none. A key of section
`interpreter` takes the value of its last setting there, whether or not that value is valid.

A count is an optional `+` and decimal digits, once underscores are deleted, with a value from 1
to `2 ^ 64 - 1`. The reader stops at the first digit that carries the number past the bound.
That is the same as refusing the whole number when it exceeds the bound, because a number read
so far is never larger than the whole (`readDigits_eq_ok_iff`).

Main statement: `settings_from_last_lines`.
-/

namespace GotoTape

namespace Text

/-- The number `n` followed by the decimal digit `c`. -/
def shiftDigit (n : Nat) (c : Char) : Nat := n * 10 + (c.toNat - '0'.toNat)

/-- The value of decimal digits, the most significant first. -/
def decimalValue (ds : List Char) : Nat := ds.foldl shiftDigit 0

theorem isDigit_iff (c : Char) :
    c.isDigit = true ↔ '0'.toNat ≤ c.toNat ∧ c.toNat ≤ '9'.toNat := by
  simp only [Char.isDigit, Bool.and_eq_true, decide_eq_true_eq, UInt32.le_iff_toNat_le]
  rfl

theorem digitValue_ten (c : Char) :
    digitValue 10 c = if c.isDigit then some (c.toNat - '0'.toNat) else none := by
  unfold digitValue
  by_cases h : '0'.toNat ≤ c.toNat ∧ c.toNat ≤ '9'.toNat
  · have hv : c.toNat - '0'.toNat < 10 := by
      obtain ⟨-, h9⟩ := h
      simp only [Char.reduceToNat] at h9 ⊢
      omega
    simp only [h, and_self, if_true, hv, (isDigit_iff c).2 h]
  · -- a letter has a value of ten or more, which is no digit of base ten
    have hn : c.isDigit = false := by rw [← Bool.not_eq_true, isDigit_iff]; exact h
    simp only [h, if_false, hn, Bool.false_eq_true]
    split_ifs <;> simp_all

theorem le_foldl_shiftDigit (acc : Nat) (ds : List Char) : acc ≤ ds.foldl shiftDigit acc := by
  induction ds generalizing acc with
  | nil => exact Nat.le_refl acc
  | cons c ds ih =>
    calc acc ≤ shiftDigit acc c := by unfold shiftDigit; omega
      _ ≤ ds.foldl shiftDigit (shiftDigit acc c) := ih _

/-- Reading decimal digits onto `acc` succeeds exactly when every character is a digit and the
whole number stays within the bound. -/
theorem readDigits_eq_ok_iff {bound acc n : Nat} {ds : List Char} (hacc : acc ≤ bound) :
    readDigits 10 bound acc ds = .ok n ↔
      ds.all Char.isDigit ∧ ds.foldl shiftDigit acc ≤ bound ∧
        n = ds.foldl shiftDigit acc := by
  induction ds generalizing acc with
  | nil => simp [readDigits, hacc, eq_comm]
  | cons c ds ih =>
    simp only [readDigits, digitValue_ten, List.all_cons, Bool.and_eq_true, List.foldl_cons]
    by_cases hc : c.isDigit
    · simp only [hc, if_true, true_and]
      by_cases hb : bound < acc * 10 + (c.toNat - '0'.toNat)
      · -- the digit carries past the bound, and so does every number that goes on from it
        have hge := le_foldl_shiftDigit (shiftDigit acc c) ds
        have hstep : shiftDigit acc c = acc * 10 + (c.toNat - '0'.toNat) := rfl
        simp only [hb, if_true, reduceCtorEq, false_iff, not_and]
        intro _ hle
        omega
      · simp only [hb, if_false]
        exact ih (by omega)
    · simp [hc]

/-- The digits of a numeral: what follows its `+`, if it starts with one. -/
def unsigned (cs : List Char) : List Char :=
  if cs.head? = some '+' then cs.tail else cs

theorem readWord_eq_ok_iff {cs : List Char} {n : Nat} :
    readWord (String.ofList cs) = .ok n ↔
      unsigned cs ≠ [] ∧ (unsigned cs).all Char.isDigit ∧
        decimalValue (unsigned cs) ≤ UInt64.size - 1 ∧ n = decimalValue (unsigned cs) := by
  have hmax : wordMax = UInt64.size - 1 := rfl
  unfold readWord readCount unsigned
  rw [String.toList_ofList]
  split
  · simp
  · simp
  · rename_i rest hrest
    have hne : rest ≠ [] := fun h => hrest (h ▸ rfl)
    rw [readDigits_eq_ok_iff (Nat.zero_le _), hmax, decimalValue]
    simp [hne]
  · rename_i hnil _ hplus
    have hne : cs ≠ [] := hnil
    have hhead : cs.head? ≠ some '+' := by
      intro h
      cases cs with
      | nil => cases h
      | cons c rest =>
        rw [List.head?_cons, Option.some.injEq] at h
        exact hplus rest (h ▸ rfl)
    rw [readDigits_eq_ok_iff (Nat.zero_le _), hmax, decimalValue]
    simp [hhead, hne]

end Text

namespace Settings

/-- The count a settings value stands for: once its underscores are deleted, an optional `+`
and at least one decimal digit, for a value from 1 to `UInt64.size - 1` (`2 ^ 64 - 1`). -/
def decimalCount? (raw : String) : Option Nat :=
  let ds := Text.unsigned (raw.toList.filter (· != '_'))
  if ds ≠ [] ∧ ds.all Char.isDigit ∧ 0 < Text.decimalValue ds ∧
      Text.decimalValue ds ≤ UInt64.size - 1 then
    some (Text.decimalValue ds)
  else none

/-- A settings value is read as a count exactly as `decimalCount?` says. -/
theorem count?_eq_decimalCount? (raw : String) : count? raw = decimalCount? raw := by
  unfold count? decimalCount?
  dsimp only
  split
  · rename_i n hn
    obtain ⟨hne, hdig, hle, rfl⟩ := Text.readWord_eq_ok_iff.1 hn
    by_cases hpos : 0 < Text.decimalValue (Text.unsigned (raw.toList.filter (· != '_')))
    · rw [if_pos hpos, if_pos ⟨hne, hdig, hpos, hle⟩]
    · rw [if_neg hpos, if_neg (fun h => hpos h.2.2.1)]
  · rename_i f hf
    rw [if_neg]
    rintro ⟨hne, hdig, -, hle⟩
    have hok := Text.readWord_eq_ok_iff.2 ⟨hne, hdig, hle, rfl⟩
    rw [hf] at hok
    cases hok

theorem decimalCount?_pos {raw : String} {n : Nat} (h : decimalCount? raw = some n) : 0 < n := by
  unfold decimalCount? at h
  dsimp only at h
  split at h
  · rename_i hc
    cases h
    exact hc.2.2.1
  · cases h

namespace Sections

/-- The lines of a settings file, each without blanks at its ends. -/
def lines (content : String) : List (List Char) :=
  (content.toList.splitOn '\n').map Text.trimBlankList

/-- The section a line opens: one that starts with `[` and ends with `]` names the section
written between the two, trimmed. -/
def header? (line : List Char) : Option String :=
  if line.head? = some '[' ∧ line.getLast? = some ']' then
    some (String.ofList (Text.trimBlankList line.tail.dropLast))
  else none

/-- A value without one pair of double quotes around it. -/
def withoutQuotes (v : List Char) : List Char :=
  if 2 ≤ v.length ∧ v.head? = some '"' ∧ v.getLast? = some '"' then v.tail.dropLast else v

/-- The key and value a line sets: the text before its first `=` and the text after it, both
trimmed, the value without its quotes. Comment lines and headers set nothing. -/
def setting? (line : List Char) : Option (String × String) :=
  if line.head? = some '#' ∨ (header? line).isSome then none
  else
    match line.dropWhile (· != '=') with
    | [] => none
    | _ :: after =>
      some (String.ofList (Text.trimBlankList (line.takeWhile (· != '='))),
        String.ofList (withoutQuotes (Text.trimBlankList after)))

/-- The section line `i` lies in: the one opened by the nearest header above it. -/
def sectionAt (L : List (List Char)) (i : Nat) : Option String :=
  ((L.take i).filterMap header?).getLast?

/-- What a line sets in section `sec`, with the section's name; nothing outside every section. -/
def entry (sec : Option String) (line : List Char) : Option (String × String × String) :=
  sec.bind fun name => (setting? line).map (Prod.mk name)

/-- Every setting of the lines, in order, with the section it lies in. -/
def settingsOf (L : List (List Char)) : List (String × String × String) :=
  (List.range L.length).filterMap fun i => L[i]?.bind (entry (sectionAt L i))

/-- The value of the last setting of `key` in a section `name` of a file. -/
def lastValue (content name key : String) : Option String :=
  (((settingsOf (lines content)).filter fun e => e.1 == name && e.2.1 == key).getLast?).map
    (·.2.2)

theorem unquote_eq_withoutQuotes (v : List Char) : unquote v = withoutQuotes v := by
  unfold unquote withoutQuotes
  split
  · simp [List.getLast?_cons]
  · rename_i hv
    rw [if_neg]
    rintro ⟨hlen, hhead, -⟩
    match v, hlen, hhead with
    | c :: d :: rest, _, hhead =>
      rw [List.head?_cons, Option.some.injEq] at hhead
      exact hv d rest (hhead ▸ rfl)

/-- The text before the first `a` of a list and the text after it, as `idxOf?` finds them. -/
theorem takeWhile_dropWhile_of_idxOf? {a : Char} :
    ∀ {l : List Char} {i : Nat}, l.idxOf? a = some i →
      l.takeWhile (· != a) = l.take i ∧ l.dropWhile (· != a) = a :: l.drop (i + 1)
  | [], _, h => by simp at h
  | c :: l, i, h => by
    rw [List.idxOf?_cons] at h
    by_cases hc : c = a
    · subst hc
      simp only [beq_self_eq_true, if_true, Option.some.injEq] at h
      subst h
      simp
    · have hca : (c == a) = false := by simpa using hc
      simp only [hca, Bool.false_eq_true, if_false, Option.map_eq_some_iff] at h
      obtain ⟨j, hj, rfl⟩ := h
      obtain ⟨ht, hd⟩ := takeWhile_dropWhile_of_idxOf? hj
      simp [hc, ht, hd]

theorem dropWhile_of_idxOf?_none {a : Char} :
    ∀ {l : List Char}, l.idxOf? a = none → l.dropWhile (· != a) = []
  | [], _ => rfl
  | c :: l, h => by
    rw [List.idxOf?_cons] at h
    by_cases hc : c = a
    · simp [hc] at h
    · have hca : (c == a) = false := by simpa using hc
      simp only [hca, Bool.false_eq_true, if_false, Option.map_eq_none_iff] at h
      simp [hc, dropWhile_of_idxOf?_none h]

theorem header?_open (inner : List Char) :
    header? ('[' :: inner) =
      if inner.getLast? = some ']' then some (String.ofList (Text.trimBlankList inner.dropLast))
      else none := by
  cases inner with
  | nil => simp [header?]
  | cons c rest => simp [header?, List.getLast?_cons]

theorem header?_of_head {line : List Char} (h : line.head? ≠ some '[') : header? line = none := by
  simp [header?, h]

theorem setting?_of_header {line : List Char} (h : (header? line).isSome) :
    setting? line = none := by
  simp [setting?, h]

theorem setting?_comment (rest : List Char) : setting? ('#' :: rest) = none := by
  simp [setting?]

theorem setting?_of_idxOf?_none {line : List Char} (h : line.idxOf? '=' = none) :
    setting? line = none := by
  simp [setting?, dropWhile_of_idxOf?_none h]

theorem setting?_of_idxOf? {line : List Char} {i : Nat} (hc : line.head? ≠ some '#')
    (hh : header? line = none) (h : line.idxOf? '=' = some i) :
    setting? line = some (String.ofList (Text.trimBlankList (line.take i)),
      String.ofList (unquote (Text.trimBlankList (line.drop (i + 1))))) := by
  obtain ⟨ht, hd⟩ := takeWhile_dropWhile_of_idxOf? h
  simp [setting?, hc, hh, ht, hd, unquote_eq_withoutQuotes]

theorem entry_of_setting?_none {line : List Char} (cur : Option String)
    (h : setting? line = none) : entry cur line = none := by
  simp [entry, h]

/-- A line that opens no section sets its key in the open section, if there is one. -/
theorem setting_eq (cur : Option String) (s : Sections) {line : List Char}
    (hc : line.head? ≠ some '#') (hh : header? line = none) :
    absorbLine.setting cur s line = (cur, ⟨(entry cur line).toList ++ s.entries⟩) := by
  unfold absorbLine.setting
  split
  · rfl
  · split
    · rename_i hi
      simp [entry_of_setting?_none _ (setting?_of_idxOf?_none hi)]
    · rename_i i hi
      simp [entry, setting?_of_idxOf? hc hh hi]

/-- What one line does: a header opens its section, and a setting in an open section is added
as the newest. -/
theorem absorbLine_eq (cur : Option String) (s : Sections) (line : List Char) :
    absorbLine (cur, s) line =
      ((header? line).or cur, ⟨(entry cur line).toList ++ s.entries⟩) := by
  dsimp only [absorbLine]
  split
  · have hi : ([] : List Char).idxOf? '=' = none := rfl
    simp [header?, entry_of_setting?_none _ (setting?_of_idxOf?_none hi)]
  · rename_i rest
    have hh : header? ('#' :: rest) = none := header?_of_head (by simp)
    simp [hh, entry_of_setting?_none _ (setting?_comment rest)]
  · rename_i inner
    split
    · rename_i hlast
      have hh : header? ('[' :: inner) =
          some (String.ofList (Text.trimBlankList inner.dropLast)) := by
        rw [header?_open, if_pos hlast]
      have hs : (header? ('[' :: inner)).isSome := by rw [hh]; rfl
      simp [hh, entry_of_setting?_none _ (setting?_of_header hs)]
    · rename_i hlast
      have hh : header? ('[' :: inner) = none := by rw [header?_open, if_neg hlast]
      rw [setting_eq cur s (by simp) hh, hh, Option.none_or]
  · rename_i hnil hcomment hopen
    have hc : line.head? ≠ some '#' := by
      cases line with
      | nil => simp
      | cons c rest =>
        rw [List.head?_cons, ne_eq, Option.some.injEq]
        rintro rfl
        exact hcomment rest rfl
    have hh : header? line = none := by
      apply header?_of_head
      cases line with
      | nil => simp
      | cons c rest =>
        rw [List.head?_cons, ne_eq, Option.some.injEq]
        rintro rfl
        exact hopen rest rfl
    rw [setting_eq cur s hc hh, hh, Option.none_or]

theorem sectionAt_append_of_le {P Q : List (List Char)} {i : Nat} (h : i ≤ P.length) :
    sectionAt (P ++ Q) i = sectionAt P i := by
  rw [sectionAt, sectionAt, List.take_append_of_le_length h]

theorem sectionAt_snoc (P : List (List Char)) (line : List Char) :
    sectionAt (P ++ [line]) (P ++ [line]).length = (header? line).or (sectionAt P P.length) := by
  rw [sectionAt, sectionAt, List.take_length, List.take_length, List.filterMap_append,
    List.getLast?_append]
  cases h : header? line <;> simp [h]

theorem settingsOf_snoc (P : List (List Char)) (line : List Char) :
    settingsOf (P ++ [line]) = settingsOf P ++ (entry (sectionAt P P.length) line).toList := by
  unfold settingsOf
  rw [List.length_append, List.length_singleton, List.range_succ, List.filterMap_append]
  congr 1
  · -- the lines above keep their sections when a line is added below them
    apply List.filterMap_congr
    intro i hi
    rw [List.mem_range] at hi
    rw [List.getElem?_append_left hi, sectionAt_append_of_le (Nat.le_of_lt hi)]
  · simp only [List.filterMap_cons, List.filterMap_nil, List.getElem?_concat_length,
      Option.bind_some, sectionAt_append_of_le (Nat.le_refl P.length)]
    cases entry (sectionAt P P.length) line <;> rfl

/-- The fold over the lines keeps the section of the last header and every setting so far,
the newest first. -/
theorem foldl_absorbLine (L : List (List Char)) :
    L.foldl absorbLine (none, {}) = (sectionAt L L.length, ⟨(settingsOf L).reverse⟩) := by
  induction L using List.reverseRecOn with
  | nil => rfl
  | append_singleton P line ih =>
    rw [List.foldl_append, ih, List.foldl_cons, List.foldl_nil, absorbLine_eq, sectionAt_snoc,
      settingsOf_snoc]
    cases entry (sectionAt P P.length) line <;> simp

theorem parse_entries (content : String) :
    (parse content).entries = (settingsOf (lines content)).reverse := by
  rw [parse, ← lines, foldl_absorbLine]

/-- A key of a section takes the value of its last setting in that section. -/
theorem get?_parse (content name key : String) :
    (parse content).get? name key = lastValue content name key := by
  rw [get?, parse_entries, lastValue, List.getLast?_filter]

example : lastValue "[a]\nk = 1\n[b]\n[ a ]\nk = \"2\"" "a" "k" = some "2" := by
  decide

end Sections

theorem number_fst (s : Sections) (key : String) :
    (number s key).1 = (s.get? "interpreter" key).bind count? := by
  unfold number
  split
  · rename_i h
    rw [h]
    rfl
  · rename_i raw h
    rw [h, Option.bind_some]
    split <;> simp_all

/-- The limits a file sets: each the count `number` reads for its key, or its default. -/
theorem parse_limits (content : String) :
    (parse content).1.limits =
      { tapeCells := (number (Sections.parse content) "tape_cells").1.getD 5000,
        bufferCapacity := (number (Sections.parse content) "buffer_capacity").1.getD 5000,
        labelCapacity := (number (Sections.parse content) "label_capacity").1.getD 20,
        programCapacity := (number (Sections.parse content) "program_capacity").1.getD 5000 } := by
  simp only [parse]

theorem parse_maxSteps (content : String) :
    (parse content).1.maxSteps = (number (Sections.parse content) "max_steps").1 := by
  simp only [parse]

theorem parse_eof (content : String) :
    (parse content).1.eof =
      (((Sections.parse content).get? "interpreter" "eof").bind EofPolicy.parse).getD .zero := by
  simp only [parse]

theorem bind_decimalCount?_pos {raw? : Option String} {n : Nat}
    (h : raw?.bind decimalCount? = some n) : 0 < n := by
  obtain ⟨raw, -, hraw⟩ := Option.bind_eq_some_iff.1 h
  exact decimalCount?_pos hraw

theorem getD_bind_decimalCount?_pos (raw? : Option String) {d : Nat} (hd : 0 < d) :
    0 < (raw?.bind decimalCount?).getD d := by
  cases h : raw?.bind decimalCount? with
  | none => exact hd
  | some n => exact bind_decimalCount?_pos h

/-- Each limit, the step limit and the end-of-input policy come from the last line that sets
them in a section `interpreter`, a limit keeping its default and the step limit staying unset
when that line holds no count; so every limit is positive and a step limit is never zero. -/
theorem settings_from_last_lines (content : String) :
    (parse content).1.limits.tapeCells =
      ((Sections.lastValue content "interpreter" "tape_cells").bind decimalCount?).getD 5000 ∧
    (parse content).1.limits.bufferCapacity =
      ((Sections.lastValue content "interpreter" "buffer_capacity").bind decimalCount?).getD
        5000 ∧
    (parse content).1.limits.labelCapacity =
      ((Sections.lastValue content "interpreter" "label_capacity").bind decimalCount?).getD 20 ∧
    (parse content).1.limits.programCapacity =
      ((Sections.lastValue content "interpreter" "program_capacity").bind decimalCount?).getD
        5000 ∧
    (parse content).1.maxSteps =
      (Sections.lastValue content "interpreter" "max_steps").bind decimalCount? ∧
    (parse content).1.eof =
      ((Sections.lastValue content "interpreter" "eof").bind EofPolicy.parse).getD .zero ∧
    0 < (parse content).1.limits.tapeCells ∧ 0 < (parse content).1.limits.bufferCapacity ∧
    0 < (parse content).1.limits.labelCapacity ∧ 0 < (parse content).1.limits.programCapacity ∧
    (parse content).1.maxSteps ≠ some 0 := by
  have hnum : ∀ key, (number (Sections.parse content) key).1 =
      (Sections.lastValue content "interpreter" key).bind decimalCount? := by
    intro key
    rw [number_fst, Sections.get?_parse, funext count?_eq_decimalCount?]
  simp only [parse_limits, parse_maxSteps, parse_eof, hnum, Sections.get?_parse, true_and]
  exact ⟨getD_bind_decimalCount?_pos _ (by decide), getD_bind_decimalCount?_pos _ (by decide),
    getD_bind_decimalCount?_pos _ (by decide), getD_bind_decimalCount?_pos _ (by decide),
    fun h => Nat.lt_irrefl 0 (bind_decimalCount?_pos h)⟩

example : (Settings.parse "[interpreter]\ntape_cells = 7\n[interpreter]\ntape_cells = x"
    ).1.limits.tapeCells = 5000 := by
  decide

end Settings
end GotoTape
