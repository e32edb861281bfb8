import GotoTape.Proofs.Instructions
/-!
# Deleting lexemes from a text

Comments and inert characters do nothing, so deleting them from a text should change nothing but
where things stand. This module is the part of that about texts: which lexemes may go
(`Spares`), the text left (`erase`) and where each place of the old text lands in it
(`erasePos`).

The text left lexes to the lexemes kept, each moved to where it lands (`lexFrom_erase`): a lexeme
of code is read from its own characters whatever follows them (`read_spell`), and the characters
of a kept lexeme are its spelling (`spelled_of_readAt`). So the text left passes the pre-scan
whenever the text did (`check_erase`), and its program pairs the moved brackets and sends each
label to the moved target (`Checked.partner_erase`, `Checked.lookup_erase`). Deleting comments
and then inert characters deletes both at once (`erase_isActive_erase_isCode`).

Main statements: `lexFrom_erase` and `check_erase`.
-/

namespace GotoTape
namespace Lexeme

/-! ## Spelling -/

/-- The characters of `cs` that the lexeme `x` covers. -/
def text (cs : List Char) (x : Lexeme) : List Char := (cs.drop x.start).take x.len

/-- How a lexeme of a kind is written: its character, or its marker and its label. The text of
a comment is not known from its kind; it is written as nothing. -/
def spell : LexemeKind → List Char
  | .op c => [c]
  | .labelDef (some l) => [labelMark, l]
  | .labelDef none => [labelMark]
  | .jump (some l) => [jumpMark, l]
  | .jump none => [jumpMark]
  | .commentDelimiter => [commentMark]
  | .comment => []
  | .inert c => [c]

/-- The kinds of code that the lexer reads back from their spelling, whatever follows it: an
operator, a marker with its label, and an inert character. -/
inductive Spelled : LexemeKind → Prop
  | op {c : Char} (h : isOperator c = true) : Spelled (.op c)
  | labelDef (l : Char) : Spelled (.labelDef (some l))
  | jump (l : Char) : Spelled (.jump (some l))
  | inert {c : Char} (hc : c ≠ commentMark) (hl : c ≠ labelMark) (hj : c ≠ jumpMark)
      (ho : isOperator c = false) : Spelled (.inert c)

theorem ne_of_isOperator {c : Char} (h : isOperator c = true) :
    c ≠ commentMark ∧ c ≠ labelMark ∧ c ≠ jumpMark := by
  refine ⟨?_, ?_, ?_⟩ <;> rintro rfl <;> simp [isOperator, commentMark, labelMark, jumpMark] at h

/-- Outside comments, the spelling of a kind of code reads back as a lexeme of that kind that
covers the spelling and nothing more. -/
theorem read_spell {k : LexemeKind} (h : Spelled k) (pos : Nat) (rest : List Char) :
    ∃ c t, spell k = c :: t ∧
      read pos false c (t ++ rest) = (⟨pos, (spell k).length, k⟩, false, rest) := by
  cases h with
  | op h =>
    obtain ⟨h₁, h₂, h₃⟩ := ne_of_isOperator h
    exact ⟨_, [], rfl, by simp [read, spell, h, h₁, h₂, h₃]⟩
  | labelDef l =>
    exact ⟨_, [l], rfl, by simp [read, spell, labelMark, commentMark]⟩
  | jump l =>
    exact ⟨_, [l], rfl, by simp [read, spell, labelMark, jumpMark, commentMark]⟩
  | inert hc hl hj ho =>
    exact ⟨_, [], rfl, by simp [read, spell, hc, hl, hj, ho]⟩

/-- The text from `q` starting with the spelling of a kind of code reads that lexeme there. -/
theorem lexFrom_spell {cs rest : List Char} {q : Nat} {k : LexemeKind} (h : Spelled k)
    (hd : cs.drop q = spell k ++ rest) :
    lexFrom cs q false = ⟨q, (spell k).length, k⟩ :: lexFrom cs (q + (spell k).length) false := by
  obtain ⟨c, t, hs, hr⟩ := read_spell h q rest
  have hd' : cs.drop q = c :: (t ++ rest) := by rw [hd, hs, List.cons_append]
  have hread : readAt cs q false = some (⟨q, (spell k).length, k⟩, false) := by
    rw [readAt, hd']
    dsimp only
    rw [hr]
  exact lexFrom_of_readAt_some hread

/-- A lexeme of code read outside comments, other than a marker that ends the text, is spelled:
its characters are the spelling of its kind. -/
theorem spelled_of_readAt {cs : List Char} {pos : Nat} {x : Lexeme} {d' : Bool}
    (h : readAt cs pos false = some (x, d')) (hc : isCode x = true)
    (hl : x.kind ≠ .labelDef none) (hj : x.kind ≠ .jump none) :
    Spelled x.kind ∧ (cs.drop pos).take x.len = spell x.kind ∧ x.len = (spell x.kind).length := by
  obtain ⟨c, rest, hd, rfl, -⟩ := exists_of_readAt h
  rw [hd]
  unfold read at hc hl hj ⊢
  split_ifs at hc hl hj ⊢ with h₁ h₂ h₃ h₄ h₅
  · simp [isCode] at hc
  · cases h₂
  · cases rest with
    | nil => exact absurd rfl hl
    | cons l more => exact ⟨.labelDef l, by simp [spell, h₃], rfl⟩
  · cases rest with
    | nil => exact absurd rfl hj
    | cons l more => exact ⟨.jump l, by simp [spell, h₄], rfl⟩
  · exact ⟨.op h₅, by simp [spell], rfl⟩
  · exact ⟨.inert h₁ h₃ h₄ (by simpa using h₅), by simp [spell], rfl⟩

/-- Whether a lexeme acts when run: an operator, a label definition or a jump. -/
def isActive (x : Lexeme) : Bool :=
  match x.kind with
  | .op _ | .labelDef _ | .jump _ => true
  | .commentDelimiter | .comment | .inert _ => false

end Lexeme

open Lexeme

/-! ## What may be deleted -/

/-- A choice of lexemes to keep that spares everything that acts: it keeps only code, and every
operator, label definition and jump. Only comments and inert characters may go. -/
structure Spares (keep : Lexeme → Bool) : Prop where
  code : ∀ x, keep x = true → isCode x = true
  op : ∀ x c, x.kind = .op c → keep x = true
  labelDef : ∀ x l, x.kind = .labelDef l → keep x = true
  jump : ∀ x l, x.kind = .jump l → keep x = true

theorem spares_isCode : Spares isCode where
  code _ h := h
  op x c h := by simp [isCode, h]
  labelDef x l h := by simp [isCode, h]
  jump x l h := by simp [isCode, h]

theorem spares_isActive : Spares isActive where
  code x h := by
    unfold isActive at h
    unfold isCode
    split at h <;> simp_all
  op x c h := by simp [isActive, h]
  labelDef x l h := by simp [isActive, h]
  jump x l h := by simp [isActive, h]

/-- A lexeme of code that is not kept is an inert character. -/
theorem Spares.inert_of_not_keep {keep : Lexeme → Bool} (hs : Spares keep) {x : Lexeme}
    (hc : isCode x = true) (hk : keep x = false) : ∃ c, x.kind = .inert c := by
  unfold isCode at hc
  split at hc
  · cases hc
  · cases hc
  · rename_i c h
    rw [hs.op x c h] at hk
    cases hk
  · rename_i l h
    rw [hs.labelDef x l h] at hk
    cases hk
  · rename_i l h
    rw [hs.jump x l h] at hk
    cases hk
  · rename_i c h
    exact ⟨c, h⟩

/-! ## The text left -/

/-- The text `cs` with the lexemes that `keep` rejects deleted. -/
def erase (keep : Lexeme → Bool) (cs : List Char) : List Char :=
  ((lex cs).filter keep).flatMap (text cs)

/-- Where the place `pos` of `cs` lands once the lexemes that `keep` rejects are deleted: after
the text of every kept lexeme that starts before it. -/
def erasePos (keep : Lexeme → Bool) (cs : List Char) (pos : Nat) : Nat :=
  ((((lex cs).filter keep).filter fun x => decide (x.start < pos)).flatMap (text cs)).length

/-- A kept lexeme, moved to where it lands. -/
def Lexeme.move (keep : Lexeme → Bool) (cs : List Char) (x : Lexeme) : Lexeme :=
  { x with start := erasePos keep cs x.start }

section Erase

variable {keep : Lexeme → Bool} {cs : List Char} {limits : Limits}

/-- At a boundary, the lexemes of the text split into those before it, which start before it,
and those read from it. -/
theorem Lexeme.Boundary.split {pos : Nat} {d : Bool} (hb : Boundary cs pos d) :
    ∃ A, lex cs = A ++ lexFrom cs pos d ∧ ∀ x ∈ A, x.start < pos := by
  obtain ⟨A, hA⟩ := hb.lex_eq
  refine ⟨A, hA, fun x hx => ?_⟩
  cases hr : readAt cs pos d with
  | none =>
    have hlen := readAt_eq_none_iff.1 hr
    have := start_lt_length_of_mem_lex (hA ▸ List.mem_append_left _ hx)
    omega
  | some r =>
    obtain ⟨y, d'⟩ := r
    rw [lexFrom_of_readAt_some hr] at hA
    have hsorted := pairwise_start_lex cs
    rw [hA, List.pairwise_append] at hsorted
    have := hsorted.2.2 x hx y List.mem_cons_self
    rwa [start_of_readAt hr] at this

/-- Where a boundary lands: after the kept text before it. -/
theorem erasePos_eq {pos : Nat} {d : Bool} {A : List Lexeme} (hA : lex cs = A ++ lexFrom cs pos d)
    (hlt : ∀ x ∈ A, x.start < pos) :
    erasePos keep cs pos = ((A.filter keep).flatMap (text cs)).length := by
  have hge : ∀ x ∈ lexFrom cs pos d, pos ≤ x.start := (lexFrom_starts pos d).2
  have hbefore : (A.filter keep).filter (fun x => decide (x.start < pos)) = A.filter keep :=
    List.filter_eq_self.2 fun x hx => by simpa using hlt x (List.mem_of_mem_filter hx)
  have hafter : ((lexFrom cs pos d).filter keep).filter (fun x => decide (x.start < pos)) = [] :=
    List.filter_eq_nil_iff.2 fun x hx => by simpa using hge x (List.mem_of_mem_filter hx)
  unfold erasePos
  rw [hA, List.filter_append, List.filter_append, hbefore, hafter, List.append_nil]

/-- From a boundary on, the text left is the kept text read from there. -/
theorem Lexeme.Boundary.drop_erase {pos : Nat} {d : Bool} (hb : Boundary cs pos d) :
    (erase keep cs).drop (erasePos keep cs pos) = ((lexFrom cs pos d).filter keep).flatMap (text cs) := by
  obtain ⟨A, hA, hlt⟩ := hb.split
  rw [erasePos_eq hA hlt, erase, hA, List.filter_append, List.flatMap_append, List.drop_left]

/-- Past a lexeme read at a boundary, the place lands further on by the text of the lexeme if it
is kept, and not at all if it goes. -/
theorem Lexeme.Boundary.erasePos_advance {pos : Nat} {d d' : Bool} {x : Lexeme}
    (hb : Boundary cs pos d) (hr : readAt cs pos d = some (x, d')) :
    erasePos keep cs (pos + x.len) =
      erasePos keep cs pos + if keep x then (text cs x).length else 0 := by
  obtain ⟨A, hA, hlt⟩ := hb.split
  have hx := start_of_readAt hr
  have hA' : lex cs = (A ++ [x]) ++ lexFrom cs (pos + x.len) d' := by
    rw [hA, lexFrom_of_readAt_some hr]
    simp
  have hlt' : ∀ y ∈ A ++ [x], y.start < pos + x.len := by
    have := one_le_len_of_readAt hr
    intro y hy
    rcases List.mem_append.1 hy with hy | hy
    · exact Nat.lt_of_lt_of_le (hlt y hy) (Nat.le_add_right _ _)
    · rw [List.mem_singleton.1 hy, hx]
      omega
  rw [erasePos_eq hA' hlt', erasePos_eq hA hlt, List.filter_append]
  cases hk : keep x <;> simp [hk]

/-- A text that passes the pre-scan has no label marker without its label. -/
theorem Program.Scannable.labelled_mem (hsc : Program.Scannable cs limits) {x : Lexeme} (hx : x ∈ lex cs) :
    x.kind ≠ .labelDef none ∧ x.kind ≠ .jump none := by
  constructor <;> intro hk
  · have hl := getLast?_lex_of_unlabelled hx (Or.inl hk)
    exact (hsc.labelled x (by rw [hl]; rfl)).1 hk
  · have hl := getLast?_lex_of_unlabelled hx (Or.inr hk)
    exact (hsc.labelled x (by rw [hl]; rfl)).2 hk

/-- The text left lexes, from where any boundary lands, to the lexemes kept from that boundary
on, each moved to where it lands. -/
theorem lexFrom_erase (hs : Spares keep) (hsc : Program.Scannable cs limits) :
    ∀ pos d, Boundary cs pos d →
      lexFrom (erase keep cs) (erasePos keep cs pos) false =
        ((lexFrom cs pos d).filter keep).map (move keep cs) := by
  refine @walk_induction cs _ ?_ ?_
  · intro pos d hr hb
    have hd : (erase keep cs).drop (erasePos keep cs pos) = [] := by
      rw [hb.drop_erase, lexFrom_of_readAt_none hr]
      rfl
    rw [lexFrom_of_readAt_none hr, List.filter_nil, List.map_nil,
      lexFrom_of_readAt_none (readAt_eq_none_iff.2 (List.drop_eq_nil_iff.1 hd))]
  · intro pos d x d' hr ih hb
    have hb' := hb.advance hr
    have hx := start_of_readAt hr
    have hih := ih hb'
    rw [hb.erasePos_advance hr] at hih
    rw [lexFrom_of_readAt_some hr]
    cases hk : keep x with
    | false =>
      rw [if_neg (by simp [hk]), Nat.add_zero] at hih
      rw [List.filter_cons_of_neg (by simp [hk])]
      exact hih
    | true =>
      -- a kept lexeme is code, so it is spelled, and its spelling reads back in the text left
      have hc := hs.code x hk
      obtain ⟨rfl, rfl⟩ := readAt_code_inv hr hc
      obtain ⟨hsp, htext, hlen⟩ := spelled_of_readAt hr hc (hsc.labelled_mem (hb.mem_lex hr)).1
        (hsc.labelled_mem (hb.mem_lex hr)).2
      have htx : text cs x = spell x.kind := by rw [text, hx, htext]
      have hd : (erase keep cs).drop (erasePos keep cs pos) =
          spell x.kind ++ ((lexFrom cs (pos + x.len) false).filter keep).flatMap (text cs) := by
        rw [hb.drop_erase, lexFrom_of_readAt_some hr, List.filter_cons_of_pos hk,
          List.flatMap_cons, htx]
      rw [if_pos hk, htx] at hih
      rw [List.filter_cons_of_pos hk, List.map_cons, lexFrom_spell hsp hd, hih]
      congr 1
      rw [move, hx, ← hlen]

/-- The start of the text lands at the start of the text left. -/
@[simp] theorem erasePos_zero : erasePos keep cs 0 = 0 := by simp [erasePos]

/-- The text left lexes to the lexemes kept, each moved to where it lands. -/
theorem lex_erase (hs : Spares keep) (hsc : Program.Scannable cs limits) :
    lex (erase keep cs) = ((lex cs).filter keep).map (move keep cs) := by
  have h := lexFrom_erase hs hsc 0 false Boundary.start
  rwa [erasePos_zero] at h

/-- A boundary lands within the text left. -/
theorem Lexeme.Boundary.erasePos_le {pos : Nat} {d : Bool} (hb : Boundary cs pos d) :
    erasePos keep cs pos ≤ (erase keep cs).length := by
  obtain ⟨A, hA, hlt⟩ := hb.split
  rw [erasePos_eq hA hlt, erase, hA, List.filter_append, List.flatMap_append, List.length_append]
  omega

/-- Two boundaries from which the same lexemes are kept land at the same place. -/
theorem Lexeme.Boundary.erasePos_eq_of_filter {pos pos' : Nat} {d d' : Bool}
    (hb : Boundary cs pos d) (hb' : Boundary cs pos' d')
    (h : (lexFrom cs pos d).filter keep = (lexFrom cs pos' d').filter keep) :
    erasePos keep cs pos = erasePos keep cs pos' := by
  have h₁ := congrArg List.length
    (show (erase keep cs).drop (erasePos keep cs pos) = _ from hb.drop_erase)
  have h₂ := congrArg List.length
    (show (erase keep cs).drop (erasePos keep cs pos') = _ from hb'.drop_erase)
  rw [h, ← h₂, List.length_drop, List.length_drop] at h₁
  have hle : erasePos keep cs pos ≤ (erase keep cs).length := hb.erasePos_le
  have hle' : erasePos keep cs pos' ≤ (erase keep cs).length := hb'.erasePos_le
  omega

/-- The text of a lexeme is as long as the lexeme. -/
theorem length_text_of_readAt {pos : Nat} {d d' : Bool} {x : Lexeme}
    (hr : readAt cs pos d = some (x, d')) : (text cs x).length = x.len := by
  have hend := end_le_length_of_readAt hr
  rw [text, start_of_readAt hr, List.length_take, List.length_drop]
  omega

/-- Past a kept lexeme the place lands further on by the lexeme's length. -/
theorem Lexeme.Boundary.erasePos_kept {pos : Nat} {d d' : Bool} {x : Lexeme}
    (hb : Boundary cs pos d) (hr : readAt cs pos d = some (x, d')) (hk : keep x = true) :
    erasePos keep cs (pos + x.len) = erasePos keep cs pos + x.len := by
  rw [hb.erasePos_advance hr, if_pos hk, length_text_of_readAt hr]

/-- The kept text read from a place is no longer than the text after it. -/
theorem length_kept_le : ∀ pos d,
    (((lexFrom cs pos d).filter keep).flatMap (text cs)).length ≤ cs.length - pos := by
  refine @walk_induction cs _ ?_ ?_
  · intro pos d hr
    simp [lexFrom_of_readAt_none hr]
  · intro pos d x d' hr ih
    have hend := end_le_length_of_readAt hr
    rw [lexFrom_of_readAt_some hr]
    cases hk : keep x
    · rw [List.filter_cons_of_neg (by simp [hk])]
      omega
    · rw [List.filter_cons_of_pos hk, List.flatMap_cons, List.length_append,
        length_text_of_readAt hr]
      omega

theorem length_erase_le : (erase keep cs).length ≤ cs.length := by
  have h : (((lexFrom cs 0 false).filter keep).flatMap (text cs)).length ≤ cs.length - 0 :=
    length_kept_le 0 false
  rwa [← lex_eq_lexFrom, Nat.sub_zero] at h

/-! ## The lexemes left -/

/-- Every label definition is kept, so the labels defined stay as they were. -/
theorem Spares.labels_filter (hs : Spares keep) (xs : List Lexeme) :
    labels (xs.filter keep) = labels xs := by
  induction xs with
  | nil => rfl
  | cons x xs ih =>
    by_cases hx : ∃ l, x.kind = .labelDef (some l)
    · obtain ⟨l, hl⟩ := hx
      rw [List.filter_cons_of_pos (hs.labelDef x _ hl), labels_cons_def _ hl, labels_cons_def _ hl, ih]
    · simp only [not_exists] at hx
      rw [labels_cons_other _ hx]
      cases hk : keep x
      · rw [List.filter_cons_of_neg (by simp [hk]), ih]
      · rw [List.filter_cons_of_pos hk, labels_cons_other _ hx, ih]

theorem labels_map_move (xs : List Lexeme) : labels (xs.map (move keep cs)) = labels xs := by
  rw [labels, labels, List.filterMap_map]
  rfl

/-- Every loop bracket is kept, so loops stay balanced. -/
theorem Spares.balanced_filter (hs : Spares keep) {xs : List Lexeme} (h : Balanced xs) :
    Balanced (xs.filter keep) := by
  induction h with
  | nil => exact .nil
  | @plain x xs ho hc _ ih =>
    cases hk : keep x
    · rwa [List.filter_cons_of_neg (by simp [hk])]
    · rw [List.filter_cons_of_pos hk]
      exact .plain ho hc ih
  | @loop o c body xs ho hc _ _ ihb ih =>
    rw [List.filter_cons_of_pos (hs.op o _ ho), List.filter_append,
      List.filter_cons_of_pos (hs.op c _ hc)]
    exact .loop ho hc ihb ih

theorem Lexeme.Balanced.map_move {xs : List Lexeme} (h : Balanced xs) :
    Balanced (xs.map (move keep cs)) := by
  induction h with
  | nil => exact .nil
  | plain ho hc _ ih => exact .plain ho hc ih
  | loop ho hc _ _ ihb ih =>
    rw [List.map_cons, List.map_append, List.map_cons]
    exact .loop ho hc ihb ih

/-- The text left passes the pre-scan whenever the text does. -/
theorem Program.Scannable.erase (hs : Spares keep) (hsc : Program.Scannable cs limits) :
    Program.Scannable (erase keep cs) limits where
  fits := le_trans length_erase_le hsc.fits
  labelled x hx := by
    rw [lex_erase hs hsc] at hx
    obtain ⟨y, hy, rfl⟩ := List.mem_map.1 (List.mem_of_mem_getLast? hx)
    have h := hsc.labelled_mem (List.mem_of_mem_filter hy)
    exact h
  balanced := by
    rw [lex_erase hs hsc]
    exact (hs.balanced_filter hsc.balanced).map_move
  labelsFit := by
    rw [lex_erase hs hsc, labels_map_move, hs.labels_filter]
    exact hsc.labelsFit

theorem check_erase (hs : Spares keep) (hsc : Program.Scannable cs limits) :
    ∃ q, Program.check (erase keep cs) limits = .ok q :=
  (Program.check_spec _ _).1.2 (hsc.erase hs)

/-- Only code is kept, so what is kept of a list is what is kept of its code. -/
theorem Spares.filter_code (hs : Spares keep) (xs : List Lexeme) :
    (Lexeme.code xs).filter keep = xs.filter keep := by
  rw [Lexeme.code, List.filter_filter]
  refine List.filter_congr fun x _ => ?_
  cases hk : keep x
  · rfl
  · simp [hs.code x hk]

/-- What is kept is code, and stays code once moved. -/
theorem Spares.code_kept (hs : Spares keep) (xs : List Lexeme) :
    Lexeme.code ((xs.filter keep).map (move keep cs)) = (xs.filter keep).map (move keep cs) := by
  refine List.filter_eq_self.2 fun y hy => ?_
  obtain ⟨x, hx, rfl⟩ := List.mem_map.1 hy
  exact hs.code x (List.mem_filter.1 hx).2

/-- A kept lexeme of the text is, moved, a lexeme of the text left. -/
theorem mem_lex_erase (hs : Spares keep) (hsc : Program.Scannable cs limits) {x : Lexeme}
    (hx : x ∈ lex cs) (hk : keep x = true) : move keep cs x ∈ lex (erase keep cs) := by
  rw [lex_erase hs hsc]
  exact List.mem_map_of_mem (List.mem_filter.2 ⟨hx, hk⟩)

/-- A kept lexeme, moved, covers in the text left the characters it covers in the text. -/
theorem text_move {x : Lexeme} (hx : x ∈ lex cs) (hk : keep x = true) :
    text (erase keep cs) (move keep cs x) = text cs x := by
  obtain ⟨d, d', hb, hr⟩ := mem_lex_iff.1 hx
  have hd : (erase keep cs).drop (erasePos keep cs x.start) = _ := hb.drop_erase
  rw [lexFrom_of_readAt_some hr, List.filter_cons_of_pos hk, List.flatMap_cons] at hd
  show ((erase keep cs).drop (erasePos keep cs x.start)).take x.len = text cs x
  rw [hd]
  exact List.take_left' (length_text_of_readAt hr)

/-- Deleting the comments, and then the inert characters of what is left, deletes both at once. -/
theorem erase_isActive_erase_isCode (hsc : Program.Scannable cs limits) :
    erase isActive (erase isCode cs) = erase isActive cs := by
  show ((lex (erase isCode cs)).filter isActive).flatMap (text (erase isCode cs)) =
    ((lex cs).filter isActive).flatMap (text cs)
  rw [lex_erase spares_isCode hsc, List.filter_map, List.flatMap_map, List.filter_filter]
  -- what acts is code: keeping it among the code keeps it among all lexemes
  have hf : (lex cs).filter (fun x => (isActive ∘ move isCode cs) x && isCode x) =
      (lex cs).filter isActive := by
    refine List.filter_congr fun x _ => ?_
    show (isActive x && isCode x) = isActive x
    cases ha : isActive x
    · rfl
    · simp only [spares_isActive.code x ha, Bool.and_self]
  rw [hf]
  refine List.flatMap_congr fun x hx => ?_
  have hm := List.mem_filter.1 hx
  exact text_move hm.1 (spares_isActive.code x hm.2)

/-! ## Partners and labels of the text left -/

/-- A loop of the lexemes is a loop of the kept lexemes, moved. -/
theorem Lexeme.Matched.erase (hs : Spares keep) {xs : List Lexeme} {i j : Nat} (h : Matched xs i j) :
    Matched ((xs.filter keep).map (move keep cs)) (erasePos keep cs i) (erasePos keep cs j) := by
  obtain ⟨A, o, body, c, C, rfl, ho, hc, rfl, rfl, hb⟩ := h
  refine ⟨(A.filter keep).map (move keep cs), move keep cs o, (body.filter keep).map (move keep cs),
    move keep cs c, (C.filter keep).map (move keep cs), ?_, ho, hc, rfl, rfl,
    (hs.balanced_filter hb).map_move⟩
  rw [List.filter_append, List.filter_cons_of_pos (hs.op o _ ho), List.filter_append,
    List.filter_cons_of_pos (hs.op c _ hc)]
  simp

/-- The first definition of a label is kept, and stays the first, moved. -/
theorem Lexeme.FirstDef.erase (hs : Spares keep) {xs : List Lexeme} {l : Char} {t : Nat}
    (h : FirstDef xs l t) :
    ∃ y ∈ xs, y.kind = .labelDef (some l) ∧ t = y.start + 2 ∧
      FirstDef ((xs.filter keep).map (move keep cs)) l (erasePos keep cs y.start + 2) := by
  obtain ⟨A, y, B, rfl, hy, hl, rfl⟩ := h
  refine ⟨y, by simp, hy, rfl, (A.filter keep).map (move keep cs), move keep cs y,
    (B.filter keep).map (move keep cs), ?_, hy, ?_, rfl⟩
  · rw [List.filter_append, List.filter_cons_of_pos (hs.labelDef y _ hy)]
    simp
  · rwa [labels_map_move, hs.labels_filter]

end Erase

section Checked

open Program

variable {keep : Lexeme → Bool} {cs : List Char} {limits : Limits} {p q : Program}

/-- The program of the text left pairs the moved brackets: a partner of the text's program is a
bracket of the text, and its place, moved, is the partner of the moved place. -/
theorem Program.Checked.partner_erase (hs : Spares keep) (hp : Checked cs limits p)
    (hq : Checked (erase keep cs) limits q) {i j : Nat} (h : p.brackets.partner i = some j) :
    q.brackets.partner (erasePos keep cs i) = some (erasePos keep cs j) ∧
      ∃ y ∈ lex cs, y.start = j ∧ (y.kind = .op '[' ∨ y.kind = .op ']') := by
  have hl := lex_erase hs hp.scannable
  rcases (hp.brackets.partner i j).1 h with hm | hm
  · refine ⟨(hq.brackets.partner _ _).2 (Or.inl (hl ▸ hm.erase hs)), ?_⟩
    obtain ⟨-, c, hc, rfl, hk⟩ := hm.mem
    exact ⟨c, hc, rfl, Or.inr hk⟩
  · refine ⟨(hq.brackets.partner _ _).2 (Or.inr (hl ▸ hm.erase hs)), ?_⟩
    obtain ⟨⟨o, ho, rfl, hk⟩, -⟩ := hm.mem
    exact ⟨o, ho, rfl, Or.inl hk⟩

/-- The program of the text left sends a label to the moved target of its first definition. -/
theorem Program.Checked.lookup_erase (hs : Spares keep) (hp : Checked cs limits p)
    (hq : Checked (erase keep cs) limits q) {l : Char} {t : Nat} (h : p.labels.lookup l = some t) :
    ∃ y ∈ lex cs, y.kind = .labelDef (some l) ∧ t = y.start + 2 ∧
      q.labels.lookup l = some (erasePos keep cs y.start + 2) := by
  obtain ⟨y, hy, hk, rfl, hf⟩ := ((hp.labels.lookup l t).1 h).erase hs
  rw [← lex_erase hs hp.scannable] at hf
  exact ⟨y, hy, hk, rfl, (hq.labels.lookup l _).2 hf⟩

/-- A label the text does not define, the text left does not define either. -/
theorem Program.Checked.lookup_erase_none (hs : Spares keep) (hp : Checked cs limits p)
    (hq : Checked (erase keep cs) limits q) {l : Char} (h : p.labels.lookup l = none) :
    q.labels.lookup l = none := by
  have hn : ¬ (p.labels.lookup l).isSome := by simp [h]
  rw [hp.labels.isSome_lookup_iff] at hn
  rw [← Option.not_isSome_iff_eq_none, hq.labels.isSome_lookup_iff, lex_erase hs hp.scannable,
    labels_map_move, hs.labels_filter]
  exact hn

end Checked

end GotoTape
