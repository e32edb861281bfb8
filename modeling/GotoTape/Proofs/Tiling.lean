import GotoTape.Highlight
import GotoTape.Proofs.Lexing
import Mathlib.Data.List.Chain
/-!
# The rules of the lexer

`lex` is total, and what it reads follows the rules of the language. The lexemes tile the text:
the first starts at position zero, each covers at least one character and starts where the one
before it ended, and the last ends with the text (`Tiles`). The comment flag at a lexeme is the
parity of the delimiters before it, and the flag and the first character decide the lexeme
(`Rule`): `#` is a delimiter wherever it stands; inside a comment the lexeme is the longest run
of text without `#`; outside, a label marker or a jump takes the next character as its label,
whatever it is, and has none only at the end of the text; the eight operators stand alone and
every other character is inert.

The line editor draws a line by these lexemes, so its segments spell the line, and neighbouring
lexemes of one style share a segment.

Main statement: `lex_tiles_by_rules`.
-/

namespace GotoTape
namespace Lexeme

/-- `xs` covers the positions from `pos` up to `n` one after another: each lexeme starts where
the one before it ended and covers at least one character. -/
def Tiles : Nat → List Lexeme → Nat → Prop
  | pos, [], n => pos = n
  | pos, x :: xs, n => x.start = pos ∧ 1 ≤ x.len ∧ Tiles (pos + x.len) xs n

/-- The number of comment delimiters among `xs`. -/
def delimiters (xs : List Lexeme) : Nat := xs.countP (fun x => x.kind = .commentDelimiter)

/-- Whether a comment is open after the lexemes `xs`: they hold an odd number of delimiters. -/
def commentOpen (xs : List Lexeme) : Bool := delimiters xs % 2 = 1

/-- The rules of the language for a lexeme `x` of `cs` at whose start the comment flag is `d`. -/
structure Rule (cs : List Char) (d : Bool) (x : Lexeme) : Prop where
  start_lt : x.start < cs.length
  delimiter : x.kind = .commentDelimiter ↔ cs[x.start]? = some commentMark
  delimiter_len : cs[x.start]? = some commentMark → x.len = 1
  /-- Inside a comment the text runs up to the next `#` or the end. -/
  comment : d = true → cs[x.start]? ≠ some commentMark →
    x.kind = .comment ∧ (∀ i, x.start ≤ i → i < x.start + x.len → cs[i]? ≠ some commentMark) ∧
      (cs[x.start + x.len]? = none ∨ cs[x.start + x.len]? = some commentMark)
  /-- Outside a comment a marker takes the next character, if there is one, as its label. -/
  labelDef : d = false → cs[x.start]? = some labelMark →
    x.kind = .labelDef cs[x.start + 1]? ∧ x.len = if x.start + 1 < cs.length then 2 else 1
  jump : d = false → cs[x.start]? = some jumpMark →
    x.kind = .jump cs[x.start + 1]? ∧ x.len = if x.start + 1 < cs.length then 2 else 1
  op : d = false → ∀ c, cs[x.start]? = some c → isOperator c = true → x.kind = .op c ∧ x.len = 1
  inert : d = false → ∀ c, cs[x.start]? = some c → c ≠ commentMark → c ≠ labelMark →
    c ≠ jumpMark → isOperator c = false → x.kind = .inert c ∧ x.len = 1

/-! ## Tiling -/

namespace Tiles

theorem le {pos n : Nat} : ∀ {xs : List Lexeme}, Tiles pos xs n → pos ≤ n
  | [], h => Nat.le_of_eq h
  | _ :: _, ⟨_, _, h⟩ => by
    have := h.le
    omega

theorem eq_nil_of_succ_eq {pos n : Nat} {x : Lexeme} {xs : List Lexeme}
    (h : Tiles pos (x :: xs) n) (hn : pos + 1 = n) : xs = [] := by
  obtain ⟨-, hlen, hrest⟩ := h
  cases xs with
  | nil => rfl
  | cons y ys =>
    obtain ⟨-, hy, hys⟩ := hrest
    have := hys.le
    omega

theorem append_inv {pos n : Nat} {B : List Lexeme} :
    ∀ {A : List Lexeme}, Tiles pos (A ++ B) n → ∃ mid, Tiles mid B n
  | [], h => ⟨pos, h⟩
  | _ :: _, ⟨_, _, h⟩ => append_inv h

/-- The lexemes of a tiling spell the stretch of the text they cover. -/
theorem flatMap_slice {cs : List Char} {n : Nat} :
    ∀ {pos : Nat} {xs : List Lexeme}, Tiles pos xs n →
      xs.flatMap (fun x => (cs.drop x.start).take x.len) = (cs.drop pos).take (n - pos)
  | pos, [], h => by
    rw [show pos = n from h]
    simp
  | pos, x :: xs, ⟨hs, _, h⟩ => by
    have hle := h.le
    have hsplit : n - pos = x.len + (n - (pos + x.len)) := by omega
    rw [List.flatMap_cons, flatMap_slice h, hs, hsplit, List.take_add, List.drop_drop]

end Tiles

variable {cs : List Char}

theorem tiles_lexFrom : ∀ pos d, pos ≤ cs.length → Tiles pos (lexFrom cs pos d) cs.length := by
  refine @walk_induction cs _ ?_ ?_
  · intro pos d hr hle
    rw [lexFrom_of_readAt_none hr]
    exact Nat.le_antisymm hle (readAt_eq_none_iff.1 hr)
  · intro pos d x d' hr ih _
    rw [lexFrom_of_readAt_some hr]
    exact ⟨start_of_readAt hr, one_le_len_of_readAt hr, ih (end_le_length_of_readAt hr)⟩

theorem tiles_lex (cs : List Char) : Tiles 0 (lex cs) cs.length :=
  tiles_lexFrom 0 false (Nat.zero_le _)

/-- The lexemes of a text spell it. -/
theorem flatMap_slice_lex (cs : List Char) :
    (lex cs).flatMap (fun x => (cs.drop x.start).take x.len) = cs := by
  rw [(tiles_lex cs).flatMap_slice, List.drop_zero, Nat.sub_zero, List.take_length]

/-! ## The comment flag -/

theorem commentOpen_nil : commentOpen [] = false := rfl

theorem commentOpen_cons (x : Lexeme) (xs : List Lexeme) :
    commentOpen (x :: xs) = (decide (x.kind = .commentDelimiter) ^^ commentOpen xs) := by
  unfold commentOpen delimiters
  rw [List.countP_cons]
  by_cases hx : x.kind = .commentDelimiter
  · simp only [hx, decide_true, if_true, Bool.true_xor]
    by_cases hodd : List.countP (fun x => decide (x.kind = .commentDelimiter)) xs % 2 = 1
    · simp only [hodd, decide_true, Bool.not_true, decide_eq_false_iff_not]
      omega
    · simp only [hodd, decide_false, Bool.not_false, decide_eq_true_eq]
      omega
  · simp [hx]

/-- A delimiter toggles the comment flag, and no other lexeme changes it. -/
theorem readAt_flag {pos : Nat} {d d' : Bool} {x : Lexeme} (h : readAt cs pos d = some (x, d')) :
    d' = (d ^^ decide (x.kind = .commentDelimiter)) := by
  obtain ⟨c, rest, -, rfl, rfl⟩ := exists_of_readAt h
  rw [read.eq_def]
  split_ifs <;> (try cases rest) <;> simp_all

/-- A lexeme after the lexemes `A` read from a place is read with the flag there, toggled by
each delimiter of `A`. -/
theorem readAt_of_lexFrom {x : Lexeme} {B : List Lexeme} :
    ∀ (A : List Lexeme) (pos : Nat) (d : Bool), lexFrom cs pos d = A ++ x :: B →
      ∃ d', readAt cs x.start (d ^^ commentOpen A) = some (x, d')
  | A, pos, d, h => by
    cases hr : readAt cs pos d with
    | none =>
      rw [lexFrom_of_readAt_none hr] at h
      cases A <;> cases h
    | some r =>
      obtain ⟨y, e⟩ := r
      rw [lexFrom_of_readAt_some hr] at h
      cases A with
      | nil =>
        obtain ⟨rfl, -⟩ := List.cons.inj h
        rw [commentOpen_nil, Bool.xor_false, start_of_readAt hr]
        exact ⟨e, hr⟩
      | cons y' A =>
        obtain ⟨rfl, h'⟩ := List.cons.inj h
        obtain ⟨d', hd'⟩ := readAt_of_lexFrom A _ e h'
        rw [readAt_flag hr, Bool.xor_assoc, ← commentOpen_cons] at hd'
        exact ⟨d', hd'⟩

/-! ## What one lexeme is -/

/-- The run of `l` that `takeWhile` keeps ends at the end of `l` or before an element that fails. -/
theorem getElem?_length_takeWhile {α : Type} (p : α → Bool) (l : List α) :
    l[(l.takeWhile p).length]? = none ∨ ∃ a, l[(l.takeWhile p).length]? = some a ∧ p a = false := by
  have hsplit := List.takeWhile_append_dropWhile (p := p) (l := l)
  have hget : l[(l.takeWhile p).length]? = (l.dropWhile p)[0]? := by
    have h := @List.getElem?_append_right _ (l.takeWhile p) (l.dropWhile p) _
      (Nat.le_refl (l.takeWhile p).length)
    rwa [hsplit, Nat.sub_self] at h
  rw [hget]
  cases hd : l.dropWhile p with
  | nil => exact Or.inl rfl
  | cons a rest =>
    have hne : l.dropWhile p ≠ [] := by rw [hd]; exact List.cons_ne_nil a rest
    have hfail := List.head_dropWhile_not p hne
    simp only [hd, List.head_cons] at hfail
    exact Or.inr ⟨a, rfl, hfail⟩

theorem readAt_delimiter_inv {pos : Nat} {d d' : Bool} {x : Lexeme}
    (h : readAt cs pos d = some (x, d')) (hk : x.kind = .commentDelimiter) :
    cs[pos]? = some commentMark := by
  obtain ⟨c, rest, hd, rfl, -⟩ := exists_of_readAt h
  have hc : cs[pos]? = some c := by
    have h0 := congrArg (fun l => l[0]?) hd
    simpa only [List.getElem?_drop, Nat.add_zero, List.getElem?_cons_zero] using h0
  rw [hc]
  rw [read.eq_def] at hk
  split_ifs at hk with h₁ <;> (try cases rest) <;> simp_all

/-- Every lexeme read follows the rules, with the flag it was read with. -/
theorem rule_of_readAt {pos : Nat} {d d' : Bool} {x : Lexeme} (h : readAt cs pos d = some (x, d')) :
    Rule cs d x := by
  have hs := start_of_readAt h
  subst hs
  have hend := end_le_length_of_readAt h
  have hlt : x.start < cs.length := by
    have := one_le_len_of_readAt h
    omega
  have hget : cs[x.start]? = some cs[x.start] := List.getElem?_eq_getElem hlt
  -- each rule names the lexeme read; it is `x`
  have heq : ∀ {y : Lexeme} {e : Bool}, readAt cs x.start d = some (y, e) → x = y := fun hy => by
    rw [h, Option.some.injEq, Prod.mk.injEq] at hy
    exact hy.1
  refine ⟨hlt, ⟨readAt_delimiter_inv h, fun hc => ?_⟩, fun hc => ?_, fun hd hc => ?_,
    fun hd hc => ?_, fun hd hc => ?_, fun hd c hc hop => ?_, fun hd c hc h₁ h₂ h₃ hop => ?_⟩
  · rw [hget, Option.some.injEq] at hc
    rw [heq (readAt_commentMark hlt d hc)]
  · rw [hget, Option.some.injEq] at hc
    rw [heq (readAt_commentMark hlt d hc)]
  · subst hd
    have hne : cs[x.start] ≠ commentMark := fun he => hc (hget.trans (congrArg some he))
    have hx := heq (readAt_comment hlt hne)
    refine ⟨by rw [hx], fun i h₁ h₂ => ?_, ?_⟩
    · have hi : i < cs.length := by omega
      rw [List.getElem?_eq_getElem hi, ne_eq, Option.some.injEq]
      exact ne_commentMark_of_comment hlt hne h₁ (hx ▸ h₂) hi
    · -- the text stops before a `#` or at the end
      have hl : x.len = ((cs.drop (x.start + 1)).takeWhile (· != commentMark)).length + 1 := by
        rw [hx]
      have hpos : x.start + x.len = (x.start + 1) + ((cs.drop (x.start + 1)).takeWhile
          (· != commentMark)).length := by omega
      rw [hpos, ← List.getElem?_drop]
      rcases getElem?_length_takeWhile (· != commentMark) (cs.drop (x.start + 1)) with h₀ | ⟨a, ha, hp⟩
      · exact Or.inl h₀
      · right
        rw [ha]
        simpa using hp
  · subst hd
    rw [hget, Option.some.injEq] at hc
    by_cases h₁ : x.start + 1 < cs.length
    · rw [heq (readAt_labelMark hlt hc h₁), List.getElem?_eq_getElem h₁, if_pos h₁]
      exact ⟨rfl, rfl⟩
    · have h₁' : cs.length ≤ x.start + 1 := Nat.le_of_not_lt h₁
      rw [heq (readAt_labelMark_last hlt hc h₁'), List.getElem?_eq_none h₁', if_neg h₁]
      exact ⟨rfl, rfl⟩
  · subst hd
    rw [hget, Option.some.injEq] at hc
    by_cases h₁ : x.start + 1 < cs.length
    · rw [heq (readAt_jumpMark hlt hc h₁), List.getElem?_eq_getElem h₁, if_pos h₁]
      exact ⟨rfl, rfl⟩
    · have h₁' : cs.length ≤ x.start + 1 := Nat.le_of_not_lt h₁
      rw [heq (readAt_jumpMark_last hlt hc h₁'), List.getElem?_eq_none h₁', if_neg h₁]
      exact ⟨rfl, rfl⟩
  · subst hd
    rw [hget, Option.some.injEq] at hc
    rw [← hc] at hop
    rw [heq (readAt_operator hlt hop)]
    exact ⟨by rw [hc], rfl⟩
  · subst hd
    rw [hget, Option.some.injEq] at hc
    rw [← hc] at h₁ h₂ h₃ hop
    rw [heq (readAt_inert hlt h₁ h₂ h₃ hop)]
    exact ⟨by rw [hc], rfl⟩

end Lexeme

/-! ## Drawing a line -/

namespace Segment

/-- No two neighbours that joining leaves share a style. -/
theorem isChain_style_coalesce (ss : List Segment) :
    (coalesce ss).IsChain (fun a b => a.style ≠ b.style) := by
  induction ss with
  | nil => exact .nil
  | cons s rest ih =>
    rw [coalesce]
    split
    · exact .singleton s
    · next t more h =>
      rw [h] at ih
      by_cases hs : s.style = t.style
      · rw [if_pos hs]
        cases more with
        | nil => exact .singleton _
        | cons u more =>
          obtain ⟨htu, hmore⟩ := List.isChain_cons_cons.1 ih
          exact List.isChain_cons_cons.2 ⟨hs ▸ htu, hmore⟩
      · rw [if_neg hs]
        exact List.isChain_cons_cons.2 ⟨hs, ih⟩

end Segment

open Lexeme

/-- The lexer reads every text as lexemes that tile it, each by the rules of the language with
the comment flag that the delimiters before it leave, and a marker without a label only at the
very end. The line editor draws a line as segments that spell it, no two neighbours alike. -/
theorem lex_tiles_by_rules (cs : List Char) :
    Tiles 0 (lex cs) cs.length ∧
      (∀ A x B, lex cs = A ++ x :: B →
        Rule cs (commentOpen A) x ∧ (x.kind = .labelDef none ∨ x.kind = .jump none → B = [])) ∧
      ∀ pal : Palette, (pal.segments cs).flatMap Segment.text = cs ∧
        (pal.segments cs).IsChain (fun a b => a.style ≠ b.style) := by
  refine ⟨tiles_lex cs, fun A x B hx => ?_, fun pal => ⟨?_, Segment.isChain_style_coalesce _⟩⟩
  · obtain ⟨d', hr⟩ := readAt_of_lexFrom A 0 false hx
    rw [Bool.false_xor] at hr
    refine ⟨rule_of_readAt hr, fun hk => ?_⟩
    -- a marker without a label stands on the last character, so the tiling ends with it
    have hmem : x ∈ lex cs := by rw [hx]; simp
    have hend := start_of_unlabelled hmem hk
    have ht : Tiles 0 (A ++ x :: B) cs.length := hx ▸ tiles_lex cs
    obtain ⟨mid, hmid⟩ := ht.append_inv
    have hs : mid = x.start := hmid.1.symm
    exact hmid.eq_nil_of_succ_eq (hs ▸ hend)
  · rw [Palette.flatMap_text_segments, Palette.pieces, List.flatMap_map]
    exact flatMap_slice_lex cs

end GotoTape
