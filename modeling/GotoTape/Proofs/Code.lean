import GotoTape.Proofs.Alignment
/-!
# The code of a text

The run loop dispatches the lexemes of a text other than comment delimiters and comment text:
its code. Seeking from a place of the text lands on the next lexeme of code, or at the end when
only comments are left (`seek_lexFrom`). The lexemes read from a boundary end the lexemes of the
text (`Boundary.lex_eq`), and after each of them come the lexemes read after it
(`lexFrom_eq_append_cons`). Comments hold no brackets, so the code has the loops of the text
(`balanced_code_iff`), and a loop of the code pairs its brackets in the program's map
(`Checked.loop_of_code`).
-/

namespace GotoTape
namespace Lexeme

/-- Whether a lexeme is code: anything but a comment delimiter or comment text. -/
def isCode (x : Lexeme) : Bool :=
  match x.kind with
  | .commentDelimiter | .comment => false
  | .op _ | .labelDef _ | .jump _ | .inert _ => true

/-- The lexemes of `xs` that are code, in order. -/
def code (xs : List Lexeme) : List Lexeme := xs.filter isCode

@[simp] theorem code_nil : code [] = [] := rfl

@[simp] theorem code_append (xs ys : List Lexeme) : code (xs ++ ys) = code xs ++ code ys :=
  List.filter_append xs ys

theorem code_cons_of_isCode {x : Lexeme} (xs : List Lexeme) (h : isCode x = true) :
    code (x :: xs) = x :: code xs :=
  List.filter_cons_of_pos h

theorem code_cons_of_not_isCode {x : Lexeme} (xs : List Lexeme) (h : isCode x = false) :
    code (x :: xs) = code xs :=
  List.filter_cons_of_neg (by simp [h])

theorem isCode_of_op {x : Lexeme} {c : Char} (h : x.kind = .op c) : isCode x = true := by
  simp [isCode, h]

/-- Comments hold no loop brackets. -/
theorem not_bracket_of_not_isCode {x : Lexeme} (h : isCode x = false) :
    x.kind ≠ .op '[' ∧ x.kind ≠ .op ']' := by
  constructor <;> intro hk <;> simp [isCode, hk] at h

/-! ## Loops of the code -/

theorem Balanced.code {xs : List Lexeme} (h : Balanced xs) : Balanced (code xs) := by
  induction h with
  | nil => exact .nil
  | @plain x xs ho hc _ ih =>
    cases hx : isCode x
    · rwa [code_cons_of_not_isCode _ hx]
    · rw [code_cons_of_isCode _ hx]
      exact .plain ho hc ih
  | @loop o c body xs ho hc _ _ ihb ih =>
    rw [code_cons_of_isCode _ (isCode_of_op ho), code_append, code_cons_of_isCode _ (isCode_of_op hc)]
    exact .loop ho hc ihb ih

/-- The first lexeme of a balanced sequence is plain, or opens a loop closed later. -/
theorem Balanced.cons_inv {x : Lexeme} {xs : List Lexeme} (h : Balanced (x :: xs)) :
    (x.kind ≠ .op '[' ∧ x.kind ≠ .op ']' ∧ Balanced xs) ∨
      (x.kind = .op '[' ∧ ∃ body c R, xs = body ++ c :: R ∧ c.kind = .op ']' ∧ Balanced body ∧
        Balanced R) := by
  cases h with
  | plain ho hc h => exact Or.inl ⟨ho, hc, h⟩
  | loop ho hc hb h => exact Or.inr ⟨ho, _, _, _, rfl, hc, hb, h⟩

/-- Comments added anywhere keep a sequence balanced. -/
theorem balanced_of_code : ∀ (n : Nat) (xs : List Lexeme), xs.length = n →
    Balanced (code xs) → Balanced xs := by
  intro n
  induction n using Nat.strongRecOn with
  | ind n ih =>
    intro xs hn h
    cases xs with
    | nil => exact .nil
    | cons x ys =>
      have hlt : ys.length < n := by simp [← hn]
      cases hx : isCode x
      · rw [code_cons_of_not_isCode _ hx] at h
        obtain ⟨ho, hc⟩ := not_bracket_of_not_isCode hx
        exact .plain ho hc (ih _ hlt ys rfl h)
      rw [code_cons_of_isCode _ hx] at h
      rcases h.cons_inv with ⟨ho, hc, h⟩ | ⟨ho, body, c, R, he, hc, hb, hR⟩
      · exact .plain ho hc (ih _ hlt ys rfl h)
      -- split the lexemes after the bracket where their code closes the loop
      obtain ⟨W, W', rfl, hW, hW'⟩ := List.filter_eq_append_iff.1 he
      obtain ⟨V, U, rfl, hV, hcc, hU⟩ := List.filter_eq_cons_iff.1 hW'
      have hV' : code V = [] := List.filter_eq_nil_iff.2 hV
      have hbody : Balanced (W ++ V) := by
        refine ih _ (Nat.lt_of_le_of_lt ?_ hlt) _ rfl ?_
        · simp
        · rwa [code_append, hV', List.append_nil, code, hW]
      have hrest : Balanced U := by
        refine ih _ (Nat.lt_of_le_of_lt ?_ hlt) _ rfl (by rwa [code, hU])
        simp only [List.length_append, List.length_cons]
        omega
      rw [← List.append_assoc]
      exact .loop ho hc hbody hrest

theorem balanced_code_iff {xs : List Lexeme} : Balanced (code xs) ↔ Balanced xs :=
  ⟨balanced_of_code _ xs rfl, Balanced.code⟩

/-! ## The lexemes from a boundary -/

section Suffix

variable {cs : List Char}

/-- The lexemes read from a boundary end the lexemes of the text. -/
theorem Boundary.lex_eq {pos : Nat} {d : Bool} (hb : Boundary cs pos d) :
    ∃ A, lex cs = A ++ lexFrom cs pos d := by
  suffices h : ∀ b : Nat × Bool, Relation.ReflTransGen (Advance cs) (0, false) b →
      ∃ A, lex cs = A ++ lexFrom cs b.1 b.2 from h _ hb
  intro b hw
  induction hw with
  | refl => exact ⟨[], rfl⟩
  | tail _ hab ih =>
    obtain ⟨A, hA⟩ := ih
    obtain ⟨x, hx, hend⟩ := hab
    refine ⟨A ++ [x], ?_⟩
    rw [hA, lexFrom_of_readAt_some hx, ← hend]
    simp

/-- After a lexeme read from a place come the lexemes read after it. -/
theorem lexFrom_eq_append_cons {x : Lexeme} {Z : List Lexeme} :
    ∀ (Y : List Lexeme) (pos : Nat) (d : Bool), lexFrom cs pos d = Y ++ x :: Z →
      ∃ e e', Relation.ReflTransGen (Advance cs) (pos, d) (x.start, e) ∧
        readAt cs x.start e = some (x, e') ∧ Z = lexFrom cs (x.start + x.len) e'
  | Y, pos, d, h => by
    cases hr : readAt cs pos d with
    | none =>
      rw [lexFrom_of_readAt_none hr] at h
      cases Y <;> cases h
    | some r =>
      obtain ⟨y, d'⟩ := r
      rw [lexFrom_of_readAt_some hr] at h
      cases Y with
      | nil =>
        obtain ⟨rfl, rfl⟩ := List.cons.inj h
        have hs := start_of_readAt hr
        subst hs
        exact ⟨d, d', .refl, hr, rfl⟩
      | cons y' Y =>
        rw [List.cons_append] at h
        obtain ⟨rfl, h'⟩ := List.cons.inj h
        obtain ⟨e, e', hw, hx, hZ⟩ := lexFrom_eq_append_cons Y _ _ h'
        exact ⟨e, e', .head ⟨y, hr, rfl⟩ hw, hx, hZ⟩

end Suffix

/-! ## Seeking lands on code -/

section Seek

variable {cs : List Char}

/-- What outside comments is read at a character that is no delimiter is code, and leaves no
comment open. -/
theorem readAt_code {pos : Nat} {x : Lexeme} {d' : Bool} (h : pos < cs.length)
    (hc : cs[pos] ≠ commentMark) (hr : readAt cs pos false = some (x, d')) :
    isCode x = true ∧ d' = false := by
  rw [readAt_of_lt false h, Option.some.injEq, Prod.mk.injEq] at hr
  obtain ⟨rfl, rfl⟩ := hr
  generalize cs.drop (pos + 1) = rest
  rw [read.eq_def, if_neg hc, if_neg Bool.false_ne_true]
  split_ifs <;> (try cases rest) <;> simp [isCode]

/-- Seeking inside a comment passes over the whole text of the comment. -/
theorem seek_comment {pos : Nat} (h : pos < cs.length) (hc : cs[pos] ≠ commentMark) :
    Machine.seek cs.toArray pos true =
      Machine.seek cs.toArray (pos + (((cs.drop (pos + 1)).takeWhile (· != commentMark)).length + 1))
        true := by
  have hend := end_le_length_of_readAt (readAt_comment h hc)
  dsimp only at hend
  -- every character of the comment text moves the seek one place on
  suffices hi : ∀ i ≤ ((cs.drop (pos + 1)).takeWhile (· != commentMark)).length + 1,
      Machine.seek cs.toArray pos true = Machine.seek cs.toArray (pos + i) true from hi _ le_rfl
  intro i
  induction i with
  | zero => intro; rfl
  | succ i ih =>
    intro hi
    have hlt : pos + i < cs.length := by omega
    have hne := ne_commentMark_of_comment h hc (Nat.le_add_right pos i) (by omega) hlt
    rw [ih (by omega), Machine.seek_of_comment (by simpa using hlt) (by simpa using hne),
      Nat.add_assoc]

/-- Where seeking from `pos`, with the comment flag `d`, lands: on the first lexeme of code read
from there, with no comment open, or at the end of the text when only comments are left. -/
def SeekLands (cs : List Char) (pos : Nat) (d : Bool) : Prop :=
  (code (lexFrom cs pos d) = [] ∧ cs.length ≤ (Machine.seek cs.toArray pos d).1) ∨
    ∃ x, Machine.seek cs.toArray pos d = (x.start, false) ∧ isCode x = true ∧
      Relation.ReflTransGen (Advance cs) (pos, d) (x.start, false) ∧
      readAt cs x.start false = some (x, false) ∧
      code (lexFrom cs pos d) = x :: code (lexFrom cs (x.start + x.len) false)

/-- Passing over a lexeme that is not code, the seek and the lexer stay together. -/
theorem SeekLands.skip {pos : Nat} {d d' : Bool} {x : Lexeme} (hr : readAt cs pos d = some (x, d'))
    (hx : isCode x = false)
    (hs : Machine.seek cs.toArray pos d = Machine.seek cs.toArray (pos + x.len) d')
    (h : SeekLands cs (pos + x.len) d') : SeekLands cs pos d := by
  unfold SeekLands
  rw [lexFrom_of_readAt_some hr, code_cons_of_not_isCode _ hx, hs]
  rcases h with ⟨h₁, h₂⟩ | ⟨y, h₁, h₂, hw, h₃, h₄⟩
  · exact Or.inl ⟨h₁, h₂⟩
  · exact Or.inr ⟨y, h₁, h₂, (Relation.ReflTransGen.single ⟨x, hr, rfl⟩).trans hw, h₃, h₄⟩

/-- Seeking from any place lands where the lexer says. -/
theorem seek_lexFrom : ∀ (pos : Nat) (d : Bool), SeekLands cs pos d := by
  refine @walk_induction cs _ ?_ ?_
  · intro pos d hr
    have hle := readAt_eq_none_iff.1 hr
    left
    rw [lexFrom_of_readAt_none hr, Machine.seek_of_end (by simpa using hle)]
    exact ⟨rfl, hle⟩
  · intro pos d x d' hr ih
    have hlt : pos < cs.length := by
      refine Nat.lt_of_not_le fun hle => ?_
      rw [readAt_eq_none_iff.2 hle] at hr
      cases hr
    -- a delimiter and comment text are passed over alike by both; code stops both
    by_cases hc : cs[pos] = commentMark
    · rw [readAt_commentMark hlt d hc, Option.some.injEq, Prod.mk.injEq] at hr
      obtain ⟨rfl, rfl⟩ := hr
      exact .skip (readAt_commentMark hlt d hc) rfl
        (Machine.seek_of_mark (by simpa using hlt) (by simpa using hc)) ih
    cases d
    · have hs := start_of_readAt hr
      obtain ⟨hx, rfl⟩ := readAt_code hlt hc hr
      right
      refine ⟨x, ?_, hx, hs ▸ .refl, hs ▸ hr, ?_⟩
      · rw [hs, Machine.seek_of_code (by simpa using hlt) (by simpa using hc)]
      · rw [lexFrom_of_readAt_some hr, code_cons_of_isCode _ hx, hs]
    · rw [readAt_comment hlt hc, Option.some.injEq, Prod.mk.injEq] at hr
      obtain ⟨rfl, rfl⟩ := hr
      exact .skip (readAt_comment hlt hc) rfl (seek_comment hlt hc) ih

end Seek

end Lexeme

namespace Program

open Lexeme

/-- A loop of the code read from a boundary outside comments pairs its two brackets in the
program's map; the code after each bracket is read from a boundary outside comments. -/
theorem Checked.loop_of_code {cs : List Char} {limits : Limits} {p : Program}
    (hp : Checked cs limits p) {ip : Nat} (hb : Boundary cs ip false) {o c : Lexeme}
    {B R : List Lexeme} (h : code (lexFrom cs ip false) = o :: (B ++ c :: R))
    (ho : o.kind = .op '[') (hc : c.kind = .op ']') (hB : Balanced B) :
    p.brackets.partner o.start = some c.start ∧ p.brackets.partner c.start = some o.start ∧
      Boundary cs (o.start + 1) false ∧ code (lexFrom cs (o.start + 1) false) = B ++ c :: R ∧
      Boundary cs (c.start + 1) false ∧ code (lexFrom cs (c.start + 1) false) = R := by
  obtain ⟨A, hA⟩ := hb.lex_eq
  -- find the two brackets among all lexemes, comments included
  obtain ⟨Y, W, hYW, -, -, hW⟩ := List.filter_eq_cons_iff.1 h
  obtain ⟨W₁, W₂, rfl, hW₁, hW₂⟩ := List.filter_eq_append_iff.1 hW
  obtain ⟨V, U, rfl, hV, -, hU⟩ := List.filter_eq_cons_iff.1 hW₂
  have hV' : code V = [] := List.filter_eq_nil_iff.2 hV
  change code W₁ = B at hW₁
  change code U = R at hU
  have hbody : Balanced (W₁ ++ V) := by
    rw [← balanced_code_iff, code_append, hV', List.append_nil, hW₁]
    exact hB
  have hm : Matched (lex cs) o.start c.start :=
    ⟨A ++ Y, o, W₁ ++ V, c, U, by rw [hA, hYW]; simp, ho, hc, rfl, rfl, hbody⟩
  -- the lexemes after each bracket are read from the boundary right after it
  obtain ⟨e, e', hwo, hro, hWo⟩ := lexFrom_eq_append_cons Y ip false hYW
  obtain ⟨-, rfl, hlo⟩ := readAt_op_inv hro ho
  have hbo : Boundary cs (o.start + 1) false :=
    hlo ▸ Boundary.advance (show Boundary cs o.start e from hb.trans hwo) hro
  have hYc : lexFrom cs ip false = (Y ++ o :: (W₁ ++ V)) ++ c :: U := by rw [hYW]; simp
  obtain ⟨f, f', hwc, hrc, hUc⟩ := lexFrom_eq_append_cons _ ip false hYc
  obtain ⟨-, rfl, hlc⟩ := readAt_op_inv hrc hc
  refine ⟨(hp.brackets.partner _ _).2 (Or.inl hm), (hp.brackets.partner _ _).2 (Or.inr hm), hbo,
    ?_, hlc ▸ Boundary.advance (show Boundary cs c.start f from hb.trans hwc) hrc, ?_⟩
  · rw [← hlo, ← hWo]
    simp [hW₁, hV', code_cons_of_isCode _ (isCode_of_op hc), hU]
  · rw [← hlc, ← hUc, hU]

end Program
end GotoTape
