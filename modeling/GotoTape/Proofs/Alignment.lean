import GotoTape.Interpreter
import GotoTape.Proofs.Loop
import GotoTape.Proofs.Prescan
/-!
# The run loop stays in step with the lexer

The run loop does not use the lexer: it toggles the comment flag on delimiters, passes over
comment text a character at a time, and moves by its own rules, one character on, past an
operand, after a loop's partner or to a label's target. For a text that passed the pre-scan it
still never leaves the lexer's lexemes: at the top of every pass it stands at the end of the
text, at the start of a lexeme with the lexer's comment flag there, or inside the text of a
comment with the flag set (`Aligned`).

So the faults the pre-scan rules out never happen at run time: a dispatched loop bracket is a
bracket lexeme and has its partner, a dispatched label marker has its operand, and a run whose
pre-scan passed never ends on a static fault.

Main statements: `Aligned.tick` (every pass keeps the alignment) and `run_aligned`.
-/

namespace GotoTape
namespace Lexeme

/-! ## What the lexer reads at a boundary -/

section Read

variable {cs : List Char} {pos : Nat} {d d' : Bool} {x : Lexeme}

/-- An operator is read outside comments, is one character long and leaves no comment open. -/
theorem readAt_op_inv {c : Char} (h : readAt cs pos d = some (x, d')) (hk : x.kind = .op c) :
    d = false ∧ d' = false ∧ x.len = 1 := by
  obtain ⟨c', rest, -, rfl, rfl⟩ := exists_of_readAt h
  rw [read.eq_def] at hk ⊢
  split_ifs at hk ⊢ <;> (try cases rest) <;> simp_all

/-- A label definition with its label is read outside comments, is two characters long and
leaves no comment open. -/
theorem readAt_labelDef_inv {l : Char} (h : readAt cs pos d = some (x, d'))
    (hk : x.kind = .labelDef (some l)) : d = false ∧ d' = false ∧ x.len = 2 := by
  obtain ⟨c', rest, -, rfl, rfl⟩ := exists_of_readAt h
  rw [read.eq_def] at hk ⊢
  split_ifs at hk ⊢ <;> (try cases rest) <;> simp_all

/-- Comment text is read inside a comment and leaves it open. -/
theorem readAt_comment_inv (h : readAt cs pos d = some (x, d')) (hk : x.kind = .comment) :
    d = true ∧ d' = true ∧ pos < cs.length ∧ cs[pos]? ≠ some commentMark := by
  obtain ⟨c', rest, hd, rfl, rfl⟩ := exists_of_readAt h
  have hc : cs[pos]? = some c' := by
    have h0 := congrArg (fun l => l[0]?) hd
    simpa only [List.getElem?_drop, Nat.add_zero, List.getElem?_cons_zero] using h0
  have hpos : pos < cs.length := (List.getElem?_eq_some_iff.1 hc).1
  rw [read.eq_def] at hk ⊢
  split_ifs at hk ⊢ <;> (try cases rest) <;> simp_all

/-- A lexeme read at a boundary is a lexeme of the text. -/
theorem Boundary.mem_lex (hb : Boundary cs pos d) (hr : readAt cs pos d = some (x, d')) :
    x ∈ lex cs := by
  have hs := start_of_readAt hr
  subst hs
  exact mem_lex_iff.2 ⟨d, d', hb, hr⟩

end Read

section Lexemes

variable {cs : List Char} {x : Lexeme}

/-- The position after an operator of the text is a boundary outside comments. -/
theorem boundary_after_op {c : Char} (hx : x ∈ lex cs) (hk : x.kind = .op c) :
    Boundary cs (x.start + 1) false := by
  obtain ⟨d, d', hb, hr⟩ := mem_lex_iff.1 hx
  obtain ⟨-, rfl, hlen⟩ := readAt_op_inv hr hk
  exact hlen ▸ hb.advance hr

/-- The position after a label definition of the text is a boundary outside comments. -/
theorem boundary_after_labelDef {l : Char} (hx : x ∈ lex cs) (hk : x.kind = .labelDef (some l)) :
    Boundary cs (x.start + 2) false := by
  obtain ⟨d, d', hb, hr⟩ := mem_lex_iff.1 hx
  obtain ⟨-, rfl, hlen⟩ := readAt_labelDef_inv hr hk
  exact hlen ▸ hb.advance hr

/-- The position after the text of a comment is a boundary inside the comment. -/
theorem boundary_after_comment (hx : x ∈ lex cs) (hk : x.kind = .comment) :
    Boundary cs (x.start + x.len) true := by
  obtain ⟨d, d', hb, hr⟩ := mem_lex_iff.1 hx
  obtain ⟨-, rfl, -⟩ := readAt_comment_inv hr hk
  exact hb.advance hr

/-- The text of a comment holds no delimiter. -/
theorem ne_commentMark_of_mem_comment {i : Nat} (hx : x ∈ lex cs) (hk : x.kind = .comment)
    (h₁ : x.start ≤ i) (h₂ : i < x.start + x.len) (hi : i < cs.length) : cs[i] ≠ commentMark := by
  obtain ⟨d, d', -, hr⟩ := mem_lex_iff.1 hx
  obtain ⟨rfl, -, hlt, hne⟩ := readAt_comment_inv hr hk
  have hne' : cs[x.start] ≠ commentMark := by
    rwa [List.getElem?_eq_getElem hlt, ne_eq, Option.some.injEq] at hne
  rw [readAt_comment hlt hne', Option.some.injEq, Prod.mk.injEq] at hr
  rw [← hr.1] at h₂
  exact ne_commentMark_of_comment hlt hne' h₁ h₂ hi

/-- Outside comments, an operator or an inert character is one lexeme long. -/
theorem Boundary.next_plain {pos : Nat} (hb : Boundary cs pos false) (h : pos < cs.length)
    (hc : cs[pos] ≠ commentMark) (hl : cs[pos] ≠ labelMark) (hj : cs[pos] ≠ jumpMark) :
    Boundary cs (pos + 1) false := by
  cases ho : isOperator cs[pos]
  · exact hb.advance (readAt_inert h hc hl hj ho)
  · exact hb.advance (readAt_operator h ho)

end Lexemes

end Lexeme

namespace Program

open Lexeme

section Checked

variable {cs : List Char} {limits : Limits} {p : Program}

/-- A label marker outside comments in a scannable text has its operand. -/
theorem Scannable.succ_lt {pos : Nat} (hs : Scannable cs limits) (hb : Boundary cs pos false)
    (h : pos < cs.length) (hc : cs[pos] = labelMark ∨ cs[pos] = jumpMark) :
    pos + 1 < cs.length := by
  refine Nat.lt_of_not_le fun hle => ?_
  rcases hc with hc | hc
  · have hr := readAt_labelMark_last h hc hle
    have hlast := getLast?_lex_of_unlabelled (hb.mem_lex hr) (Or.inl rfl)
    exact (hs.labelled _ hlast).1 rfl
  · have hr := readAt_jumpMark_last h hc hle
    have hlast := getLast?_lex_of_unlabelled (hb.mem_lex hr) (Or.inr rfl)
    exact (hs.labelled _ hlast).2 rfl

/-- The partner of a position is a bracket of the text. -/
theorem Checked.partner_mem (hp : Checked cs limits p) {i j : Nat}
    (h : p.brackets.partner i = some j) : ∃ y ∈ lex cs, y.start = j ∧ ∃ c, y.kind = .op c := by
  rcases (hp.brackets.partner i j).1 h with hm | hm
  · obtain ⟨-, y, hy, hs, hk⟩ := hm.mem
    exact ⟨y, hy, hs, _, hk⟩
  · obtain ⟨⟨y, hy, hs, hk⟩, -⟩ := hm.mem
    exact ⟨y, hy, hs, _, hk⟩

/-- Every loop bracket of the text has a partner. -/
theorem Checked.partner_isSome (hp : Checked cs limits p) {x : Lexeme} (hx : x ∈ lex cs)
    (hk : x.kind = .op '[' ∨ x.kind = .op ']') : (p.brackets.partner x.start).isSome := by
  obtain ⟨ho, hc⟩ := hp.scannable.balanced.exists_matched hx
  rw [Option.isSome_iff_exists]
  rcases hk with hk | hk
  · obtain ⟨j, hj⟩ := ho hk
    exact ⟨j, (hp.brackets.partner _ _).2 (Or.inl hj)⟩
  · obtain ⟨i, hi⟩ := hc hk
    exact ⟨i, (hp.brackets.partner _ _).2 (Or.inr hi)⟩

/-- A label's target is the position after a definition of it. -/
theorem Checked.lookup_mem (hp : Checked cs limits p) {l : Char} {q : Nat}
    (h : p.labels.lookup l = some q) : ∃ y ∈ lex cs, y.kind = .labelDef (some l) ∧ q = y.start + 2 := by
  obtain ⟨A, y, B, he, hk, -, hq⟩ := (hp.labels.lookup l q).1 h
  exact ⟨y, by simp [he], hk, hq⟩

theorem Checked.getElem?_chars (hp : Checked cs limits p) (i : Nat) : p.chars[i]? = cs[i]? := by
  rw [hp.chars, List.getElem?_toArray]

/-- A dispatch at a boundary outside comments moves to a boundary outside comments. -/
theorem Checked.boundary_dispatch (hp : Checked cs limits p) {m m' : Machine} {c : Char} {row : Row}
    (hb : Boundary cs m.ip false) (hc : p.chars[m.ip]? = some c) (hne : c ≠ commentMark)
    (hd : Machine.dispatch p c m = .stepped row m') : Boundary cs m'.ip false := by
  rw [hp.getElem?_chars] at hc
  obtain ⟨hlt, rfl⟩ := List.getElem?_eq_some_iff.1 hc
  obtain ⟨-, -, hnext⟩ := Machine.dispatch_stepped hd
  rcases hnext with ⟨hl, hj, hip⟩ | ⟨-, j, hj, hip⟩ | ⟨hl, hip⟩ | ⟨hj, l, -, hq⟩
  · rw [hip]
    exact hb.next_plain hlt hne hl hj
  · obtain ⟨y, hy, rfl, _, hk⟩ := hp.partner_mem hj
    exact hip ▸ boundary_after_op hy hk
  · have h1 := hp.scannable.succ_lt hb hlt (Or.inl hl)
    rw [hip]
    exact hb.advance (readAt_labelMark hlt hl h1)
  · obtain ⟨y, hy, hk, hq⟩ := hp.lookup_mem hq
    exact hq ▸ boundary_after_labelDef hy hk

end Checked

end Program

/-! ## The alignment of the run loop -/

/-- Where the run loop may stand in a text: at its end; at the start of a lexeme, with the
lexer's comment flag there; or strictly inside the text of a comment, with the flag set. -/
def Aligned (cs : List Char) (ip : Nat) (inComment : Bool) : Prop :=
  ip = cs.length ∨
    (∃ x ∈ lex cs, x.start = ip) ∧ Lexeme.Boundary cs ip inComment ∨
    inComment = true ∧ ∃ x ∈ lex cs, x.kind = .comment ∧ x.start < ip ∧ ip < x.start + x.len

open Lexeme

section Aligned

variable {cs : List Char} {limits : Limits} {p : Program}

theorem Lexeme.Boundary.aligned {pos : Nat} {d : Bool} (hb : Boundary cs pos d) : Aligned cs pos d := by
  rcases Nat.lt_or_ge pos cs.length with h | h
  · obtain ⟨x, d', hr⟩ : ∃ x d', readAt cs pos d = some (x, d') := by
      cases hr : readAt cs pos d with
      | none => exact absurd (readAt_eq_none_iff.1 hr) (Nat.not_le_of_lt h)
      | some r => exact ⟨r.1, r.2, rfl⟩
    exact Or.inr (Or.inl ⟨⟨x, hb.mem_lex hr, start_of_readAt hr⟩, hb⟩)
  · exact Or.inl (Nat.le_antisymm hb.le_length h)

theorem Aligned.le_length {ip : Nat} {d : Bool} (ha : Aligned cs ip d) : ip ≤ cs.length := by
  rcases ha with h | ⟨-, hb⟩ | ⟨-, x, hx, -, -, h⟩
  · exact Nat.le_of_eq h
  · exact hb.le_length
  · obtain ⟨d, d', -, hr⟩ := mem_lex_iff.1 hx
    have := end_le_length_of_readAt hr
    omega

/-- Outside comments, the loop stands at a boundary whenever a character is left. -/
theorem Aligned.boundary {ip : Nat} (ha : Aligned cs ip false) (h : ip < cs.length) :
    Boundary cs ip false := by
  rcases ha with h' | ⟨-, hb⟩ | ⟨h', -⟩
  · omega
  · exact hb
  · cases h'

/-- Every pass keeps the loop aligned with the lexer. -/
theorem Aligned.tick (hp : Program.Checked cs limits p) {m m' : Machine}
    (ha : Aligned cs m.ip m.inComment) (ht : Machine.Tick p m m') : Aligned cs m'.ip m'.inComment := by
  cases ht with
  | toggle h =>
    rw [hp.getElem?_chars] at h
    obtain ⟨hlt, hc⟩ := List.getElem?_eq_some_iff.1 h
    rcases ha with h' | ⟨-, hb⟩ | ⟨-, x, hx, hk, h₁, h₂⟩
    · omega
    · exact (hb.advance (readAt_commentMark hlt _ hc)).aligned
    · exact absurd hc (ne_commentMark_of_mem_comment hx hk h₁.le h₂ hlt)
  | skip h hc hin =>
    rw [hp.getElem?_chars] at h
    obtain ⟨hlt, rfl⟩ := List.getElem?_eq_some_iff.1 h
    rcases ha with h' | ⟨-, hb⟩ | ⟨-, x, hx, hk, h₁, h₂⟩
    · omega
    · -- the comment text read here is one character long, or the loop moves inside it
      rw [hin] at hb
      have hr := readAt_comment hlt hc
      have hx := hb.mem_lex hr
      have hend := hb.advance hr
      dsimp only at hend hx ⊢
      by_cases hL : ((cs.drop (m.ip + 1)).takeWhile (· != commentMark)).length = 0
      · rw [hL] at hend
        exact hin ▸ hend.aligned
      · exact Or.inr (Or.inr ⟨hin, _, hx, rfl, Nat.lt_succ_self _, by dsimp only; omega⟩)
    · by_cases he : m.ip + 1 = x.start + x.len
      · dsimp only
        rw [he, hin]
        exact (boundary_after_comment hx hk).aligned
      · dsimp only
        exact Or.inr (Or.inr ⟨hin, x, hx, hk, by omega, by omega⟩)
  | dispatch h hc hin hd =>
    obtain ⟨hflag, -⟩ := Machine.dispatch_stepped hd
    have hlt : m.ip < cs.length := by
      rw [hp.getElem?_chars] at h
      exact (List.getElem?_eq_some_iff.1 h).1
    rw [hflag, hin]
    exact (hp.boundary_dispatch ((hin ▸ ha).boundary hlt) h hc hd).aligned

/-- Every machine the passes reach from the start of the text is aligned. -/
theorem Program.Checked.aligned_of_ticks (hp : Program.Checked cs limits p) {m₀ m : Machine}
    (h₀ : m₀.ip = 0) (hc₀ : m₀.inComment = false) (h : Relation.ReflTransGen (Machine.Tick p) m₀ m) :
    Aligned cs m.ip m.inComment := by
  induction h with
  | refl => rw [h₀, hc₀]; exact Boundary.start.aligned
  | tail _ ht ih => exact ih.tick hp ht

/-- Where an aligned loop dispatches a loop bracket, it stands on a bracket of the text that has
a partner; where it dispatches a label marker, the marker has its operand. -/
theorem Program.Checked.dispatch_point (hp : Program.Checked cs limits p) {ip : Nat} {c : Char}
    (ha : Aligned cs ip false) (hc : p.chars[ip]? = some c) (hne : c ≠ commentMark) :
    ((c = '[' ∨ c = ']') → (∃ x ∈ lex cs, x.start = ip ∧ x.kind = .op c) ∧
        (p.brackets.partner ip).isSome) ∧
      ((c = labelMark ∨ c = jumpMark) → ip + 1 < cs.length) := by
  rw [hp.getElem?_chars] at hc
  obtain ⟨hlt, rfl⟩ := List.getElem?_eq_some_iff.1 hc
  have hb := ha.boundary hlt
  refine ⟨fun hbr => ?_, fun hmk => hp.scannable.succ_lt hb hlt hmk⟩
  have hop : isOperator cs[ip] = true := by
    rcases hbr with h | h <;> simp [h, isOperator]
  have hr := readAt_operator hlt hop
  have hx := hb.mem_lex hr
  refine ⟨⟨_, hx, rfl, rfl⟩, hp.partner_isSome hx ?_⟩
  rcases hbr with h | h <;> simp [h]

end Aligned

/-- For a text that passes the pre-scan, the run loop stays aligned with the lexer at the top of
every pass, from any start at the beginning of the text: it never passes the end, and it stands
at the end, at the start of a lexeme with the lexer's comment flag, or inside a comment with the
flag set. So every loop bracket it dispatches is a bracket lexeme with a partner, every label
marker it dispatches has its operand, and no run of an interpreter holding that text ends on a
fault of the pre-scan's kinds. -/
theorem run_aligned {cs : List Char} {limits : Limits} {p : Program}
    (hp : Program.check cs limits = .ok p) :
    (∀ m₀ m : Machine, m₀.ip = 0 → m₀.inComment = false →
      Relation.ReflTransGen (Machine.Tick p) m₀ m →
        m.ip ≤ cs.length ∧ Aligned cs m.ip m.inComment ∧
          ∀ c, p.chars[m.ip]? = some c → c ≠ commentMark → m.inComment = false →
            ((c = '[' ∨ c = ']') → (∃ x ∈ lex cs, x.start = m.ip ∧ x.kind = .op c) ∧
                (p.brackets.partner m.ip).isSome) ∧
              ((c = labelMark ∨ c = jumpMark) → m.ip + 1 < cs.length)) ∧
      ∀ (it : Interpreter) (ctl : Control) (w : Watch) (f : Fault),
        it.code.toList = cs → it.limits = limits →
          (it.execute ctl w).1.outcome = .fault f → f.isStatic = false := by
  have hc := Program.Checked.of_check hp
  refine ⟨fun m₀ m h₀ hc₀ hm => ?_, fun it ctl w f hcode hlim hout => ?_⟩
  · have ha := hc.aligned_of_ticks h₀ hc₀ hm
    refine ⟨ha.le_length, ha, fun c hch hne hin => ?_⟩
    rw [hin] at ha
    exact hc.dispatch_point ha hch hne
  subst hcode hlim
  rw [(Interpreter.execute_of_check hp ctl w).1] at hout
  rcases hr : Machine.run p ctl w.note {} it.start with ⟨o, m', r⟩
  rw [hr] at hout
  dsimp only at hout
  subst hout
  -- the fault comes from a step at a machine the passes reach
  obtain ⟨m₁, ht, hs⟩ := Machine.runFor_fault hr
  obtain ⟨rfl, hlt, hcause⟩ := Machine.step_faulted hs
  rcases hcause with hctl | ⟨-, hd⟩
  · exact Control.isStatic_of_check hctl
  have hreach := ht.trans (Machine.ticks_seekFrom m₁)
  obtain ⟨hnc, hin⟩ := Machine.seekFrom_stop m₁ hlt
  have ha := hc.aligned_of_ticks rfl rfl hreach
  rw [hin] at ha
  have hpoint := hc.dispatch_point ha (Array.getElem?_eq_getElem hlt) hnc
  obtain ⟨-, hf | ⟨hbr, hnone⟩ | ⟨hmk, hnone⟩⟩ := Machine.dispatch_faulted hd
  · exact hf
  · have := (hpoint.1 hbr).2
    rw [hnone] at this
    cases this
  · have h1 := hpoint.2 hmk
    rw [hc.getElem?_chars, List.getElem?_eq_none_iff] at hnone
    omega

/-- The lexemes of the text of a loop that counts a cell down. -/
theorem lex_countdown :
    lex ['+', '[', '-', ']'] = [⟨0, 1, .op '+'⟩, ⟨1, 1, .op '['⟩, ⟨2, 1, .op '-'⟩, ⟨3, 1, .op ']'⟩] := by
  simp [lex, Lexeme.scan_cons, Lexeme.read, Lexeme.scan.eq_1, commentMark, labelMark, jumpMark,
    isOperator]

/-- The program of that text, with its two brackets paired. -/
theorem check_countdown :
    Program.check ['+', '[', '-', ']'] {} =
      .ok ⟨#['+', '[', '-', ']'], ⟨#[none, some 3, none, some 1], []⟩, ⟨20, #[]⟩⟩ := by
  rw [Program.check, Program.scan, lex_countdown]
  rfl

/-- The loop that counts a cell down passes the pre-scan, and its runs stay aligned. -/
theorem countdown_aligned :
    ∃ p, Program.check ['+', '[', '-', ']'] {} = .ok p ∧
      (∀ m₀ m : Machine, m₀.ip = 0 → m₀.inComment = false →
        Relation.ReflTransGen (Machine.Tick p) m₀ m →
          m.ip ≤ 4 ∧ Aligned ['+', '[', '-', ']'] m.ip m.inComment ∧
            ∀ c, p.chars[m.ip]? = some c → c ≠ commentMark → m.inComment = false →
              ((c = '[' ∨ c = ']') →
                  (∃ x ∈ lex ['+', '[', '-', ']'], x.start = m.ip ∧ x.kind = .op c) ∧
                  (p.brackets.partner m.ip).isSome) ∧
                ((c = labelMark ∨ c = jumpMark) → m.ip + 1 < 4)) ∧
        ∀ (it : Interpreter) (ctl : Control) (w : Watch) (f : Fault),
          it.code.toList = ['+', '[', '-', ']'] → it.limits = {} →
            (it.execute ctl w).1.outcome = .fault f → f.isStatic = false :=
  ⟨_, check_countdown, run_aligned check_countdown⟩

end GotoTape
