import GotoTape.Proofs.Control
import GotoTape.Proofs.Erase
import GotoTape.Proofs.FaultSite
import GotoTape.Proofs.Trace
/-!
# Runs of a text with comments or inert characters deleted

Deleting the comments of a text changes nothing but where its instructions stand: the text left
runs the same steps with the same effect on tape and channels, under any control, and a fault
names the moved place of the instruction at fault. Deleting the inert characters as well saves
the steps that passed over them: the text left waits while the text passes over an inert
character, and otherwise moves with it, so that its unlimited run ends exactly when the text's
does, the same way.

A machine at a boundary of the text is tied to one at the place where that boundary lands in the
text left (`Erased`). From there a step of the text that dispatches a kept lexeme is followed by a
step of the text left that ends alike (`Follows`, `Erased.step_kept`), and one that dispatches a
deleted inert character by none (`Erased.step_dropped`).

Main statements: `Erased.runFor_lockstep`, `Erased.runFor_forward`, `Erased.runFor_backward` and
`erased_text_runs_alike`.
-/

namespace GotoTape

open Lexeme Program

/-! ## Places moved -/

/-- A fault with the place it names moved by `φ`. -/
def Fault.mapIp (φ : Nat → Nat) : Fault → Fault
  | .programTooLong size capacity => .programTooLong size capacity
  | .missingLabel ip marker => .missingLabel (φ ip) marker
  | .unbalanced ip side => .unbalanced (φ ip) side
  | .labelTableFull ip label capacity => .labelTableFull (φ ip) label capacity
  | .unknownLabel ip label => .unknownLabel (φ ip) label
  | .tapeBounds ip ptr op => .tapeBounds (φ ip) ptr op
  | .bufferFull channel capacity ip => .bufferFull channel capacity (ip.map φ)
  | .stepLimit limit => .stepLimit limit
  | .cancelled => .cancelled

/-- An outcome with the place of its fault moved by `φ`. -/
def Outcome.mapIp (φ : Nat → Nat) : Outcome → Outcome
  | .finished => .finished
  | .fault f => .fault (f.mapIp φ)
  | .outOfFuel => .outOfFuel

@[simp] theorem Outcome.mapIp_eq_outOfFuel {φ : Nat → Nat} {o : Outcome} :
    o.mapIp φ = .outOfFuel ↔ o = .outOfFuel := by
  cases o <;> simp [Outcome.mapIp]

/-- The faults of the control name no place. -/
theorem Control.mapIp_check {ctl : Control} {s : Nat} {f : Fault} (h : ctl.check s = some f)
    (φ : Nat → Nat) : f.mapIp φ = f := by
  rcases Control.check_eq_some h with rfl | ⟨k, rfl⟩ <;> rfl

namespace Machine

/-- Two machines alike in everything a run changes but its place and its count: tape, input,
output and end-of-input policy. -/
structure Alike (m m' : Machine) : Prop where
  tape : m'.tape = m.tape
  input : m'.input = m.input
  output : m'.output = m.output
  eof : m'.eof = m.eof

theorem Alike.seek {m m' : Machine} (h : Alike m m') (p q : Program) :
    Alike (seekFrom p m) (seekFrom q m') :=
  ⟨h.tape, h.input, h.output, h.eof⟩

/-- Alike machines stay alike put at any places outside comments. -/
theorem Alike.place {m m' : Machine} (h : Alike m m') (i i' : Nat) :
    Alike { m with ip := i, inComment := false } { m' with ip := i', inComment := false } :=
  ⟨h.tape, h.input, h.output, h.eof⟩

/-- A run that ended ends the same way on more fuel. -/
theorem runFor_succ_of_stopped {σ : Type} {p : Program} {ctl : Control} {watch : σ → Row → σ} :
    ∀ {n : Nat} {acc : σ} {m : Machine}, (runFor p ctl watch n acc m).1 ≠ .outOfFuel →
      runFor p ctl watch (n + 1) acc m = runFor p ctl watch n acc m
  | 0, _, _, h => absurd rfl h
  | n + 1, acc, m, h => by
    unfold runFor at h ⊢
    cases hs : step p ctl m with
    | halted m' => rfl
    | faulted f m' => rfl
    | stepped row m' =>
      rw [hs] at h
      exact runFor_succ_of_stopped h

end Machine

open Machine

/-! ## The simulation -/

/-- Machine `m` runs the text `cs` and `m'` the text left once `keep` deletes lexemes, at the
place where `m`'s lands: `m` stands at a boundary outside comments, and the two are alike. -/
structure Erased (keep : Lexeme → Bool) (cs : List Char) (m m' : Machine) : Prop where
  boundary : Boundary cs m.ip false
  inComment : m.inComment = false
  inComment' : m'.inComment = false
  ip : m'.ip = erasePos keep cs m.ip
  alike : Alike m m'

/-- How a step of the text left follows a step of the text, from machines that counted `s` and
`s'` steps: both halt, or both fault with the fault's place moved, at alike machines that count
no step; or both step, each counting one, into erased machines. -/
inductive Follows (keep : Lexeme → Bool) (cs : List Char) (s s' : Nat) : Step → Step → Prop
  | halted {m m' : Machine} (h : Alike m m') (hs : m.steps = s) (hs' : m'.steps = s') :
      Follows keep cs s s' (.halted m) (.halted m')
  | faulted {f f' : Fault} {m m' : Machine} (hf : f' = f.mapIp (erasePos keep cs))
      (h : Alike m m') (hs : m.steps = s) (hs' : m'.steps = s') :
      Follows keep cs s s' (.faulted f m) (.faulted f' m')
  | stepped {row row' : Row} {m m' : Machine} (h : Erased keep cs m m') (hs : m.steps = s + 1)
      (hs' : m'.steps = s' + 1) : Follows keep cs s s' (.stepped row m) (.stepped row' m')

/-! ## One instruction in both texts -/

section Dispatch

variable {keep : Lexeme → Bool} {cs : List Char} {p q : Program} {m m' : Machine}

/-- An inert character only counts a step. -/
theorem Machine.dispatch_inert {c : Char} (hl : c ≠ labelMark) (hj : c ≠ jumpMark)
    (ho : isOperator c = false) :
    dispatch p c m =
      .stepped (m.rowAt m.ip c .nothing) { m with ip := m.ip + 1, steps := m.steps + 1 } := by
  simp only [isOperator, Bool.or_eq_false_iff, beq_eq_false_iff_ne, ne_eq] at ho
  obtain ⟨⟨⟨⟨⟨⟨⟨h₁, h₂⟩, h₃⟩, h₄⟩, h₅⟩, h₆⟩, h₇⟩, h₈⟩ := ho
  exact dispatch_plain h₁ h₂ h₃ h₄ h₅ h₆ h₇ h₈ hl hj

/-- An instruction that moves the head, changes the cell, reads, writes or does nothing does the
same in both texts and goes on at the next place. -/
theorem Follows.dispatch_local {c : Char} (h₇ : c ≠ '[') (h₈ : c ≠ ']') (h₉ : c ≠ labelMark)
    (h₁₀ : c ≠ jumpMark) (ha : Alike m m') (hin : m.inComment = false)
    (hin' : m'.inComment = false) (hip : m'.ip = erasePos keep cs m.ip)
    (hb : Boundary cs (m.ip + 1) false) (hnext : m'.ip + 1 = erasePos keep cs (m.ip + 1)) :
    Follows keep cs m.steps m'.steps (dispatch p c m) (dispatch q c m') := by
  rcases char_cases c with rfl | rfl | rfl | rfl | rfl | rfl | rfl | rfl | rfl | rfl |
    ⟨h₁, h₂, h₃, h₄, h₅, h₆, -, -, -, -⟩
  -- a move of the head, either way
  case inl | inr.inl =>
    rw [dispatch_move (by simp), dispatch_move (by simp), ha.tape]
    cases m.tape.shift _ with
    | none => exact .faulted (by rw [hip]; rfl) ha rfl rfl
    | some t => exact .stepped ⟨hb, hin, hin', hnext, rfl, ha.input, ha.output, ha.eof⟩ rfl rfl
  · rw [dispatch_increment, dispatch_increment]
    exact .stepped ⟨hb, hin, hin', hnext, congrArg Tape.increment ha.tape, ha.input, ha.output,
      ha.eof⟩ rfl rfl
  · rw [dispatch_decrement, dispatch_decrement]
    exact .stepped ⟨hb, hin, hin', hnext, congrArg Tape.decrement ha.tape, ha.input, ha.output,
      ha.eof⟩ rfl rfl
  · rw [dispatch_output, dispatch_output, ha.output, ha.tape]
    by_cases hf : m.output.isFull
    · rw [if_pos hf, if_pos hf]
      exact .faulted (by rw [hip]; rfl) ha rfl rfl
    · rw [if_neg hf, if_neg hf]
      exact .stepped ⟨hb, hin, hin', hnext, rfl, ha.input, rfl, ha.eof⟩ rfl rfl
  · -- a read: both take the same byte from the same input
    rcases hn : m.input.next with ⟨_ | b, rest⟩
    · have hn' : m'.input.next = (none, rest) := by rw [ha.input, hn]
      cases he : m.eof with
      | zero =>
        rw [dispatch_input_zero hn he, dispatch_input_zero hn' (ha.eof.trans he)]
        exact .stepped ⟨hb, hin, hin', hnext, congrArg (Tape.write · 0) ha.tape, rfl, ha.output,
          ha.eof⟩ rfl rfl
      | unchanged =>
        rw [dispatch_input_unchanged hn he, dispatch_input_unchanged hn' (ha.eof.trans he)]
        exact .stepped ⟨hb, hin, hin', hnext, ha.tape, rfl, ha.output, ha.eof⟩ rfl rfl
    · have hn' : m'.input.next = (some b, rest) := by rw [ha.input, hn]
      rw [dispatch_input_byte hn, dispatch_input_byte hn']
      exact .stepped ⟨hb, hin, hin', hnext, congrArg (Tape.write · b) ha.tape, rfl, ha.output,
        ha.eof⟩ rfl rfl
  · exact absurd rfl h₇
  · exact absurd rfl h₈
  · exact absurd rfl h₉
  · exact absurd rfl h₁₀
  · rw [dispatch_plain h₁ h₂ h₃ h₄ h₅ h₆ h₇ h₈ h₉ h₁₀, dispatch_plain h₁ h₂ h₃ h₄ h₅ h₆ h₇ h₈ h₉ h₁₀]
    exact .stepped ⟨hb, hin, hin', hnext, ha.tape, ha.input, ha.output, ha.eof⟩ rfl rfl

/-- A loop bracket whose partner moves with it does the same in both texts. -/
theorem Follows.dispatch_bracket {c : Char} (hc : c = '[' ∨ c = ']') (ha : Alike m m')
    (hin : m.inComment = false) (hin' : m'.inComment = false)
    (hb : Boundary cs (m.ip + 1) false) (hnext : m'.ip + 1 = erasePos keep cs (m.ip + 1))
    {j : Nat} (hj : p.brackets.partner m.ip = some j)
    (hj' : q.brackets.partner m'.ip = some (erasePos keep cs j)) (hbj : Boundary cs (j + 1) false)
    (hnextj : erasePos keep cs j + 1 = erasePos keep cs (j + 1)) :
    Follows keep cs m.steps m'.steps (dispatch p c m) (dispatch q c m') := by
  have hread : m'.tape.read = m.tape.read := by rw [ha.tape]
  have hjump : Erased keep cs { m with ip := j + 1, steps := m.steps + 1 }
      { m' with ip := erasePos keep cs j + 1, steps := m'.steps + 1 } :=
    ⟨hbj, hin, hin', hnextj, ha.tape, ha.input, ha.output, ha.eof⟩
  have hon : Erased keep cs { m with ip := m.ip + 1, steps := m.steps + 1 }
      { m' with ip := m'.ip + 1, steps := m'.steps + 1 } :=
    ⟨hb, hin, hin', hnext, ha.tape, ha.input, ha.output, ha.eof⟩
  rcases hc with rfl | rfl
  · by_cases h0 : m.tape.read = 0
    · rw [dispatch_open_skip h0 hj, dispatch_open_skip (hread.trans h0) hj']
      exact .stepped hjump rfl rfl
    · rw [dispatch_open_enter h0, dispatch_open_enter (hread ▸ h0)]
      exact .stepped hon rfl rfl
  · by_cases h0 : m.tape.read = 0
    · rw [dispatch_close_exit h0, dispatch_close_exit (hread.trans h0)]
      exact .stepped hon rfl rfl
    · rw [dispatch_close_repeat h0 hj, dispatch_close_repeat (hread ▸ h0) hj']
      exact .stepped hjump rfl rfl

/-- A label definition does the same in both texts. -/
theorem Follows.dispatch_labelMark (ha : Alike m m') (hin : m.inComment = false)
    (hin' : m'.inComment = false) {l : Char} (hl : p.chars[m.ip + 1]? = some l)
    (hl' : q.chars[m'.ip + 1]? = some l) (hb : Boundary cs (m.ip + 2) false)
    (hnext : m'.ip + 2 = erasePos keep cs (m.ip + 2)) :
    Follows keep cs m.steps m'.steps (dispatch p labelMark m) (dispatch q labelMark m') := by
  rw [Machine.dispatch_labelMark hl, Machine.dispatch_labelMark hl']
  exact .stepped ⟨hb, hin, hin', hnext, ha.tape, ha.input, ha.output, ha.eof⟩ rfl rfl

/-- A jump does the same in both texts when its label leads to moved targets, or to none. -/
theorem Follows.dispatch_jumpMark (ha : Alike m m') (hin : m.inComment = false)
    (hin' : m'.inComment = false) (hip : m'.ip = erasePos keep cs m.ip) {l : Char}
    (hl : p.chars[m.ip + 1]? = some l) (hl' : q.chars[m'.ip + 1]? = some l)
    (ht : (∃ t, p.labels.lookup l = some t ∧ q.labels.lookup l = some (erasePos keep cs t) ∧
        Boundary cs t false) ∨ (p.labels.lookup l = none ∧ q.labels.lookup l = none)) :
    Follows keep cs m.steps m'.steps (dispatch p jumpMark m) (dispatch q jumpMark m') := by
  rcases ht with ⟨t, ht, ht', hb⟩ | ⟨ht, ht'⟩
  · rw [Machine.dispatch_jumpMark hl ht, Machine.dispatch_jumpMark hl' ht']
    exact .stepped ⟨hb, hin, hin', rfl, ha.tape, ha.input, ha.output, ha.eof⟩ rfl rfl
  · rw [dispatch_jumpMark_unknown hl ht, dispatch_jumpMark_unknown hl' ht']
    exact .faulted (by rw [hip]; rfl) ha rfl rfl

end Dispatch

/-! ## Kept lexemes -/

section Kept

variable {keep : Lexeme → Bool} {cs : List Char} {limits : Limits} {p q : Program}

/-- A kept lexeme of code stands at a boundary, where it is read, and the place right after it is
a boundary that lands right after the moved lexeme. -/
theorem next_of_kept {y : Lexeme} (hy : y ∈ lex cs) (hc : isCode y = true) (hk : keep y = true) :
    Boundary cs (y.start + y.len) false ∧
      erasePos keep cs y.start + y.len = erasePos keep cs (y.start + y.len) := by
  obtain ⟨hb, hr, -⟩ := mem_lex_code hy hc
  exact ⟨hb.advance hr, (hb.erasePos_kept hr hk).symm⟩

/-- After an operator of the text comes a boundary, which lands right after the moved operator. -/
theorem Spares.next_of_op (hs : Spares keep) {y : Lexeme} {c : Char} (hy : y ∈ lex cs)
    (hk : y.kind = .op c) :
    Boundary cs (y.start + 1) false ∧
      erasePos keep cs y.start + 1 = erasePos keep cs (y.start + 1) := by
  have hc := isCode_of_op hk
  have hl := (readAt_op_inv (mem_lex_code hy hc).2.1 hk).2.2
  obtain ⟨hb, hnext⟩ := next_of_kept hy hc (hs.op y c hk)
  rw [hl] at hb hnext
  exact ⟨hb, hnext⟩

/-- After a label definition of the text comes a boundary, which lands right after the moved
definition. -/
theorem Spares.next_of_labelDef (hs : Spares keep) {y : Lexeme} {l : Char} (hy : y ∈ lex cs)
    (hk : y.kind = .labelDef (some l)) :
    Boundary cs (y.start + 2) false ∧
      erasePos keep cs y.start + 2 = erasePos keep cs (y.start + 2) := by
  have hc : isCode y = true := by simp [isCode, hk]
  have hl := (readAt_labelDef_inv (mem_lex_code hy hc).2.1 hk).2.2
  obtain ⟨hb, hnext⟩ := next_of_kept hy hc (hs.labelDef y _ hk)
  rw [hl] at hb hnext
  exact ⟨hb, hnext⟩

/-- A loop bracket of a text that passes the pre-scan has a partner. -/
theorem Program.Checked.partner_of_bracket (hp : Checked cs limits p) {x : Lexeme} (hx : x ∈ lex cs)
    (hk : x.kind = .op '[' ∨ x.kind = .op ']') : ∃ j, p.brackets.partner x.start = some j := by
  obtain ⟨ho, hc⟩ := hp.scannable.balanced.exists_matched hx
  rcases hk with hk | hk
  · obtain ⟨j, hj⟩ := ho hk
    exact ⟨j, (hp.brackets.partner _ _).2 (Or.inl hj)⟩
  · obtain ⟨i, hi⟩ := hc hk
    exact ⟨i, (hp.brackets.partner _ _).2 (Or.inr hi)⟩

/-- The label after a marker of the text is the label after the moved marker in the text left. -/
theorem Program.Checked.operand_erase (hs : Spares keep) (hp : Checked cs limits p)
    (hq : Checked (erase keep cs) limits q) {x : Lexeme} {l : Char} (hx : x ∈ lex cs)
    (hl : x.kind = .labelDef (some l) ∨ x.kind = .jump (some l)) :
    p.chars[x.start + 1]? = some l ∧ q.chars[erasePos keep cs x.start + 1]? = some l := by
  have hc : isCode x = true := by rcases hl with hl | hl <;> simp [isCode, hl]
  have hk : keep x = true := by
    rcases hl with hl | hl
    · exact hs.labelDef x _ hl
    · exact hs.jump x _ hl
  obtain ⟨-, hr, -⟩ := mem_lex_code hx hc
  obtain ⟨-, hr', -⟩ := mem_lex_code (mem_lex_erase hs hp.scannable hx hk) hc
  refine ⟨?_, ?_⟩
  · rw [hp.chars, List.getElem?_toArray]
    exact readAt_operand hr hl
  · rw [hq.chars, List.getElem?_toArray]
    exact readAt_operand hr' hl

variable {m m' : Machine}

/-- An operator does the same in both texts: a loop bracket jumps to its partner, which moves
with it, and any other operator acts alike on the tape or the channels. -/
theorem Follows.dispatch_op (hs : Spares keep) (hp : Checked cs limits p)
    (hq : Checked (erase keep cs) limits q) {x : Lexeme} {c : Char} (hx : x ∈ lex cs)
    (hkind : x.kind = .op c) (ho : isOperator c = true) (ha : Alike m m') :
    Follows keep cs m.steps m'.steps (dispatch p c { m with ip := x.start, inComment := false })
      (dispatch q c { m' with ip := erasePos keep cs x.start, inComment := false }) := by
  obtain ⟨hbn, hnext⟩ := hs.next_of_op hx hkind
  have ha₀ := ha.place x.start (erasePos keep cs x.start)
  by_cases hbr : c = '[' ∨ c = ']'
  · obtain ⟨j, hj⟩ := hp.partner_of_bracket hx (by rcases hbr with rfl | rfl <;> simp [hkind])
    obtain ⟨hj', y, hy, rfl, hyk⟩ := hp.partner_erase hs hq hj
    obtain ⟨hbj, hnextj⟩ : Boundary cs (y.start + 1) false ∧
        erasePos keep cs y.start + 1 = erasePos keep cs (y.start + 1) := by
      rcases hyk with hyk | hyk <;> exact hs.next_of_op hy hyk
    exact Follows.dispatch_bracket hbr ha₀ rfl rfl hbn hnext hj hj' hbj hnextj
  · simp only [not_or] at hbr
    have hmarks := ne_of_isOperator ho
    exact Follows.dispatch_local hbr.1 hbr.2 hmarks.2.1 hmarks.2.2 ha₀ rfl rfl rfl hbn hnext

/-- A jump does the same in both texts: its label leads to two past its first definition, which
is kept and moves, or it leads nowhere in either. -/
theorem Follows.dispatch_jump (hs : Spares keep) (hp : Checked cs limits p)
    (hq : Checked (erase keep cs) limits q) {x : Lexeme} {l : Char} (hx : x ∈ lex cs)
    (hkind : x.kind = .jump (some l)) (ha : Alike m m') :
    Follows keep cs m.steps m'.steps
      (dispatch p jumpMark { m with ip := x.start, inComment := false })
      (dispatch q jumpMark { m' with ip := erasePos keep cs x.start, inComment := false }) := by
  obtain ⟨hl, hl'⟩ := hp.operand_erase hs hq hx (Or.inr hkind)
  have ha₀ := ha.place x.start (erasePos keep cs x.start)
  refine Follows.dispatch_jumpMark ha₀ rfl rfl rfl hl hl' ?_
  cases ht : p.labels.lookup l with
  | none => exact Or.inr ⟨rfl, hp.lookup_erase_none hs hq ht⟩
  | some t =>
    obtain ⟨y, hy, hyk, rfl, ht'⟩ := hp.lookup_erase hs hq ht
    obtain ⟨hby, hnexty⟩ := hs.next_of_labelDef hy hyk
    exact Or.inl ⟨y.start + 2, rfl, by rw [ht', ← hnexty], hby⟩

/-- A kept lexeme of code does the same in both texts, dispatched where it stands in the text and
where it moved to in the text left. -/
theorem Follows.dispatch_kept (hs : Spares keep) (hp : Checked cs limits p)
    (hq : Checked (erase keep cs) limits q) {x : Lexeme} (hx : x ∈ lex cs) (hc : isCode x = true)
    (hk : keep x = true) (ha : Alike m m') :
    Follows keep cs m.steps m'.steps
      (dispatch p x.instr { m with ip := x.start, inComment := false })
      (dispatch q x.instr { m' with ip := erasePos keep cs x.start, inComment := false }) := by
  obtain ⟨-, hr, -⟩ := mem_lex_code hx hc
  obtain ⟨hsp, -, hlen⟩ := spelled_of_readAt hr hc (hp.scannable.labelled_mem hx).1
    (hp.scannable.labelled_mem hx).2
  have ha₀ := ha.place x.start (erasePos keep cs x.start)
  -- one case for each kind of lexeme that reads back from its spelling
  generalize hkind : x.kind = k at hsp hlen
  cases hsp with
  | @op c ho =>
    rw [show x.instr = c by simp [Lexeme.instr, hkind]]
    exact Follows.dispatch_op hs hp hq hx hkind ho ha
  | labelDef l =>
    rw [show x.instr = labelMark by simp [Lexeme.instr, hkind]]
    obtain ⟨hl, hl'⟩ := hp.operand_erase hs hq hx (Or.inl hkind)
    obtain ⟨hbn, hnext⟩ := hs.next_of_labelDef hx hkind
    exact Follows.dispatch_labelMark ha₀ rfl rfl hl hl' hbn hnext
  | jump l =>
    rw [show x.instr = jumpMark by simp [Lexeme.instr, hkind]]
    exact Follows.dispatch_jump hs hp hq hx hkind ha
  | @inert c hc₁ hl hj ho =>
    obtain ⟨hbn, hnext⟩ := next_of_kept hx hc hk
    rw [show x.len = 1 by simpa [spell] using hlen] at hbn hnext
    rw [show x.instr = c by simp [Lexeme.instr, hkind], dispatch_inert hl hj ho,
      dispatch_inert hl hj ho]
    exact .stepped ⟨hbn, rfl, rfl, hnext, ha.tape, ha.input, ha.output, ha.eof⟩ rfl rfl

end Kept

/-! ## Steps -/

section Steps

variable {keep : Lexeme → Bool} {cs : List Char} {limits : Limits} {p q : Program} {m m' : Machine}

/-- A step from a place outside comments: with no code left it halts where seeking ends;
otherwise it lands on the first lexeme of code left, asks the control there and, unless the
control stops it, dispatches that lexeme. -/
theorem Program.Checked.step_at (hp : Checked cs limits p) (hin : m.inComment = false)
    (ctl : Control) :
    (code (lexFrom cs m.ip false) = [] ∧ step p ctl m = .halted (seekFrom p m)) ∨
      ∃ x, code (lexFrom cs m.ip false) = x :: code (lexFrom cs (x.start + x.len) false) ∧
        Relation.ReflTransGen (Advance cs) (m.ip, false) (x.start, false) ∧
        readAt cs x.start false = some (x, false) ∧ isCode x = true ∧
        (∀ f, ctl.check m.steps = some f →
          step p ctl m = .faulted f { m with ip := x.start, inComment := false }) ∧
        (ctl.check m.steps = none →
          step p ctl m = dispatch p x.instr { m with ip := x.start, inComment := false }) := by
  rcases @seek_lexFrom cs m.ip false with ⟨hnil, hle⟩ | ⟨x, hseek, hx, hw, hr, hcode⟩
  · refine Or.inl ⟨hnil, step_of_end ?_⟩
    simpa only [seekFrom, hp.chars, hin, List.size_toArray] using hle
  · have hseek' : seekFrom p m = { m with ip := x.start, inComment := false } := by
      simp only [seekFrom, hp.chars, hin, hseek]
    have hget : cs[x.start]? = some x.instr := readAt_instr hr hx
    have hlt : (seekFrom p m).ip < p.chars.size := by
      rw [hseek', hp.chars, List.size_toArray]
      exact (List.getElem?_eq_some_iff.1 hget).1
    have hc : p.chars[(seekFrom p m).ip] = x.instr := by
      simp only [hseek', hp.chars, List.getElem_toArray]
      exact (List.getElem?_eq_some_iff.1 hget).2
    refine Or.inr ⟨x, hcode, hw, hr, hx, fun f hf => ?_, fun hn => ?_⟩
    · rw [step_of_check_some hf, if_pos hlt, hseek']
    · rw [step_of_check_none hn hlt, hc, hseek']

/-- The code left in the text left is the code kept from the text's place on, moved. -/
theorem Erased.code_eq (hs : Spares keep) (hp : Checked cs limits p) (he : Erased keep cs m m') :
    code (lexFrom (erase keep cs) m'.ip false) =
      ((code (lexFrom cs m.ip false)).filter keep).map (move keep cs) := by
  rw [he.ip, lexFrom_erase hs hp.scannable _ _ he.boundary, hs.code_kept, hs.filter_code]

/-- A step of the text that halts or dispatches a kept lexeme is followed by a step of the text
left, when the two controls answer alike. -/
theorem Erased.step_kept (hs : Spares keep) (hp : Checked cs limits p)
    (hq : Checked (erase keep cs) limits q) (he : Erased keep cs m m') (ctl ctl' : Control)
    (hctl : ctl'.check m'.steps = ctl.check m.steps)
    (hk : ∀ x xs, code (lexFrom cs m.ip false) = x :: xs → keep x = true) :
    Follows keep cs m.steps m'.steps (step p ctl m) (step q ctl' m') := by
  have hcode := he.code_eq hs hp
  rcases hp.step_at he.inComment ctl with ⟨hnil, hstep⟩ | ⟨x, hx, hw, hr, hc, hstep⟩
  · -- no code is left in the text, and none in the text left
    rw [hnil, List.filter_nil, List.map_nil] at hcode
    rcases hq.step_at he.inComment' ctl' with ⟨-, hstep'⟩ | ⟨y, hy, -⟩
    · rw [hstep, hstep']
      exact .halted (he.alike.seek p q) rfl rfl
    · rw [hcode] at hy
      cases hy
  · -- the text lands on a kept lexeme, and the text left on the same lexeme moved
    have hkx := hk x _ hx
    rw [hx, List.filter_cons_of_pos hkx, List.map_cons] at hcode
    rcases hq.step_at he.inComment' ctl' with ⟨hnil', -⟩ | ⟨y, hy, -, -, -, hstep'⟩
    · rw [hcode] at hnil'
      cases hnil'
    rw [hcode, List.cons.injEq] at hy
    obtain ⟨rfl, -⟩ := hy
    cases hf : ctl.check m.steps with
    | some f =>
      rw [hstep.1 f hf, hstep'.1 f (hctl.trans hf)]
      exact .faulted (Control.mapIp_check hf _).symm (he.alike.place _ _) rfl rfl
    | none =>
      rw [hstep.2 hf, hstep'.2 (hctl.trans hf)]
      have hb : Boundary cs x.start false := he.boundary.trans hw
      exact Follows.dispatch_kept hs hp hq (hb.mem_lex hr) hc hkx he.alike

/-- A step of the text without control that dispatches a deleted inert character moves the text
on while the text left waits where it is. -/
theorem Erased.step_dropped (hs : Spares keep) (hp : Checked cs limits p) (he : Erased keep cs m m')
    {x : Lexeme} {xs : List Lexeme} (hx : code (lexFrom cs m.ip false) = x :: xs)
    (hk : keep x = false) :
    ∃ row m₁, step p {} m = .stepped row m₁ ∧ Erased keep cs m₁ m' ∧ m₁.steps = m.steps + 1 ∧
      m.ip < m₁.ip ∧ m₁.ip ≤ cs.length := by
  rcases hp.step_at he.inComment {} with ⟨hnil, -⟩ | ⟨y, hy, hw, hr, hc, hstep⟩
  · rw [hnil] at hx
    cases hx
  rw [hx, List.cons.injEq] at hy
  obtain ⟨rfl, hxs⟩ := hy
  obtain ⟨c, hkind⟩ := hs.inert_of_not_keep hc hk
  obtain ⟨hsp, -, hlen⟩ := spelled_of_readAt hr hc (by simp [hkind]) (by simp [hkind])
  rw [hkind] at hsp hlen
  cases hsp with
  | inert hc₁ hl hj ho =>
    have h1 : x.len = 1 := by simpa [spell] using hlen
    have hd : dispatch p x.instr { m with ip := x.start, inComment := false } =
        .stepped (Machine.rowAt { m with ip := x.start, inComment := false } x.start c .nothing)
          { m with ip := x.start + 1, inComment := false, steps := m.steps + 1 } := by
      rw [show x.instr = c by simp [Lexeme.instr, hkind]]
      exact dispatch_inert hl hj ho
    -- the deleted character lands where the place before it did
    have hb : Boundary cs x.start false := he.boundary.trans hw
    have hland : erasePos keep cs m.ip = erasePos keep cs (x.start + x.len) := by
      refine he.boundary.erasePos_eq_of_filter (hb.advance hr) ?_
      rw [← hs.filter_code (lexFrom cs m.ip false),
        ← hs.filter_code (lexFrom cs (x.start + x.len) false), hx,
        List.filter_cons_of_neg (by simp [hk]), hxs]
    have hbn : Boundary cs (x.start + 1) false := h1 ▸ hb.advance hr
    rw [h1] at hland
    have hle : m.ip ≤ x.start :=
      (lexFrom_starts m.ip false).2 x (List.mem_of_mem_filter (hx ▸ List.mem_cons_self))
    have hend := end_le_length_of_readAt hr
    refine ⟨_, _, (hstep.2 rfl).trans hd,
      ⟨hbn, rfl, he.inComment', he.ip.trans hland, he.alike.tape, he.alike.input, he.alike.output,
        he.alike.eof⟩, rfl, ?_, ?_⟩
    · show m.ip < x.start + 1
      omega
    · show x.start + 1 ≤ cs.length
      omega

end Steps

/-! ## Runs -/

section Runs

variable {keep : Lexeme → Bool} {cs : List Char} {limits : Limits} {p q : Program}
  {σ τ : Type} (w : σ → Row → σ) (w' : τ → Row → τ)

/-- One call of each run after steps that follow each other: both runs stop there alike, on any
fuel, or both go on from erased machines. -/
theorem Follows.runFor_succ {s s' : Nat} {m m' : Machine} {ctl ctl' : Control}
    (hf : Follows keep cs s s' (step p ctl m) (step q ctl' m')) :
    (∃ o m₁ m₁', Alike m₁ m₁' ∧ m₁.steps = s ∧ m₁'.steps = s' ∧ o ≠ .outOfFuel ∧
      (∀ n (acc : σ), runFor p ctl w (n + 1) acc m = (o, m₁, acc)) ∧
      ∀ n (acc' : τ), runFor q ctl' w' (n + 1) acc' m' = (o.mapIp (erasePos keep cs), m₁', acc')) ∨
    ∃ row m₁ row' m₁', Erased keep cs m₁ m₁' ∧ m₁.steps = s + 1 ∧ m₁'.steps = s' + 1 ∧
      (∀ n (acc : σ), runFor p ctl w (n + 1) acc m = runFor p ctl w n (w acc row) m₁) ∧
      ∀ n (acc' : τ), runFor q ctl' w' (n + 1) acc' m' = runFor q ctl' w' n (w' acc' row') m₁' := by
  generalize hs₁ : step p ctl m = t at hf
  generalize hs₂ : step q ctl' m' = t' at hf
  cases hf with
  | @halted m₁ m₁' h e e' =>
    exact Or.inl ⟨.finished, m₁, m₁', h, e, e', by simp, fun n acc => by simp only [runFor, hs₁],
      fun n acc' => by simp only [runFor, hs₂, Outcome.mapIp]⟩
  | @faulted f f' m₁ m₁' hf h e e' =>
    exact Or.inl ⟨.fault f, m₁, m₁', h, e, e', by simp, fun n acc => by simp only [runFor, hs₁],
      fun n acc' => by simp only [runFor, hs₂, Outcome.mapIp, hf]⟩
  | @stepped row row' m₁ m₁' h e e' =>
    exact Or.inr ⟨row, m₁, row', m₁', h, e, e', fun n acc => by simp only [runFor, hs₁],
      fun n acc' => by simp only [runFor, hs₂]⟩

/-- When every lexeme of code is kept, the two texts run in lockstep under any control: on the
same fuel they end the same way, with the fault's place moved, at alike machines that counted
the same steps. -/
theorem Erased.runFor_lockstep (hs : Spares keep) (hall : ∀ x, isCode x = true → keep x = true)
    (hp : Checked cs limits p) (hq : Checked (erase keep cs) limits q) (ctl : Control) :
    ∀ (n : Nat) (acc : σ) (acc' : τ) (m m' : Machine), Erased keep cs m m' → m'.steps = m.steps →
      (runFor q ctl w' n acc' m').1 = (runFor p ctl w n acc m).1.mapIp (erasePos keep cs) ∧
        Alike (runFor p ctl w n acc m).2.1 (runFor q ctl w' n acc' m').2.1 ∧
        (runFor q ctl w' n acc' m').2.1.steps = (runFor p ctl w n acc m).2.1.steps
  | 0, _, _, _, _, he, hst => ⟨rfl, he.alike, hst⟩
  | n + 1, acc, acc', m, m', he, hst => by
    have hk : ∀ x xs, code (lexFrom cs m.ip false) = x :: xs → keep x = true :=
      fun x xs h => hall x (List.mem_filter.1 (h ▸ List.mem_cons_self)).2
    rcases (he.step_kept hs hp hq ctl ctl (by rw [hst]) hk).runFor_succ w w' with
      ⟨o, m₁, m₁', ha, hs₁, hs₂, -, hr, hr'⟩ | ⟨row, m₁, row', m₁', he₁, hs₁, hs₂, hr, hr'⟩
    · rw [hr, hr']
      exact ⟨rfl, ha, by rw [hs₁, hs₂, hst]⟩
    · rw [hr, hr']
      exact Erased.runFor_lockstep hs hall hp hq ctl n _ _ m₁ m₁' he₁ (by rw [hs₁, hs₂, hst])

/-- From a place whose next lexeme of code, if any, is kept, the two steps follow each other. -/
theorem Erased.step_free (hs : Spares keep) (hp : Checked cs limits p)
    (hq : Checked (erase keep cs) limits q) {m m' : Machine} (he : Erased keep cs m m')
    (hk : ¬ ∃ x xs, code (lexFrom cs m.ip false) = x :: xs ∧ keep x = false) :
    Follows keep cs m.steps m'.steps (step p {} m) (step q {} m') := by
  refine he.step_kept hs hp hq {} {} rfl fun x xs h => ?_
  cases hkx : keep x
  · exact absurd ⟨x, xs, h, hkx⟩ hk
  · rfl

/-- Without control, a run of the text that ends on some fuel is followed by a run of the text
left that ends on the same fuel, the same way with the fault's place moved, at an alike machine:
the text left never takes more steps. -/
theorem Erased.runFor_forward (hs : Spares keep) (hp : Checked cs limits p)
    (hq : Checked (erase keep cs) limits q) :
    ∀ (n : Nat) (acc : σ) (acc' : τ) (m m' : Machine), Erased keep cs m m' →
      (runFor p {} w n acc m).1 ≠ .outOfFuel →
      (runFor q {} w' n acc' m').1 = (runFor p {} w n acc m).1.mapIp (erasePos keep cs) ∧
        Alike (runFor p {} w n acc m).2.1 (runFor q {} w' n acc' m').2.1
  | 0, _, _, _, _, _, hend => absurd rfl hend
  | n + 1, acc, acc', m, m', he, hend => by
    by_cases hdrop : ∃ x xs, code (lexFrom cs m.ip false) = x :: xs ∧ keep x = false
    · -- the text passes over a deleted character while the text left waits
      obtain ⟨x, xs, hx, hk⟩ := hdrop
      obtain ⟨row, m₁, hstep, he₁, -, -, -⟩ := he.step_dropped hs hp hx hk
      have hrun : runFor p {} w (n + 1) acc m = runFor p {} w n (w acc row) m₁ := by
        simp only [runFor, hstep]
      rw [hrun] at hend ⊢
      obtain ⟨h₁, h₂⟩ := Erased.runFor_forward hs hp hq n _ acc' m₁ m' he₁ hend
      have hend' : (runFor q {} w' n acc' m').1 ≠ .outOfFuel := by
        rw [h₁, ne_eq, Outcome.mapIp_eq_outOfFuel]
        exact hend
      rw [runFor_succ_of_stopped hend']
      exact ⟨h₁, h₂⟩
    · rcases (he.step_free hs hp hq hdrop).runFor_succ w w' with
        ⟨o, m₁, m₁', ha, -, -, -, hr, hr'⟩ | ⟨row, m₁, row', m₁', he₁, -, -, hr, hr'⟩
      · rw [hr, hr']
        exact ⟨rfl, ha⟩
      · rw [hr] at hend ⊢
        rw [hr']
        exact Erased.runFor_forward hs hp hq n _ _ m₁ m₁' he₁ hend

/-- Without control, a run of the text left that ends on some fuel follows a run of the text that
ends on some fuel, the same way with the fault's place moved, at an alike machine. -/
theorem Erased.runFor_backward (hs : Spares keep) (hp : Checked cs limits p)
    (hq : Checked (erase keep cs) limits q) :
    ∀ (n : Nat) (acc : σ) (acc' : τ) (m m' : Machine), Erased keep cs m m' →
      (runFor q {} w' n acc' m').1 ≠ .outOfFuel →
      ∃ N, (runFor p {} w N acc m).1 ≠ .outOfFuel ∧
        (runFor q {} w' n acc' m').1 = (runFor p {} w N acc m).1.mapIp (erasePos keep cs) ∧
        Alike (runFor p {} w N acc m).2.1 (runFor q {} w' n acc' m').2.1
  | 0, _, _, _, _, _, hend => absurd rfl hend
  | n + 1, acc, acc', m, m', he, hend => by
    -- the text catches up over deleted characters: induction on the length left after its place
    induction hlen : cs.length - m.ip using Nat.strong_induction_on generalizing acc m with
    | _ k ih =>
      by_cases hdrop : ∃ x xs, code (lexFrom cs m.ip false) = x :: xs ∧ keep x = false
      · obtain ⟨x, xs, hx, hk⟩ := hdrop
        obtain ⟨row, m₁, hstep, he₁, -, hlt, hle⟩ := he.step_dropped hs hp hx hk
        obtain ⟨N, hN, h₁, h₂⟩ := ih (cs.length - m₁.ip) (by omega) (w acc row) m₁ he₁ rfl
        have hrun : runFor p {} w (N + 1) acc m = runFor p {} w N (w acc row) m₁ := by
          simp only [runFor, hstep]
        exact ⟨N + 1, by rw [hrun]; exact hN, by rw [hrun]; exact h₁, by rw [hrun]; exact h₂⟩
      · rcases (he.step_free hs hp hq hdrop).runFor_succ w w' with
          ⟨o, m₁, m₁', ha, -, -, ho, hr, hr'⟩ | ⟨row, m₁, row', m₁', he₁, -, -, hr, hr'⟩
        · refine ⟨1, ?_⟩
          rw [hr, hr']
          exact ⟨ho, rfl, ha⟩
        · rw [hr'] at hend ⊢
          obtain ⟨N, hN, h₁, h₂⟩ := Erased.runFor_backward hs hp hq n _ _ m₁ m₁' he₁ hend
          exact ⟨N + 1, by rw [hr]; exact hN, by rw [hr]; exact h₁, by rw [hr]; exact h₂⟩

/-- Without control, the run of the text runs out of every fuel exactly when the run of the text
left does. -/
theorem Erased.diverges_iff (hs : Spares keep) (hp : Checked cs limits p)
    (hq : Checked (erase keep cs) limits q) {m m' : Machine} (he : Erased keep cs m m') (acc : σ)
    (acc' : τ) :
    (∀ n, (runFor p {} w n acc m).1 = .outOfFuel) ↔ ∀ n, (runFor q {} w' n acc' m').1 = .outOfFuel := by
  constructor
  · intro hdiv n
    by_contra hend
    obtain ⟨N, hN, -⟩ := Erased.runFor_backward w w' hs hp hq n acc acc' m m' he hend
    exact hN (hdiv N)
  · intro hdiv n
    by_contra hend
    obtain ⟨h₁, -⟩ := Erased.runFor_forward w w' hs hp hq n acc acc' m m' he hend
    rw [hdiv n, eq_comm, Outcome.mapIp_eq_outOfFuel] at h₁
    exact hend h₁

end Runs

/-! ## Interpreters -/

/-- The interpreter with the lexemes of its text that `keep` rejects deleted; its limits,
end-of-input policy and staged input stay. -/
def Interpreter.erase (keep : Lexeme → Bool) (it : Interpreter) : Interpreter :=
  { it with code := String.ofList (GotoTape.erase keep it.code.toList) }

namespace Interpreter

variable {keep : Lexeme → Bool} {it : Interpreter} {p : Program}

@[simp] theorem code_erase : (it.erase keep).code.toList = GotoTape.erase keep it.code.toList :=
  String.toList_ofList

/-- Runs of the text and of the text left start from erased machines. -/
theorem erased_start (keep : Lexeme → Bool) (it : Interpreter) :
    Erased keep it.code.toList it.start (it.erase keep).start :=
  ⟨Boundary.start, rfl, rfl, erasePos_zero.symm, rfl, rfl, rfl, rfl⟩

/-- Deleting the inert characters of the interpreter with its comments deleted deletes both from
the interpreter at once. -/
theorem erase_erase_isCode (hp : Program.check it.code.toList it.limits = .ok p) :
    (it.erase isCode).erase isActive = it.erase isActive := by
  have h := GotoTape.erase_isActive_erase_isCode (Checked.of_check hp).scannable
  simp only [Interpreter.erase, String.toList_ofList, h]

/-- The text left of a text that passes the pre-scan passes it too. -/
theorem check_erase_of_check (hs : Spares keep) (hp : Program.check it.code.toList it.limits = .ok p) :
    ∃ q, Program.check (it.erase keep).code.toList it.limits = .ok q ∧
      Checked (GotoTape.erase keep it.code.toList) it.limits q := by
  obtain ⟨q, hq⟩ := check_erase hs (Checked.of_check hp).scannable
  exact ⟨q, by rw [code_erase]; exact hq, Checked.of_check hq⟩

/-- With the comments deleted, a run under any control, keeping anything, ends the same way with
the fault's place moved, after the same steps, with the same tape, output and input. -/
theorem execute_erase_comments (hp : Program.check it.code.toList it.limits = .ok p)
    (ctl : Control) (w : Watch) :
    ((it.erase isCode).execute ctl w).1.outcome =
        (it.execute ctl w).1.outcome.mapIp (erasePos isCode it.code.toList) ∧
      ((it.erase isCode).execute ctl w).1.steps = (it.execute ctl w).1.steps ∧
      ((it.erase isCode).execute ctl w).2.tape = (it.execute ctl w).2.tape ∧
      ((it.erase isCode).execute ctl w).2.output = (it.execute ctl w).2.output ∧
      ((it.erase isCode).execute ctl w).2.input = (it.execute ctl w).2.input := by
  obtain ⟨q, hq, hqc⟩ := check_erase_of_check spares_isCode hp
  obtain ⟨ho, -, hst, ht, hout, hin⟩ := execute_of_check hp ctl w
  obtain ⟨ho', -, hst', ht', hout', hin'⟩ := execute_of_check hq ctl w
  obtain ⟨h₁, h₂, h₃⟩ := Erased.runFor_lockstep w.note w.note spares_isCode (fun _ h => h)
    (Checked.of_check hp) hqc ctl ctl.fuel {} {} _ _ (erased_start isCode it) rfl
  rw [ho, ho', hst, hst', ht, ht', hout, hout', hin, hin']
  exact ⟨h₁, h₃, h₂.tape, h₂.output, h₂.input⟩

/-- With the inert characters deleted as well, a run without control that ends is followed by
one of the text left that ends the same way with the fault's place moved, with the same tape,
output and input. -/
theorem execute_erase_inert (hp : Program.check it.code.toList it.limits = .ok p) (w : Watch)
    (hend : (it.execute {} w).1.outcome ≠ .outOfFuel) :
    ((it.erase isActive).execute {} w).1.outcome =
        (it.execute {} w).1.outcome.mapIp (erasePos isActive it.code.toList) ∧
      ((it.erase isActive).execute {} w).2.tape = (it.execute {} w).2.tape ∧
      ((it.erase isActive).execute {} w).2.output = (it.execute {} w).2.output ∧
      ((it.erase isActive).execute {} w).2.input = (it.execute {} w).2.input := by
  obtain ⟨q, hq, hqc⟩ := check_erase_of_check spares_isActive hp
  obtain ⟨ho, -, -, ht, hout, hin⟩ := execute_of_check hp {} w
  obtain ⟨ho', -, -, ht', hout', hin'⟩ := execute_of_check hq {} w
  rw [ho] at hend
  obtain ⟨h₁, h₂⟩ := Erased.runFor_forward w.note w.note spares_isActive (Checked.of_check hp) hqc
    _ {} {} _ _ (erased_start isActive it) hend
  rw [ho, ho', ht, ht', hout, hout', hin, hin']
  exact ⟨h₁, h₂.tape, h₂.output, h₂.input⟩

end Interpreter

/-- Deleting the comments of a text that passes the pre-scan, or its comments and its inert
characters, changes nothing but where its instructions stand.

With the comments deleted, the text passes the pre-scan, and every run of it under any control,
keeping anything, ends the same way as the text's with the fault's place moved to the text left,
after the same steps, with the same tape and output.

With the inert characters deleted as well (from the text without comments or, the same text by
`Interpreter.erase_erase_isCode`, from the text itself), the text passes the pre-scan, and without
control:
its run runs out of every fuel exactly when the text's does; a run of the text that ends on some
fuel is matched by one of the text left that ends on that fuel, the same way with the fault's
place moved, with the same tape and output; and so is the interpreter's run to the end. -/
theorem erased_text_runs_alike (it : Interpreter) (p : Program)
    (hp : Program.check it.code.toList it.limits = .ok p) :
    (∃ q, Program.check (it.erase isCode).code.toList it.limits = .ok q) ∧
    (∀ ctl w,
      ((it.erase isCode).execute ctl w).1.outcome =
          (it.execute ctl w).1.outcome.mapIp (erasePos isCode it.code.toList) ∧
        ((it.erase isCode).execute ctl w).1.steps = (it.execute ctl w).1.steps ∧
        ((it.erase isCode).execute ctl w).2.tape = (it.execute ctl w).2.tape ∧
        ((it.erase isCode).execute ctl w).2.output = (it.execute ctl w).2.output) ∧
    ∃ q, Program.check (it.erase isActive).code.toList it.limits = .ok q ∧
      ∀ w : Watch,
        ((∀ n, (Machine.runFor p {} w.note n {} it.start).1 = .outOfFuel) ↔
          ∀ n, (Machine.runFor q {} w.note n {} (it.erase isActive).start).1 = .outOfFuel) ∧
        (∀ n, (Machine.runFor p {} w.note n {} it.start).1 ≠ .outOfFuel →
          (Machine.runFor q {} w.note n {} (it.erase isActive).start).1 =
              (Machine.runFor p {} w.note n {} it.start).1.mapIp (erasePos isActive it.code.toList) ∧
            (Machine.runFor q {} w.note n {} (it.erase isActive).start).2.1.tape =
              (Machine.runFor p {} w.note n {} it.start).2.1.tape ∧
            (Machine.runFor q {} w.note n {} (it.erase isActive).start).2.1.output =
              (Machine.runFor p {} w.note n {} it.start).2.1.output) ∧
        ((it.execute {} w).1.outcome ≠ .outOfFuel →
          ((it.erase isActive).execute {} w).1.outcome =
              (it.execute {} w).1.outcome.mapIp (erasePos isActive it.code.toList) ∧
            ((it.erase isActive).execute {} w).2.tape = (it.execute {} w).2.tape ∧
            ((it.erase isActive).execute {} w).2.output = (it.execute {} w).2.output) := by
  have hpc := Checked.of_check hp
  obtain ⟨qc, hqc, -⟩ := Interpreter.check_erase_of_check spares_isCode hp
  obtain ⟨q, hq, hqa⟩ := Interpreter.check_erase_of_check spares_isActive hp
  refine ⟨⟨qc, hqc⟩, fun ctl w => ?_, q, hq, fun w => ⟨?_, fun n hend => ?_, fun hend => ?_⟩⟩
  · obtain ⟨h₁, h₂, h₃, h₄, -⟩ := it.execute_erase_comments hp ctl w
    exact ⟨h₁, h₂, h₃, h₄⟩
  · exact Erased.diverges_iff w.note w.note spares_isActive hpc hqa
      (Interpreter.erased_start isActive it) {} {}
  · obtain ⟨h₁, h₂⟩ := Erased.runFor_forward w.note w.note spares_isActive hpc hqa n {} {} _ _
      (Interpreter.erased_start isActive it) hend
    exact ⟨h₁, h₂.tape, h₂.output⟩
  · obtain ⟨h₁, h₂, h₃, -⟩ := it.execute_erase_inert hp w hend
    exact ⟨h₁, h₂, h₃⟩

/-- A text with an inert blank and a comment, as characters. -/
theorem lex_blank_comment :
    lex ['+', ' ', '#', 'c', '#', '.'] =
      [⟨0, 1, .op '+'⟩, ⟨1, 1, .inert ' '⟩, ⟨2, 1, .commentDelimiter⟩, ⟨3, 1, .comment⟩,
        ⟨4, 1, .commentDelimiter⟩, ⟨5, 1, .op '.'⟩] := by
  simp [lex, Lexeme.scan_cons, Lexeme.read, Lexeme.scan.eq_1, commentMark, labelMark, jumpMark,
    isOperator]

/-- A text with an inert blank and a comment passes the pre-scan, and with its comment deleted it
runs to the same outcome. -/
theorem blank_comment_runs_alike :
    (∃ p, Program.check (Interpreter.new "+ #c#.").code.toList (Interpreter.new "+ #c#.").limits =
      .ok p) ∧
    (((Interpreter.new "+ #c#.").erase isCode).execute {} {}).1.outcome =
      ((Interpreter.new "+ #c#.").execute {} {}).1.outcome.mapIp
        (erasePos isCode (Interpreter.new "+ #c#.").code.toList) := by
  obtain ⟨p, hp⟩ : ∃ p, Program.check (Interpreter.new "+ #c#.").code.toList
      (Interpreter.new "+ #c#.").limits = .ok p := by
    refine ⟨?p, ?h⟩
    case h =>
      rw [show (Interpreter.new "+ #c#.").code.toList = ['+', ' ', '#', 'c', '#', '.'] from rfl,
        Program.check, Program.scan, lex_blank_comment]
      rfl
  exact ⟨⟨p, hp⟩, ((erased_text_runs_alike _ p hp).2.1 {} {}).1⟩

end GotoTape
