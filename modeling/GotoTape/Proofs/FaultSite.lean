import GotoTape.Proofs.Instructions
import GotoTape.Proofs.Window
/-!
# Where a fault points

A fault that names an instruction names the right one. Its position is a character of the text
where an instruction starts, outside comments, and the character there is the one at fault: the
marker without a label on the last character, the bracket without partner, the definition of one
label too many or the jump to an unknown label with its label after it, the move off the tape
with the head at the end it would leave, the write into a full output (which then holds exactly
as many bytes as it may). So the caret of a diagnostic stands under that character.

For the pre-scan this is read off the order of its faults (`ScanFault`). For a run it holds
because the run loop stays aligned with the lexer (`Aligned`), and because every machine a run
reaches keeps its tape size and never holds more output than the buffer takes (`Bounded`).

Main statements: `check_fault_site`, `run_fault_site` and `fault_site`.
-/

namespace GotoTape

open Lexeme

namespace Tape

/-- A move to the left is refused exactly on the first cell. -/
theorem shift_left_eq_none_iff (t : Tape) : t.shift (-1) = none ↔ t.pointer = 0 := by
  have := t.pointer_lt
  unfold shift
  dsimp only
  split <;> simp_all <;> omega

/-- A move to the right is refused exactly on the last cell. -/
theorem shift_right_eq_none_iff (t : Tape) : t.shift 1 = none ↔ t.pointer = t.size - 1 := by
  have := t.pointer_lt
  unfold shift size
  dsimp only
  split <;> simp_all <;> omega

end Tape

namespace OutputBuffer

@[simp] theorem size_push (o : OutputBuffer) (b : UInt8) : (o.push b).size = o.size + 1 := by
  simp [push, size]

@[simp] theorem capacity_push (o : OutputBuffer) (b : UInt8) : (o.push b).capacity = o.capacity :=
  rfl

end OutputBuffer

/-! ## What a run keeps -/

namespace Machine

/-- A machine whose tape has `cells` cells and whose output takes at most `cap` bytes and holds no
more. -/
structure Bounded (cells cap : Nat) (m : Machine) : Prop where
  tape_size : m.tape.size = cells
  capacity : m.output.capacity = cap
  size_le : m.output.size ≤ cap

section Bounded

variable {p : Program} {cells cap : Nat} {m m' : Machine} {row : Row}

/-- Moving the head, writing a cell and reading the input keep the tape's size, the output grows
only while it has room, and nothing else touches either. -/
theorem Bounded.dispatch {c : Char} (hb : m.Bounded cells cap) (h : dispatch p c m = .stepped row m') :
    m'.Bounded cells cap := by
  obtain ⟨hsize, hcap, hle⟩ := hb
  rcases char_cases c with rfl | rfl | rfl | rfl | rfl | rfl | rfl | rfl | rfl | rfl |
    ⟨h₁, h₂, h₃, h₄, h₅, h₆, -⟩
  · rw [dispatch_move (Or.inl rfl)] at h
    split at h
    · rename_i t ht
      cases h
      exact ⟨(Tape.size_shift ht).trans hsize, hcap, hle⟩
    · cases h
  · rw [dispatch_move (Or.inr rfl)] at h
    split at h
    · rename_i t ht
      cases h
      exact ⟨(Tape.size_shift ht).trans hsize, hcap, hle⟩
    · cases h
  · rw [dispatch_increment] at h
    cases h
    exact ⟨(Tape.size_increment _).trans hsize, hcap, hle⟩
  · rw [dispatch_decrement] at h
    cases h
    exact ⟨(Tape.size_decrement _).trans hsize, hcap, hle⟩
  · rw [dispatch_output] at h
    split at h
    · cases h
    · rename_i hfull
      cases h
      simp only [OutputBuffer.isFull, decide_eq_true_eq, Nat.not_le] at hfull
      refine ⟨hsize, hcap, ?_⟩
      simp only [OutputBuffer.size_push]
      simp only [OutputBuffer.size] at hle ⊢
      omega
  · rcases hn : m.input.next with ⟨_ | b, rest⟩
    · cases he : m.eof
      · rw [dispatch_input_zero hn he] at h
        cases h
        exact ⟨(Tape.size_write _ _).trans hsize, hcap, hle⟩
      · rw [dispatch_input_unchanged hn he] at h
        cases h
        exact ⟨hsize, hcap, hle⟩
    · rw [dispatch_input_byte hn] at h
      cases h
      exact ⟨(Tape.size_write _ _).trans hsize, hcap, hle⟩
  all_goals first
    | rw [dispatch_frame h₁ h₂ h₃ h₄ h₅ h₆ h]
    | rw [dispatch_frame (by decide) (by decide) (by decide) (by decide) (by decide) (by decide) h]
  all_goals exact ⟨hsize, hcap, hle⟩

/-- Passing over comments keeps the bounds, and so does every pass. -/
theorem Bounded.tick (hb : m.Bounded cells cap) (ht : Tick p m m') : m'.Bounded cells cap := by
  cases ht with
  | toggle h => exact ⟨hb.tape_size, hb.capacity, hb.size_le⟩
  | skip h hc hin => exact ⟨hb.tape_size, hb.capacity, hb.size_le⟩
  | dispatch h hc hin hd => exact hb.dispatch hd

theorem Bounded.ticks (hb : m.Bounded cells cap) (h : Relation.ReflTransGen (Tick p) m m') :
    m'.Bounded cells cap := by
  induction h with
  | refl => exact hb
  | tail _ ht ih => exact ih.tick ht

/-- A run starts with the tape of its limits and an empty output. -/
theorem Bounded.start (it : Interpreter) :
    it.start.Bounded (max it.limits.tapeCells 1) it.limits.bufferCapacity :=
  ⟨Tape.size_new _, rfl, Nat.zero_le _⟩

end Bounded

/-! ## Faults of a dispatch -/

section Faulted

variable {p : Program} {m m' : Machine} {c : Char} {f : Fault}

/-- A dispatch at a bracket with its partner, or at a marker with its label, faults only by
running: with a move off the tape, a write into a full output or a jump to an unknown label.
The machine stays as it was. -/
theorem dispatch_faulted_site (hbr : c = '[' ∨ c = ']' → (p.brackets.partner m.ip).isSome)
    (hop : c = labelMark ∨ c = jumpMark → ∃ l, p.chars[m.ip + 1]? = some l)
    (h : dispatch p c m = .faulted f m') :
    m' = m ∧
      ((c = '>' ∨ c = '<') ∧ f = .tapeBounds m.ip m.tape.pointer c ∧
          m.tape.shift (if c = '>' then 1 else -1) = none ∨
        c = '.' ∧ f = .bufferFull .output m.output.capacity (some m.ip) ∧ m.output.isFull = true ∨
        c = jumpMark ∧ ∃ l, p.chars[m.ip + 1]? = some l ∧ f = .unknownLabel m.ip l) := by
  rcases char_cases c with rfl | rfl | rfl | rfl | rfl | rfl | rfl | rfl | rfl | rfl |
    ⟨h₁, h₂, h₃, h₄, h₅, h₆, h₇, h₈, h₉, h₁₀⟩
  · rw [dispatch_move (Or.inl rfl)] at h
    split at h
    · cases h
    · rename_i hs
      cases h
      exact ⟨rfl, Or.inl ⟨Or.inl rfl, rfl, hs⟩⟩
  · rw [dispatch_move (Or.inr rfl)] at h
    split at h
    · cases h
    · rename_i hs
      cases h
      exact ⟨rfl, Or.inl ⟨Or.inr rfl, rfl, hs⟩⟩
  · rw [dispatch_increment] at h
    cases h
  · rw [dispatch_decrement] at h
    cases h
  · rw [dispatch_output] at h
    split at h
    · rename_i hfull
      cases h
      exact ⟨rfl, Or.inr (Or.inl ⟨rfl, rfl, hfull⟩)⟩
    · cases h
  · rcases hn : m.input.next with ⟨_ | b, rest⟩
    · cases he : m.eof
      · rw [dispatch_input_zero hn he] at h
        cases h
      · rw [dispatch_input_unchanged hn he] at h
        cases h
    · rw [dispatch_input_byte hn] at h
      cases h
  · obtain ⟨j, hj⟩ := Option.isSome_iff_exists.1 (hbr (Or.inl rfl))
    by_cases hz : m.tape.read = 0
    · rw [dispatch_open_skip hz hj] at h
      cases h
    · rw [dispatch_open_enter hz] at h
      cases h
  · obtain ⟨j, hj⟩ := Option.isSome_iff_exists.1 (hbr (Or.inr rfl))
    by_cases hz : m.tape.read = 0
    · rw [dispatch_close_exit hz] at h
      cases h
    · rw [dispatch_close_repeat hz hj] at h
      cases h
  · obtain ⟨l, hl⟩ := hop (Or.inl rfl)
    rw [dispatch_labelMark hl] at h
    cases h
  · obtain ⟨l, hl⟩ := hop (Or.inr rfl)
    cases ht : p.labels.lookup l with
    | none =>
      rw [dispatch_jumpMark_unknown hl ht] at h
      cases h
      exact ⟨rfl, Or.inr (Or.inr ⟨rfl, l, hl, rfl⟩)⟩
    | some t =>
      rw [dispatch_jumpMark hl ht] at h
      cases h
  · rw [dispatch_plain h₁ h₂ h₃ h₄ h₅ h₆ h₇ h₈ h₉ h₁₀] at h
    cases h

end Faulted

end Machine

/-- The control stops a run with a cancellation or the step limit. -/
theorem Control.check_eq_some {ctl : Control} {s : Nat} {f : Fault} (h : ctl.check s = some f) :
    f = .cancelled ∨ ∃ k, f = .stepLimit k := by
  unfold Control.check Control.limitCheck at h
  split at h <;> (repeat' split at h) <;> simp only [Option.some.injEq, reduceCtorEq] at h <;>
    subst h <;> simp

/-! ## Faults point at their instruction -/

/-- What a fault says about the text `cs` at its position, for a tape of `cells` cells: the
character at fault that stands there, and for a move off the tape, the end the head was at. -/
def Fault.Blames (cs : List Char) (cells : Nat) : Fault → Prop
  | .programTooLong _ _ => True
  | .missingLabel ip marker =>
    ip = cs.length - 1 ∧ cs[ip]? = some marker ∧ (marker = labelMark ∨ marker = jumpMark)
  | .unbalanced ip side => cs[ip]? = some side.glyph
  | .labelTableFull ip label _ => cs[ip]? = some labelMark ∧ cs[ip + 1]? = some label
  | .unknownLabel ip label => cs[ip]? = some jumpMark ∧ cs[ip + 1]? = some label
  | .tapeBounds ip ptr op => cs[ip]? = some op ∧ (op = '<' ∧ ptr = 0 ∨ op = '>' ∧ ptr = cells - 1)
  | .bufferFull _ _ none => True
  | .bufferFull channel _ (some ip) => channel = .output ∧ cs[ip]? = some '.'
  | .stepLimit _ => True
  | .cancelled => True

/-- The fault `f` points into the text `cs` at the instruction at fault: its position is a
character of the text where a lexeme of code starts, outside comments, and the character there
is the one `Blames` names. -/
def Fault.PointsAt (cs : List Char) (cells : Nat) (f : Fault) : Prop :=
  ∀ pos, f.position = some pos →
    pos < cs.length ∧ Boundary cs pos false ∧ (∃ x ∈ lex cs, x.start = pos ∧ isCode x = true) ∧
      f.Blames cs cells

section Site

variable {cs : List Char} {cells : Nat} {f : Fault}

/-- A fault at the start of an instruction of the text points into it, once its kind is told. -/
theorem Fault.pointsAt_of_mem {x : Lexeme} (hx : x ∈ lex cs) (hc : isCode x = true)
    (hpos : f.position = some x.start) (hb : f.Blames cs cells) : f.PointsAt cs cells := by
  intro pos hp
  rw [hpos, Option.some.injEq] at hp
  subst hp
  exact ⟨start_lt_length_of_mem_lex hx, (mem_lex_code hx hc).1, ⟨x, hx, rfl, hc⟩, hb⟩

/-- The character at fault is one of the instructions, never a line feed or a tab. -/
theorem Fault.Blames.shown {pos : Nat} (hb : f.Blames cs cells) (hpos : f.position = some pos) :
    ∃ c, cs[pos]? = some c ∧ Diagnostic.shown c = c := by
  cases f with
  | missingLabel ip marker =>
    obtain ⟨-, hc, hm⟩ := hb
    cases hpos
    rcases hm with rfl | rfl <;> exact ⟨_, hc, by decide⟩
  | unbalanced ip side =>
    cases hpos
    cases side <;> exact ⟨_, hb, by decide⟩
  | labelTableFull ip label capacity =>
    cases hpos
    exact ⟨_, hb.1, by decide⟩
  | unknownLabel ip label =>
    cases hpos
    exact ⟨_, hb.1, by decide⟩
  | tapeBounds ip ptr op =>
    obtain ⟨hc, ⟨rfl, -⟩ | ⟨rfl, -⟩⟩ := hb <;> cases hpos <;> exact ⟨_, hc, by decide⟩
  | bufferFull channel capacity ip =>
    cases ip with
    | none => cases hpos
    | some ip =>
      cases hpos
      exact ⟨_, hb.2, by decide⟩
  | programTooLong _ _ | stepLimit _ | cancelled => cases hpos

/-- The caret under the window of a fault that points into the text stands under the character
at fault itself. -/
theorem Fault.PointsAt.caret {pos : Nat} (h : f.PointsAt cs cells) (hpos : f.position = some pos) :
    (Diagnostic.window cs pos).1.toList[pos - (pos - 32)]? = cs[pos]? := by
  obtain ⟨c, hc, hs⟩ := (h pos hpos).2.2.2.shown hpos
  rw [Diagnostic.getElem?_slice_window, hc, Option.map_some, hs]

end Site

/-- A fault of the pre-scan is static and points at the lexeme it is about. -/
theorem check_fault_site {cs : List Char} {limits : Limits} {f : Fault}
    (h : Program.check cs limits = .error f) (cells : Nat) :
    f.isStatic = true ∧ f.PointsAt cs cells := by
  cases ((Program.check_spec cs limits).2 f).1 h with
  | tooLong => exact ⟨rfl, fun pos hpos => by cases hpos⟩
  | @first P R x _ _ he _ hx =>
    have hmem : x ∈ lex cs := by simp [he]
    have hcode : isCode x = true := by cases hx <;> simp_all [isCode]
    obtain ⟨-, hr, hch⟩ := mem_lex_code hmem hcode
    cases hx with
    | strayClose hk =>
      exact ⟨rfl, Fault.pointsAt_of_mem hmem hcode rfl
        (show cs[x.start]? = some ']' by simpa [Lexeme.instr, hk] using hch)⟩
    | tableFull hk =>
      refine ⟨rfl, Fault.pointsAt_of_mem hmem hcode rfl ⟨by simpa [Lexeme.instr, hk] using hch, ?_⟩⟩
      exact readAt_operand hr (Or.inl hk)
    | noLabel hk =>
      have hend := start_of_unlabelled hmem (Or.inl hk)
      have hpos : cs.length - 1 = x.start := by omega
      refine ⟨rfl, Fault.pointsAt_of_mem hmem hcode (by rw [hpos]; rfl) ⟨rfl, ?_, Or.inl rfl⟩⟩
      rw [hpos]
      simpa [Lexeme.instr, hk] using hch
    | noTarget hk =>
      have hend := start_of_unlabelled hmem (Or.inr hk)
      have hpos : cs.length - 1 = x.start := by omega
      refine ⟨rfl, Fault.pointsAt_of_mem hmem hcode (by rw [hpos]; rfl) ⟨rfl, ?_, Or.inr rfl⟩⟩
      rw [hpos]
      simpa [Lexeme.instr, hk] using hch
  | @unclosed P R o _ _ he ho _ =>
    have hmem : o ∈ lex cs := by simp [he]
    have hcode : isCode o = true := isCode_of_op ho
    obtain ⟨-, -, hch⟩ := mem_lex_code hmem hcode
    exact ⟨rfl, Fault.pointsAt_of_mem hmem hcode rfl
      (show cs[o.start]? = some '[' by simpa [Lexeme.instr, ho] using hch)⟩

/-- A dispatch that faults where the run loop of a checked text stands aligned, outside comments,
points at its instruction; a write into a full output leaves the output holding its capacity. -/
theorem Program.Checked.dispatch_fault_site {cs : List Char} {limits : Limits} {p : Program}
    (hc : Program.Checked cs limits p) {m : Machine} {cells cap : Nat} {f : Fault}
    (ha : Aligned cs m.ip false) (hb : m.Bounded cells cap) (hlt : m.ip < p.chars.size)
    (hnc : p.chars[m.ip] ≠ commentMark) (hd : Machine.dispatch p p.chars[m.ip] m = .faulted f m) :
    f.PointsAt cs cells ∧
      ∀ cap' ip, f = .bufferFull .output cap' (some ip) → cap' = cap ∧ m.output.size = cap' := by
  have hpoint := hc.dispatch_point ha (Array.getElem?_eq_getElem hlt) hnc
  -- where the loop stands, an instruction of the text starts, outside comments
  have hlt' : m.ip < cs.length := by simpa [hc.chars] using hlt
  have hchar : cs[m.ip]? = some p.chars[m.ip] := by
    rw [← hc.getElem?_chars]
    exact Array.getElem?_eq_getElem hlt
  have hnc' : cs[m.ip] ≠ commentMark := by
    rw [List.getElem?_eq_getElem hlt', Option.some.injEq] at hchar
    rwa [hchar]
  have hrd := readAt_of_lt false hlt'
  have hx := (ha.boundary hlt').mem_lex hrd
  have hxc := (readAt_code hlt' hnc' hrd).1
  have hsite : ∀ g : Fault, g.position = some m.ip → g.Blames cs cells → g.PointsAt cs cells :=
    fun g hpos => Fault.pointsAt_of_mem hx hxc (by rw [start_read]; exact hpos)
  obtain ⟨-, hcases⟩ := Machine.dispatch_faulted_site (fun hbr => (hpoint.1 hbr).2)
    (fun hmk => ⟨_, (hc.getElem?_chars _).trans (List.getElem?_eq_getElem (hpoint.2 hmk))⟩) hd
  rcases hcases with ⟨hmv, rfl, hshift⟩ | ⟨hdot, rfl, hfull⟩ | ⟨hjmp, l, hl, rfl⟩
  · -- a move off the tape leaves the head at the end it would leave
    refine ⟨hsite _ rfl ⟨hchar, ?_⟩, fun cap ip hf => by cases hf⟩
    rw [← hb.tape_size]
    rcases hmv with hmv | hmv <;> rw [hmv] at hshift ⊢
    · exact Or.inr ⟨rfl, (Tape.shift_right_eq_none_iff _).1 hshift⟩
    · exact Or.inl ⟨rfl, (Tape.shift_left_eq_none_iff _).1 hshift⟩
  · -- a write into a full output leaves it holding its capacity
    refine ⟨hsite _ rfl ⟨rfl, hdot ▸ hchar⟩, fun cap' ip hf => ?_⟩
    cases hf
    have hcap := hb.capacity
    have hle := hb.size_le
    simp only [OutputBuffer.isFull, decide_eq_true_eq] at hfull
    simp only [OutputBuffer.size] at hle ⊢
    exact ⟨hcap, by omega⟩
  · refine ⟨hsite _ rfl ⟨hjmp ▸ hchar, ?_⟩, fun cap ip hf => by cases hf⟩
    rwa [hc.getElem?_chars] at hl

/-- A fault of a run points at the instruction at fault, and a write into a full output leaves
the output holding exactly as many bytes as the buffer takes. -/
theorem run_fault_site {it : Interpreter} {ctl : Control} {w : Watch} {f : Fault}
    (h : (it.execute ctl w).1.outcome = .fault f) :
    f.PointsAt it.code.toList (max it.limits.tapeCells 1) ∧
      ∀ cap ip, f = .bufferFull .output cap (some ip) →
        cap = it.limits.bufferCapacity ∧ (it.execute ctl w).2.output.size = cap := by
  rcases Program.check_outcome it.code.toList it.limits with ⟨p, hp, hc⟩ | ⟨g, hg, -⟩
  swap
  · -- the pre-scan's own fault
    obtain ⟨hout, -, -⟩ := Interpreter.execute_of_check_error hg ctl w
    rw [hout, Outcome.fault.injEq] at h
    subst h
    obtain ⟨hst, hsite⟩ := check_fault_site hg (max it.limits.tapeCells 1)
    refine ⟨hsite, fun cap ip hf => ?_⟩
    subst hf
    cases hst
  obtain ⟨ho, -, -, -, hout, -⟩ := Interpreter.execute_of_check hp ctl w
  rcases hr : Machine.run p ctl w.note {} it.start with ⟨o, m', r⟩
  rw [ho, hr] at h
  dsimp only at h
  subst h
  rw [hout, hr]
  -- the fault comes from a step at a machine the passes reach
  obtain ⟨m₁, ht, hs⟩ := Machine.runFor_fault hr
  obtain ⟨rfl, hlt, hcause⟩ := Machine.step_faulted hs
  rcases hcause with hctl | ⟨-, hd⟩
  · rcases Control.check_eq_some hctl with rfl | ⟨k, rfl⟩ <;>
      exact ⟨fun pos hpos => (by cases hpos), fun cap ip hf => (by cases hf)⟩
  have hreach := ht.trans (Machine.ticks_seekFrom m₁)
  obtain ⟨hnc, hin⟩ := Machine.seekFrom_stop m₁ hlt
  have ha := hc.aligned_of_ticks rfl rfl hreach
  rw [hin] at ha
  exact hc.dispatch_fault_site ha ((Machine.Bounded.start it).ticks hreach) hlt hnc hd

/-- Every fault that the pre-scan or a run reports at a position points at the instruction at
fault: a character of the text where a lexeme of code starts, outside comments, holding the
marker without a label (on the last character), the bracket without partner, the definition of
one label too many or the jump to an unknown label (each followed by its label), the move off the
tape (with the head on the first cell for `<` and on the last for `>`), or the write into a full
output, which then holds exactly as many bytes as the buffer takes. The caret of the window drawn
under a diagnostic thus stands under the character at fault. -/
theorem fault_site (it : Interpreter) (ctl : Control) (w : Watch) (f : Fault) :
    (Program.check it.code.toList it.limits = .error f ∨ (it.execute ctl w).1.outcome = .fault f) →
      f.PointsAt it.code.toList (max it.limits.tapeCells 1) ∧
        (∀ cap ip, f = .bufferFull .output cap (some ip) →
          cap = it.limits.bufferCapacity ∧ (it.execute ctl w).2.output.size = cap) ∧
        ∀ pos, f.position = some pos →
          (Diagnostic.window it.code.toList pos).1.toList[pos - (pos - 32)]? = it.code.toList[pos]? := by
  have caret := fun (h : f.PointsAt it.code.toList (max it.limits.tapeCells 1)) pos
    (hpos : f.position = some pos) => h.caret hpos
  rintro (h | h)
  · obtain ⟨hst, hsite⟩ := check_fault_site h (max it.limits.tapeCells 1)
    refine ⟨hsite, fun cap ip hf => ?_, caret hsite⟩
    subst hf
    cases hst
  · obtain ⟨hsite, hout⟩ := run_fault_site h
    exact ⟨hsite, hout, caret hsite⟩

theorem lex_stray_close : lex [']'] = [⟨0, 1, .op ']'⟩] := by
  simp [lex, Lexeme.scan_cons, Lexeme.read, Lexeme.scan.eq_1, commentMark, labelMark, jumpMark,
    isOperator]

/-- A closing bracket with no loop open is reported at itself. -/
theorem stray_close_fault_site :
    Program.check (Interpreter.new "]").code.toList (Interpreter.new "]").limits =
        .error (.unbalanced 0 .closing) ∧
      (Fault.unbalanced 0 .closing).PointsAt (Interpreter.new "]").code.toList 5000 := by
  have h : Program.check (Interpreter.new "]").code.toList (Interpreter.new "]").limits =
      .error (.unbalanced 0 .closing) := by
    rw [show (Interpreter.new "]").code.toList = [']'] from rfl, Program.check, Program.scan,
      lex_stray_close]
    rfl
  exact ⟨h, (fault_site (Interpreter.new "]") {} {} _ (Or.inl h)).1⟩

end GotoTape
