import GotoTape.Interpreter
import Mathlib.Logic.Relation
/-!
# The run loop, pass by pass

A call of `Machine.step` folds several passes of the run loop into one: it passes over comment
delimiters and comment text a character at a time, asks the control, and dispatches. Here the
passes are taken apart. `Machine.Tick` is one pass: a delimiter toggles the comment flag, a
character inside a comment is passed over, and any other character is dispatched. Every machine
that a step or a run reaches is reached by passes, so what every pass keeps, every run keeps.

Main statements: `dispatch_stepped` and `dispatch_faulted` (all that a dispatch can do),
`step_eq` (a step is a seek, then a halt, a fault of the control or a dispatch),
`runFor_invariant` (what seeking and every step keep, a run keeps), `ticks_runFor` (a run ends
at a machine the passes reach) and `execute_of_check` (a run of an interpreter is the run of its
checked program from a fresh machine).
-/

namespace GotoTape

theorem LabelTable.resolve_eq_error_iff {t : LabelTable} {label : Char} {ip : Nat} {f : Fault} :
    t.resolve label ip = .error f ↔ t.lookup label = none ∧ f = .unknownLabel ip label := by
  unfold LabelTable.resolve
  cases t.lookup label <;> simp [eq_comm]

namespace Machine

/-! ## Dispatch -/

section Dispatch

variable {p : Program} {c : Char} {m m' : Machine} {row : Row} {f : Fault}

/-- What a dispatched step does: it counts one step, keeps the comment flag, and goes on after
the instruction, after the partner of a loop bracket, after the operand of a label definition,
or at the target of a jump. -/
theorem dispatch_stepped (h : dispatch p c m = .stepped row m') :
    m'.inComment = m.inComment ∧ m'.steps = m.steps + 1 ∧
      (c ≠ labelMark ∧ c ≠ jumpMark ∧ m'.ip = m.ip + 1 ∨
        (c = '[' ∨ c = ']') ∧ (∃ j, p.brackets.partner m.ip = some j ∧ m'.ip = j + 1) ∨
        c = labelMark ∧ m'.ip = m.ip + 2 ∨
        c = jumpMark ∧ ∃ l, p.chars[m.ip + 1]? = some l ∧ p.labels.lookup l = some m'.ip) := by
  obtain ⟨tape, input, output, eof, ip, inComment, steps⟩ := m
  simp only [dispatch] at h
  split at h <;> (repeat' split at h) <;> simp only [reduceCtorEq, Step.stepped.injEq] at h <;>
    obtain ⟨-, rfl⟩ := h
  all_goals refine ⟨rfl, rfl, ?_⟩
  all_goals simp_all [labelMark, jumpMark, LabelTable.resolve_eq_ok_iff]

/-- A dispatch that faults leaves the machine as it was. Its fault is one found only by running,
unless a loop bracket has no partner or a label marker has no operand. -/
theorem dispatch_faulted (h : dispatch p c m = .faulted f m') :
    m' = m ∧ (f.isStatic = false ∨
      (c = '[' ∨ c = ']') ∧ p.brackets.partner m.ip = none ∨
      (c = labelMark ∨ c = jumpMark) ∧ p.chars[m.ip + 1]? = none) := by
  obtain ⟨tape, input, output, eof, ip, inComment, steps⟩ := m
  simp only [dispatch] at h
  split at h <;> (repeat' split at h) <;> simp only [reduceCtorEq, Step.faulted.injEq] at h <;>
    obtain ⟨rfl, rfl⟩ := h
  all_goals refine ⟨rfl, ?_⟩
  all_goals simp_all [Fault.isStatic, OutputBuffer.overflow, LabelTable.resolve_eq_error_iff,
    labelMark, jumpMark]

/-- A dispatch never halts: halting is decided before it, at the end of the text. -/
theorem dispatch_ne_halted : dispatch p c m ≠ .halted m' := by
  obtain ⟨tape, input, output, eof, ip, inComment, steps⟩ := m
  simp only [dispatch]
  split <;> (repeat' split) <;> simp

end Dispatch

/-- The row of a step of `m` that dispatches `c` at `ip` and does `a`. -/
def rowAt (m : Machine) (ip : Nat) (c : Char) (a : Action) : Row :=
  { step := m.steps, ip := ip, ptr := m.tape.pointer, cell := m.tape.read, instr := c, action := a }

/-! ### Loop brackets -/

section Brackets

variable {p : Program} {m : Machine} {j : Nat}

theorem dispatch_open_skip (h : m.tape.read = 0) (hj : p.brackets.partner m.ip = some j) :
    dispatch p '[' m =
      .stepped (m.rowAt m.ip '[' (.skipLoop (j + 1))) { m with ip := j + 1, steps := m.steps + 1 } := by
  obtain ⟨tape, input, output, eof, ip, inComment, steps⟩ := m
  simp_all [dispatch, rowAt]

theorem dispatch_open_enter (h : m.tape.read ≠ 0) :
    dispatch p '[' m =
      .stepped (m.rowAt m.ip '[' .enterLoop) { m with ip := m.ip + 1, steps := m.steps + 1 } := by
  obtain ⟨tape, input, output, eof, ip, inComment, steps⟩ := m
  simp_all [dispatch, rowAt]

theorem dispatch_close_repeat (h : m.tape.read ≠ 0) (hj : p.brackets.partner m.ip = some j) :
    dispatch p ']' m =
      .stepped (m.rowAt m.ip ']' (.repeatLoop (j + 1))) { m with ip := j + 1, steps := m.steps + 1 } := by
  obtain ⟨tape, input, output, eof, ip, inComment, steps⟩ := m
  simp_all [dispatch, rowAt]

theorem dispatch_close_exit (h : m.tape.read = 0) :
    dispatch p ']' m =
      .stepped (m.rowAt m.ip ']' .exitLoop) { m with ip := m.ip + 1, steps := m.steps + 1 } := by
  obtain ⟨tape, input, output, eof, ip, inComment, steps⟩ := m
  simp_all [dispatch, rowAt]

end Brackets

/-! ## Seeking -/

section Seek

variable {chars : Array Char} {ip : Nat} {d : Bool}

theorem seek_of_mark (h : ip < chars.size) (hc : chars[ip] = commentMark) :
    seek chars ip d = seek chars (ip + 1) (!d) := by
  rw [seek.eq_def, dif_pos h]
  exact if_pos hc

theorem seek_of_comment (h : ip < chars.size) (hc : chars[ip] ≠ commentMark) :
    seek chars ip true = seek chars (ip + 1) true := by
  rw [seek.eq_def, dif_pos h]
  exact (if_neg hc).trans (if_pos rfl)

theorem seek_of_code (h : ip < chars.size) (hc : chars[ip] ≠ commentMark) :
    seek chars ip false = (ip, false) := by
  rw [seek.eq_def, dif_pos h]
  exact (if_neg hc).trans (if_neg Bool.false_ne_true)

theorem seek_of_end (h : chars.size ≤ ip) : seek chars ip d = (ip, d) := by
  rw [seek.eq_def, dif_neg (Nat.not_lt_of_le h)]

end Seek

/-! ## Passes -/

/-- One pass of the run loop of program `p`. -/
inductive Tick (p : Program) : Machine → Machine → Prop
  /-- A comment delimiter toggles the comment flag. -/
  | toggle {m : Machine} (h : p.chars[m.ip]? = some commentMark) :
      Tick p m { m with ip := m.ip + 1, inComment := !m.inComment }
  /-- A character inside a comment is passed over. -/
  | skip {m : Machine} {c : Char} (h : p.chars[m.ip]? = some c) (hc : c ≠ commentMark)
      (hin : m.inComment = true) : Tick p m { m with ip := m.ip + 1 }
  /-- Any other character is dispatched. -/
  | dispatch {m m' : Machine} {c : Char} {row : Row} (h : p.chars[m.ip]? = some c)
      (hc : c ≠ commentMark) (hin : m.inComment = false)
      (hd : Machine.dispatch p c m = .stepped row m') : Tick p m m'

/-- The machine `m` moved to where seeking from it stops, with the comment flag there. -/
def seekFrom (p : Program) (m : Machine) : Machine :=
  { m with ip := (seek p.chars m.ip m.inComment).1, inComment := (seek p.chars m.ip m.inComment).2 }

@[simp] theorem steps_seekFrom (p : Program) (m : Machine) : (seekFrom p m).steps = m.steps := rfl

@[simp] theorem tape_seekFrom (p : Program) (m : Machine) : (seekFrom p m).tape = m.tape := rfl

@[simp] theorem output_seekFrom (p : Program) (m : Machine) : (seekFrom p m).output = m.output := rfl

@[simp] theorem input_seekFrom (p : Program) (m : Machine) : (seekFrom p m).input = m.input := rfl


section Passes

variable {p : Program}

/-- Seeking is a run of passes that each toggle the flag or pass over comment text. -/
theorem ticks_seekFrom (m : Machine) : Relation.ReflTransGen (Tick p) m (seekFrom p m) := by
  obtain ⟨tape, input, output, eof, ip, d, steps⟩ := m
  unfold seekFrom
  dsimp only
  fun_induction seek p.chars ip d with
  | case1 ip d h c hc ih =>
    exact .head (.toggle (by simp [h, ← hc, c])) ih
  | case2 ip h c hc ih =>
    exact .head (.skip (by simp [h, c]) hc rfl) ih
  | case3 ip d h c hc hin =>
    simp only [Bool.not_eq_true] at hin
    subst hin
    exact .refl
  | case4 ip d h => exact .refl

/-- Seeking stops at the end of the text or at a character outside comments that is not a
delimiter. -/
theorem seekFrom_stop (m : Machine) (h : (seekFrom p m).ip < p.chars.size) :
    p.chars[(seekFrom p m).ip] ≠ commentMark ∧ (seekFrom p m).inComment = false := by
  obtain ⟨tape, input, output, eof, ip, d, steps⟩ := m
  unfold seekFrom at h ⊢
  dsimp only at h ⊢
  fun_induction seek p.chars ip d with
  | case1 ip d _ _ _ ih => exact ih h
  | case2 ip _ _ _ ih => exact ih h
  | case3 ip d _ _ hc _ => exact ⟨hc, rfl⟩
  | case4 ip d hlt => exact absurd h hlt

end Passes

/-! ## Steps and runs -/

/-- A step seeks past comments, then halts at the end of the text, stops on the fault of the
control, or dispatches the character it stands on. -/
theorem step_eq (p : Program) (ctl : Control) (m : Machine) :
    step p ctl m =
      if h : (seekFrom p m).ip < p.chars.size then
        match ctl.check m.steps with
        | some f => .faulted f (seekFrom p m)
        | none => dispatch p p.chars[(seekFrom p m).ip] (seekFrom p m)
      else .halted (seekFrom p m) := rfl

section Steps

variable {p : Program} {ctl : Control} {m m' : Machine} {row : Row} {f : Fault}

theorem step_halted (h : step p ctl m = .halted m') :
    m' = seekFrom p m ∧ p.chars.size ≤ m'.ip := by
  rw [step_eq] at h
  split at h
  · split at h
    · cases h
    · exact absurd h dispatch_ne_halted
  · cases h
    exact ⟨rfl, Nat.le_of_not_lt ‹_›⟩

/-- A step faults where seeking stopped, on the fault of the control or of the dispatch there. -/
theorem step_faulted (h : step p ctl m = .faulted f m') :
    m' = seekFrom p m ∧ ∃ hlt : m'.ip < p.chars.size,
      ctl.check m.steps = some f ∨
        ctl.check m.steps = none ∧ dispatch p p.chars[m'.ip] m' = .faulted f m' := by
  rw [step_eq] at h
  split at h
  · rename_i hlt
    split at h
    · cases h
      exact ⟨rfl, hlt, Or.inl ‹_›⟩
    · obtain ⟨rfl, -⟩ := dispatch_faulted h
      exact ⟨rfl, hlt, Or.inr ⟨‹_›, h⟩⟩
  · cases h

/-- A step that runs dispatches where seeking stopped, with the control's leave. -/
theorem step_stepped (h : step p ctl m = .stepped row m') :
    ∃ hlt : (seekFrom p m).ip < p.chars.size,
      ctl.check m.steps = none ∧ dispatch p p.chars[(seekFrom p m).ip] (seekFrom p m) = .stepped row m' := by
  rw [step_eq] at h
  split at h
  · rename_i hlt
    split at h
    · cases h
    · exact ⟨hlt, ‹_›, h⟩
  · cases h

/-- A step that the control lets through dispatches where seeking stopped. -/
theorem step_of_check_none (hc : ctl.check m.steps = none) (h : (seekFrom p m).ip < p.chars.size) :
    step p ctl m = dispatch p p.chars[(seekFrom p m).ip] (seekFrom p m) := by
  rw [step_eq, dif_pos h, hc]

/-- A step halts where seeking reaches the end of the text. -/
theorem step_of_end (h : p.chars.size ≤ (seekFrom p m).ip) : step p ctl m = .halted (seekFrom p m) := by
  rw [step_eq, dif_neg (Nat.not_lt_of_le h)]

/-- A step that runs is a run of passes. -/
theorem ticks_step (h : step p ctl m = .stepped row m') : Relation.ReflTransGen (Tick p) m m' := by
  obtain ⟨hlt, -, hd⟩ := step_stepped h
  obtain ⟨hc, hin⟩ := seekFrom_stop m hlt
  exact (ticks_seekFrom m).tail (.dispatch (Array.getElem?_eq_getElem hlt) hc hin hd)

end Steps

section Runs

variable {σ : Type} {p : Program} {ctl : Control} {watch : σ → Row → σ}

/-- What seeking keeps and every step that runs keeps, a run keeps: a run ends after its steps,
where a last call seeks or nothing is left of the fuel. -/
theorem runFor_invariant (I : σ → Machine → Prop) (hseek : ∀ acc m, I acc m → I acc (seekFrom p m))
    (hstep : ∀ acc m row m', I acc m → step p ctl m = .stepped row m' → I (watch acc row) m')
    (n : Nat) : ∀ (acc : σ) (m : Machine), I acc m →
      I (runFor p ctl watch n acc m).2.2 (runFor p ctl watch n acc m).2.1 := by
  induction n with
  | zero => exact fun _ _ h => h
  | succ n ih =>
    intro acc m h
    unfold runFor
    cases hs : step p ctl m with
    | halted m' =>
      rw [(step_halted hs).1]
      exact hseek acc m h
    | faulted f m' =>
      rw [(step_faulted hs).1]
      exact hseek acc m h
    | stepped row m' => exact ih _ m' (hstep acc m row m' h hs)

/-- A run ends at a machine the passes reach from its start. -/
theorem ticks_runFor (n : Nat) (acc : σ) (m : Machine) :
    Relation.ReflTransGen (Tick p) m (runFor p ctl watch n acc m).2.1 :=
  runFor_invariant (fun _ m' => Relation.ReflTransGen (Tick p) m m')
    (fun _ m' h => h.trans (ticks_seekFrom m')) (fun _ _ _ _ h hs => h.trans (ticks_step hs)) n acc m
    .refl

/-- A run that faults does so in a step from a machine the passes reach from its start. -/
theorem runFor_fault {n : Nat} {acc r : σ} {m m' : Machine} {f : Fault}
    (h : runFor p ctl watch n acc m = (.fault f, m', r)) :
    ∃ m₁, Relation.ReflTransGen (Tick p) m m₁ ∧ step p ctl m₁ = .faulted f m' := by
  induction n generalizing acc m with
  | zero => cases h
  | succ n ih =>
    unfold runFor at h
    split at h
    · cases h
    · rename_i f' m'' hs
      simp only [Prod.mk.injEq, Outcome.fault.injEq] at h
      obtain ⟨rfl, rfl, -⟩ := h
      exact ⟨m, .refl, hs⟩
    · rename_i row m'' hs
      obtain ⟨m₁, ht, hf⟩ := ih h
      exact ⟨m₁, (ticks_step hs).trans ht, hf⟩

end Runs

end Machine

/-- The control stops a run only with a fault found while running. -/
theorem Control.isStatic_of_check {ctl : Control} {s : Nat} {f : Fault}
    (h : ctl.check s = some f) : f.isStatic = false := by
  unfold Control.check Control.limitCheck at h
  split at h <;> (repeat' split at h) <;> simp only [Option.some.injEq, reduceCtorEq] at h <;>
    subst h <;> rfl

/-- The machine a run of `it` starts from: a zero tape, an empty output, and the staged input
from its first byte. -/
def Interpreter.start (it : Interpreter) : Machine :=
  { tape := .new it.limits.tapeCells, input := it.input.rewind,
    output := .new it.limits.bufferCapacity, eof := it.eof }

/-- A run of an interpreter whose text passes the pre-scan is the run of its program from a fresh
machine: it reports that run's outcome, rows and steps and keeps its tape, output and input. -/
theorem Interpreter.execute_of_check {it : Interpreter} {p : Program}
    (h : Program.check it.code.toList it.limits = .ok p) (ctl : Control) (w : Watch) :
    (it.execute ctl w).1.outcome = (Machine.run p ctl w.note {} it.start).1 ∧
      (it.execute ctl w).1.rows = (Machine.run p ctl w.note {} it.start).2.2.rows ∧
      (it.execute ctl w).1.steps = (Machine.run p ctl w.note {} it.start).2.1.steps ∧
      (it.execute ctl w).2.tape = (Machine.run p ctl w.note {} it.start).2.1.tape ∧
      (it.execute ctl w).2.output = (Machine.run p ctl w.note {} it.start).2.1.output ∧
      (it.execute ctl w).2.input = (Machine.run p ctl w.note {} it.start).2.1.input := by
  simp only [Interpreter.execute]
  rw [show (Program.scan it.code.toList it.limits).result = .ok p from h]
  exact ⟨rfl, rfl, rfl, rfl, rfl, rfl⟩

/-- A run of an interpreter whose text fails the pre-scan reports the pre-scan's fault with no
rows and leaves the interpreter as it was. -/
theorem Interpreter.execute_of_check_error {it : Interpreter} {f : Fault}
    (h : Program.check it.code.toList it.limits = .error f) (ctl : Control) (w : Watch) :
    (it.execute ctl w).1.outcome = .fault f ∧ (it.execute ctl w).1.rows = #[] ∧
      (it.execute ctl w).2 = it := by
  simp only [Interpreter.execute]
  rw [show (Program.scan it.code.toList it.limits).result = .error f from h]
  exact ⟨rfl, rfl, rfl⟩

end GotoTape
