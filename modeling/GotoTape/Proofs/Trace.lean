import GotoTape.Proofs.Instructions
/-!
# What a trace tells

A run that keeps its trace does what a run that keeps nothing does: the rows are folded into a
value that nothing else reads (`runFor_watch`). And the trace tells the whole run. Each row has
its step number, the position and the character of its instruction, and the head and the cell
before the step. The actions alone, replayed from a zero tape, give back the head and the cell of
every row and the tape at the end, also when the run ends in a fault, since a faulting step
changes nothing. The output is the bytes of the output actions, and the input actions read the
staged bytes from the first on, then nothing, storing what the end-of-input policy says.

The proof is a step lemma and a run lemma. `Machine.Records` is what one row tells about the step
it records, and every dispatched step has a row that records it (`dispatch_records`).
`Machine.Logged` strings such rows together; the rows a run keeps are a log of it
(`runFor_logged`), and what a log tells about the whole run follows by induction over it.

Main statements: `Interpreter.execute_watch` and `traced_run_faithful`.
-/

namespace GotoTape

/-! ## Replaying actions -/

/-- The cells and the head of a tape, as a trace describes them. -/
structure Replay where
  cells : Array UInt8
  ptr : Nat
  deriving DecidableEq, Repr

namespace Replay

/-- The cells and the head of a tape. -/
def of (t : Tape) : Replay := ⟨t.cells, t.pointer⟩

/-- `count` zero cells, and one when `count` is zero, with the head on the first. -/
def zeroed (count : Nat) : Replay := ⟨Array.replicate (max count 1) 0, 0⟩

/-- The byte under the head. -/
def cell (r : Replay) : Option UInt8 := r.cells[r.ptr]?

/-- What an action does to the cells and the head: a move sets the head, an increment or a
decrement sets the cell it names to its byte after, and an input sets the cell under the head to
the byte stored. Nothing else touches the tape. -/
def apply (r : Replay) : Action → Replay
  | .movePointer target => { r with ptr := target }
  | .increment cell _ after => { r with cells := r.cells.setIfInBounds cell after }
  | .decrement cell _ after => { r with cells := r.cells.setIfInBounds cell after }
  | .input _ stored => { r with cells := r.cells.setIfInBounds r.ptr stored }
  | .output _ | .enterLoop | .skipLoop _ | .repeatLoop _ | .exitLoop | .defineLabel _ | .jump _ _
  | .nothing => r

/-- Replays the actions of `rows`, first to last. -/
def replay (r : Replay) (rows : List Row) : Replay := rows.foldl (fun r row => r.apply row.action) r

@[simp] theorem of_new (count : Nat) : of (Tape.new count) = zeroed count := rfl

@[simp] theorem replay_nil (r : Replay) : r.replay [] = r := rfl

@[simp] theorem replay_cons (r : Replay) (row : Row) (rows : List Row) :
    r.replay (row :: rows) = (r.apply row.action).replay rows := rfl

theorem cell_of (t : Tape) : (of t).cell = some t.read := by
  simp [of, cell, Tape.read, t.pointer_lt]

theorem of_write (t : Tape) (v : UInt8) : of (t.write v) = ⟨t.cells.setIfInBounds t.pointer v, t.pointer⟩ := by
  obtain ⟨cells, pointer, h⟩ := t
  simp [of, Tape.write, Array.setIfInBounds_def, h]

/-- Writing the byte a cell already holds changes nothing. -/
theorem of_write_read (t : Tape) : of (t.write t.read) = of t := by
  rw [of_write, Array.setIfInBounds_def, dif_pos t.pointer_lt]
  simp [of, Tape.read, Array.set_getElem_self]

theorem apply_input (t : Tape) (b : Option UInt8) (v : UInt8) :
    (of t).apply (.input b v) = of (t.write v) := by
  rw [of_write]
  rfl

theorem apply_increment (t : Tape) (a : UInt8) :
    (of t).apply (.increment t.pointer a t.increment.read) = of t.increment := by
  rw [Tape.increment, of_write, Tape.read_write]
  rfl

theorem apply_decrement (t : Tape) (a : UInt8) :
    (of t).apply (.decrement t.pointer a t.decrement.read) = of t.decrement := by
  rw [Tape.decrement, of_write, Tape.read_write]
  rfl

theorem apply_shift {t u : Tape} {delta : Int} (h : t.shift delta = some u) :
    (of t).apply (.movePointer u.pointer) = of u := by
  obtain ⟨-, -, hc, -⟩ := Tape.shift_eq_some_iff.1 h
  simp [apply, of, hc]

end Replay

/-! ## What an action reads and writes -/

namespace Action

/-- The byte an action wrote to the output. -/
@[simp] def written : Action → Option UInt8
  | .output byte => some byte
  | .movePointer _ | .increment _ _ _ | .decrement _ _ _ | .input _ _ | .enterLoop | .skipLoop _
  | .repeatLoop _ | .exitLoop | .defineLabel _ | .jump _ _ | .nothing => none

/-- What an action took from the input: `some byte` for a read, where `byte` is `none` at the end
of the input. -/
@[simp] def taken : Action → Option (Option UInt8)
  | .input byte _ => some byte
  | .movePointer _ | .increment _ _ _ | .decrement _ _ _ | .output _ | .enterLoop | .skipLoop _
  | .repeatLoop _ | .exitLoop | .defineLabel _ | .jump _ _ | .nothing => none

/-- An increment or a decrement names the cell under the head, the byte there before, and that
byte plus or minus one, wrapping, after. -/
@[simp] def Counts (ptr : Nat) (cell : UInt8) : Action → Prop
  | .increment c before after => c = ptr ∧ before = cell ∧ after = before + 1
  | .decrement c before after => c = ptr ∧ before = cell ∧ after = before - 1
  | .movePointer _ | .output _ | .input _ _ | .enterLoop | .skipLoop _ | .repeatLoop _ | .exitLoop
  | .defineLabel _ | .jump _ _ | .nothing => True

/-- Actions that only move the instruction pointer. -/
def Steers : Action → Prop
  | .enterLoop | .skipLoop _ | .repeatLoop _ | .exitLoop | .defineLabel _ | .jump _ _ | .nothing => True
  | .movePointer _ | .increment _ _ _ | .decrement _ _ _ | .output _ | .input _ _ => False

end Action

/-- The bytes the actions of `rows` wrote to the output, in order. -/
def writtenBy (rows : List Row) : List UInt8 := rows.filterMap (·.action.written)

/-- What the actions of `rows` took from the input, in order. -/
def takenBy (rows : List Row) : List (Option UInt8) := rows.filterMap (·.action.taken)

theorem writtenBy_cons (row : Row) (rows : List Row) :
    writtenBy (row :: rows) = row.action.written.toList ++ writtenBy rows := by
  cases h : row.action.written <;>
    simp only [writtenBy, List.filterMap_cons, h, Option.toList_none, Option.toList_some,
      List.nil_append, List.singleton_append]

theorem takenBy_cons (row : Row) (rows : List Row) :
    takenBy (row :: rows) = row.action.taken.toList ++ takenBy rows := by
  cases h : row.action.taken <;>
    simp only [takenBy, List.filterMap_cons, h, Option.toList_none, Option.toList_some,
      List.nil_append, List.singleton_append]

/-- The byte a read past the end of the input leaves in a cell that holds `cell`. -/
@[simp] def EofPolicy.fill : EofPolicy → UInt8 → UInt8
  | .zero, _ => 0
  | .unchanged, cell => cell

namespace InputBuffer

/-- The buffer after `n` reads: the cursor moves on by `n`, but not past the staged bytes. -/
def skip (b : InputBuffer) (n : Nat) : InputBuffer :=
  { b with read := min (b.read + n) b.staged.size }

@[simp] theorem staged_skip (b : InputBuffer) (n : Nat) : (b.skip n).staged = b.staged := rfl

theorem read_skip_le (b : InputBuffer) (n : Nat) : (b.skip n).read ≤ (b.skip n).staged.size :=
  Nat.min_le_right _ _

section Cursor

variable {b : InputBuffer}

theorem skip_zero (h : b.read ≤ b.staged.size) : b.skip 0 = b := by
  simp [skip, Nat.min_eq_left h]

theorem skip_skip (i j : Nat) : (b.skip i).skip j = b.skip (i + j) := by
  simp only [skip, InputBuffer.mk.injEq, true_and]
  omega

/-- A read moves the cursor on by one, and at the end of the input not at all. -/
theorem next_snd (h : b.read ≤ b.staged.size) : b.next.2 = b.skip 1 := by
  unfold next skip
  split
  · rename_i hlt
    simp only [InputBuffer.mk.injEq, true_and]
    omega
  · rename_i hge
    have hr : b.read = b.staged.size := by omega
    obtain ⟨capacity, staged, read⟩ := b
    simp_all

/-- The `j`-th read of a run started at the first staged byte gives the `j`-th staged byte. -/
theorem rewind_skip_next (b : InputBuffer) (j : Nat) : (b.rewind.skip j).next.1 = b.staged[j]? := by
  rw [next_fst]
  simp only [skip, rewind, Nat.zero_add]
  by_cases hj : j ≤ b.staged.size
  · rw [Nat.min_eq_left hj]
  · rw [Nat.min_eq_right (by omega), Array.getElem?_eq_none (Nat.le_refl _),
      Array.getElem?_eq_none (by omega)]

end Cursor

end InputBuffer

theorem Watch.rows_note (w : Watch) (k : Kept) (r : Row) :
    (w.note k r).rows = if w.rows then k.rows.push r else k.rows := by
  obtain ⟨rows, jumps⟩ := k
  simp only [Watch.note]
  split <;> rfl

/-! ## One step -/

namespace Machine

/-- What the row of a step of `p` from `m` to `m'` tells. It has the step's number, the head and
the cell before the step, and its instruction, which stands in the text where the row says. The
step counts one and keeps the end-of-input policy. Its action, replayed, takes the cells and head
of `m` to those of `m'`; the output grows by the byte it wrote, and the input moves on by one
exactly when it read. A read takes the next staged byte and stores it, or at the end of the input
what the policy says. -/
structure Records (p : Program) (m : Machine) (row : Row) (m' : Machine) : Prop where
  shape : row = m.rowAt row.ip row.instr row.action
  instr : p.chars[row.ip]? = some row.instr
  steps : m'.steps = m.steps + 1
  eof : m'.eof = m.eof
  tape : Replay.of m'.tape = (Replay.of m.tape).apply row.action
  output : m'.output.bytes.toList = m.output.bytes.toList ++ row.action.written.toList
  input : m'.input = if row.action.taken.isSome then m.input.next.2 else m.input
  counts : row.action.Counts m.tape.pointer m.tape.read
  taken : ∀ b, row.action.taken = some b → b = m.input.next.1
  stored : ∀ b s, row.action = .input b s → s = b.getD (m.eof.fill m.tape.read)

section Records

variable {p : Program} {c : Char} {m m' : Machine} {row : Row}

@[simp] theorem action_rowAt (ip : Nat) (c : Char) (a : Action) : (m.rowAt ip c a).action = a := rfl

/-- A loop bracket, a label definition, a jump and an inert character only steer. -/
theorem dispatch_steers (h₁ : c ≠ '>') (h₂ : c ≠ '<') (h₃ : c ≠ '+') (h₄ : c ≠ '-') (h₅ : c ≠ '.')
    (h₆ : c ≠ ',') (h : dispatch p c m = .stepped row m') :
    row = m.rowAt m.ip c row.action ∧ row.action.Steers := by
  obtain ⟨tape, input, output, eof, ip, inComment, steps⟩ := m
  simp only [dispatch] at h
  split at h <;> (repeat' split at h) <;> simp only [reduceCtorEq, Step.stepped.injEq] at h
  all_goals obtain ⟨rfl, -⟩ := h
  all_goals simp_all [rowAt, Action.Steers]

theorem records_move (hm : c = '>' ∨ c = '<') (hc : p.chars[m.ip]? = some c)
    (h : dispatch p c m = .stepped row m') : Records p m row m' := by
  rw [dispatch_move hm] at h
  split at h
  · rename_i t ht
    cases h
    refine ⟨rfl, hc, rfl, rfl, (Replay.apply_shift ht).symm, ?_, ?_, trivial, ?_, ?_⟩ <;> simp
  · cases h

theorem records_increment (hc : p.chars[m.ip]? = some '+')
    (h : dispatch p '+' m = .stepped row m') : Records p m row m' := by
  rw [dispatch_increment] at h
  cases h
  refine ⟨rfl, hc, rfl, rfl, (Replay.apply_increment _ _).symm, ?_, ?_, ?_, ?_, ?_⟩ <;>
    simp [Tape.increment]

theorem records_decrement (hc : p.chars[m.ip]? = some '-')
    (h : dispatch p '-' m = .stepped row m') : Records p m row m' := by
  rw [dispatch_decrement] at h
  cases h
  refine ⟨rfl, hc, rfl, rfl, (Replay.apply_decrement _ _).symm, ?_, ?_, ?_, ?_, ?_⟩ <;>
    simp [Tape.decrement]

theorem records_output (hc : p.chars[m.ip]? = some '.')
    (h : dispatch p '.' m = .stepped row m') : Records p m row m' := by
  rw [dispatch_output] at h
  split at h
  · cases h
  · cases h
    refine ⟨rfl, hc, rfl, rfl, rfl, ?_, ?_, trivial, ?_, ?_⟩ <;> simp [OutputBuffer.push]

theorem records_input (hc : p.chars[m.ip]? = some ',')
    (h : dispatch p ',' m = .stepped row m') : Records p m row m' := by
  rcases hn : m.input.next with ⟨_ | b, rest⟩
  · cases he : m.eof
    · rw [dispatch_input_zero hn he] at h
      cases h
      refine ⟨rfl, hc, rfl, rfl, (Replay.apply_input _ _ _).symm, ?_, ?_, trivial, ?_, ?_⟩ <;>
        simp [hn, he]
    · rw [dispatch_input_unchanged hn he] at h
      cases h
      refine ⟨rfl, hc, rfl, rfl, ((Replay.apply_input _ _ _).trans (Replay.of_write_read _)).symm,
        ?_, ?_, trivial, ?_, ?_⟩ <;> simp [hn, he]
  · rw [dispatch_input_byte hn] at h
    cases h
    refine ⟨rfl, hc, rfl, rfl, (Replay.apply_input _ _ _).symm, ?_, ?_, trivial, ?_, ?_⟩ <;>
      simp [hn]

theorem records_steers (hc : p.chars[m.ip]? = some c) (h₁ : c ≠ '>') (h₂ : c ≠ '<') (h₃ : c ≠ '+')
    (h₄ : c ≠ '-') (h₅ : c ≠ '.') (h₆ : c ≠ ',') (h : dispatch p c m = .stepped row m') :
    Records p m row m' := by
  obtain ⟨hrow, hs⟩ := dispatch_steers h₁ h₂ h₃ h₄ h₅ h₆ h
  rw [dispatch_frame h₁ h₂ h₃ h₄ h₅ h₆ h]
  generalize row.action = a at hrow hs
  subst hrow
  refine ⟨rfl, hc, rfl, rfl, ?_, ?_, ?_, ?_, ?_, ?_⟩ <;>
    cases a <;> simp_all [Action.Steers, Replay.apply]

/-- Every dispatched step has a row that records it. -/
theorem dispatch_records (hc : p.chars[m.ip]? = some c) (h : dispatch p c m = .stepped row m') :
    Records p m row m' := by
  rcases char_cases c with rfl | rfl | rfl | rfl | rfl | rfl | rfl | rfl | rfl | rfl |
    ⟨h₁, h₂, h₃, h₄, h₅, h₆, -⟩
  · exact records_move (Or.inl rfl) hc h
  · exact records_move (Or.inr rfl) hc h
  · exact records_increment hc h
  · exact records_decrement hc h
  · exact records_output hc h
  · exact records_input hc h
  all_goals first
    | exact records_steers hc h₁ h₂ h₃ h₄ h₅ h₆ h
    | exact records_steers hc (by decide) (by decide) (by decide) (by decide) (by decide)
        (by decide) h

/-- Passing over comments changes nothing a row tells. -/
theorem Records.of_seekFrom (h : Records p (seekFrom p m) row m') : Records p m row m' :=
  ⟨h.shape, h.instr, h.steps, h.eof, h.tape, h.output, h.input, h.counts, h.taken, h.stored⟩

/-- The row of a step records it. -/
theorem step_records {ctl : Control} (h : step p ctl m = .stepped row m') : Records p m row m' := by
  obtain ⟨hlt, -, hd⟩ := step_stepped h
  exact (dispatch_records (Array.getElem?_eq_getElem hlt) hd).of_seekFrom

end Records

/-! ## Whole runs -/

/-- `L` is a log of the steps of `p` from `m` to `m'`: each row records its step, and before,
between and after the steps the machine only moves in the text. -/
inductive Logged (p : Program) : Machine → List Row → Machine → Prop
  | nil {m m' : Machine} : m.Agree m' → Logged p m [] m'
  | cons {m m₁ m' : Machine} {row : Row} {L : List Row} :
      Records p m row m₁ → Logged p m₁ L m' → Logged p m (row :: L) m'

section Logged

variable {p : Program} {m m' : Machine} {L : List Row}

theorem Logged.steps (h : Logged p m L m') : m'.steps = m.steps + L.length := by
  induction h with
  | nil hm => exact hm.2.2.2.2.symm
  | cons hr _ ih => rw [ih, hr.steps, List.length_cons]; omega

theorem Logged.eof (h : Logged p m L m') : m'.eof = m.eof := by
  induction h with
  | nil hm => exact hm.2.2.2.1.symm
  | cons hr _ ih => rw [ih, hr.eof]

/-- The rows are numbered from the step count at the start on. -/
theorem Logged.numbered (h : Logged p m L m') : ∀ i (hi : i < L.length), L[i].step = m.steps + i := by
  induction h with
  | nil _ => intro i hi; cases hi
  | @cons m m₁ m' row L hr _ ih =>
    intro i hi
    cases i with
    | zero => rw [hr.shape]; rfl
    | succ i =>
      rw [List.getElem_cons_succ, ih i (by simpa using hi), hr.steps]
      omega

theorem Logged.instr (h : Logged p m L m') : ∀ r ∈ L, p.chars[r.ip]? = some r.instr := by
  induction h with
  | nil _ => intro r hr; cases hr
  | cons hr _ ih =>
    intro r hmem
    rcases List.mem_cons.1 hmem with rfl | hmem
    · exact hr.instr
    · exact ih r hmem

theorem Logged.counts (h : Logged p m L m') : ∀ r ∈ L, r.action.Counts r.ptr r.cell := by
  induction h with
  | nil _ => intro r hr; cases hr
  | cons hr _ ih =>
    intro r hmem
    rcases List.mem_cons.1 hmem with rfl | hmem
    · rw [hr.shape]
      exact hr.counts
    · exact ih r hmem

theorem Logged.stored (h : Logged p m L m') :
    ∀ r ∈ L, ∀ b s, r.action = .input b s → s = b.getD (m.eof.fill r.cell) := by
  induction h with
  | nil _ => intro r hr; cases hr
  | cons hr hL ih =>
    intro r hmem b s ha
    rcases List.mem_cons.1 hmem with rfl | hmem
    · rw [hr.shape]
      exact hr.stored b s ha
    · rw [ih r hmem b s ha, hr.eof]

/-- Replaying the actions of the log takes the cells and head at the start to those at the end. -/
theorem Logged.after (h : Logged p m L m') : (Replay.of m.tape).replay L = Replay.of m'.tape := by
  induction h with
  | nil hm => rw [Replay.replay_nil, hm.1]
  | cons hr _ ih => rw [Replay.replay_cons, ← hr.tape, ih]

/-- Replaying the actions of the rows before a row gives the head and the cell that row has. -/
theorem Logged.before (h : Logged p m L m') : ∀ i (hi : i < L.length),
    ((Replay.of m.tape).replay (L.take i)).ptr = L[i].ptr ∧
      ((Replay.of m.tape).replay (L.take i)).cell = some L[i].cell := by
  induction h with
  | nil _ => intro i hi; cases hi
  | @cons m m₁ m' row L hr _ ih =>
    intro i hi
    cases i with
    | zero =>
      rw [hr.shape]
      exact ⟨rfl, Replay.cell_of m.tape⟩
    | succ i =>
      rw [List.take_succ_cons, Replay.replay_cons, ← hr.tape, List.getElem_cons_succ]
      exact ih i (by simpa using hi)

theorem Logged.output (h : Logged p m L m') :
    m'.output.bytes.toList = m.output.bytes.toList ++ writtenBy L := by
  induction h with
  | nil hm => rw [hm.2.2.1]; simp [writtenBy]
  | cons hr _ ih =>
    rw [ih, hr.output, writtenBy_cons, List.append_assoc]

/-- A read moves the input on by one and nothing else moves it. -/
theorem Records.input_skip {row : Row} {m₁ : Machine} (h : Records p m row m₁)
    (hr : m.input.read ≤ m.input.staged.size) :
    m₁.input = m.input.skip row.action.taken.toList.length := by
  rw [h.input]
  cases ht : row.action.taken with
  | none => exact (InputBuffer.skip_zero hr).symm
  | some b => exact InputBuffer.next_snd hr

/-- The input moves on by one for each read of the log, and not past its end. -/
theorem Logged.input (h : Logged p m L m') (hr : m.input.read ≤ m.input.staged.size) :
    m'.input = m.input.skip (takenBy L).length := by
  induction h with
  | nil hm => rw [← hm.2.1]; exact (InputBuffer.skip_zero hr).symm
  | cons hrec _ ih =>
    have h₁ := hrec.input_skip hr
    rw [ih (h₁ ▸ InputBuffer.read_skip_le _ _), h₁, InputBuffer.skip_skip, takenBy_cons,
      List.length_append]

/-- The `j`-th read of the log gets what the `j`-th read from the start gets. -/
theorem Logged.taken (h : Logged p m L m') (hr : m.input.read ≤ m.input.staged.size) :
    ∀ j (hj : j < (takenBy L).length), (takenBy L)[j] = (m.input.skip j).next.1 := by
  induction h with
  | nil _ => intro j hj; cases hj
  | @cons m m₁ m' row L hrec _ ih =>
    have h₁ := hrec.input_skip hr
    have ih₁ := ih (h₁ ▸ InputBuffer.read_skip_le _ _)
    intro j hj
    cases ht : row.action.taken with
    | none =>
      simp only [takenBy_cons, ht, Option.toList_none, List.nil_append] at hj ⊢
      rw [ih₁ j hj, h₁, ht, Option.toList_none, List.length_nil, InputBuffer.skip_skip, Nat.zero_add]
    | some b =>
      simp only [takenBy_cons, ht, Option.toList_some, List.singleton_append] at hj ⊢
      cases j with
      | zero => rw [List.getElem_cons_zero, InputBuffer.skip_zero hr, hrec.taken b ht]
      | succ j =>
        rw [List.getElem_cons_succ, ih₁ j (by simpa using hj), h₁, ht, Option.toList_some,
          List.length_singleton, InputBuffer.skip_skip, Nat.add_comm]

end Logged

section Runs

variable (p : Program) (ctl : Control)

/-- What a run does does not depend on what it folds its rows into. -/
theorem runFor_watch {σ τ : Type} (watch : σ → Row → σ) (watch' : τ → Row → τ) :
    ∀ (n : Nat) (acc : σ) (acc' : τ) (m : Machine),
      (runFor p ctl watch n acc m).1 = (runFor p ctl watch' n acc' m).1 ∧
        (runFor p ctl watch n acc m).2.1 = (runFor p ctl watch' n acc' m).2.1
  | 0, _, _, _ => ⟨rfl, rfl⟩
  | n + 1, acc, acc', m => by
    unfold runFor
    cases step p ctl m with
    | halted m' => exact ⟨rfl, rfl⟩
    | faulted f m' => exact ⟨rfl, rfl⟩
    | stepped row m' => exact runFor_watch watch watch' n _ _ m'

/-- The rows a run keeps are a log of it. -/
theorem runFor_logged {w : Watch} (hw : w.rows = true) :
    ∀ (n : Nat) (k : Kept) (m : Machine), ∃ L,
      (runFor p ctl w.note n k m).2.2.rows.toList = k.rows.toList ++ L ∧
        Logged p m L (runFor p ctl w.note n k m).2.1
  | 0, k, m => ⟨[], by simp [runFor], .nil (Agree.refl m)⟩
  | n + 1, k, m => by
    unfold runFor
    cases hs : step p ctl m with
    | halted m' =>
      rw [(step_halted hs).1]
      exact ⟨[], by simp, .nil ⟨rfl, rfl, rfl, rfl, rfl⟩⟩
    | faulted f m' =>
      rw [(step_faulted hs).1]
      exact ⟨[], by simp, .nil ⟨rfl, rfl, rfl, rfl, rfl⟩⟩
    | stepped row m' =>
      obtain ⟨L, hL, hlog⟩ := runFor_logged hw n (w.note k row) m'
      refine ⟨row :: L, ?_, .cons (step_records hs) hlog⟩
      rw [hL, Watch.rows_note, hw, if_pos rfl, Array.toList_push, List.append_assoc,
        List.singleton_append]

end Runs

end Machine

/-! ## Traced runs -/

namespace Interpreter

section Start

variable (it : Interpreter)

@[simp] theorem steps_start : it.start.steps = 0 := rfl

@[simp] theorem tape_start : it.start.tape = .new it.limits.tapeCells := rfl

@[simp] theorem output_start : it.start.output = .new it.limits.bufferCapacity := rfl

@[simp] theorem input_start : it.start.input = it.input.rewind := rfl

@[simp] theorem eof_start : it.start.eof = it.eof := rfl

end Start

/-- The interpreter a run of `it` leaves, when its text passes the pre-scan: the tape, output and
input where the run of its program from a fresh machine left them. -/
theorem execute_snd_of_check {it : Interpreter} {p : Program}
    (h : Program.check it.code.toList it.limits = .ok p) (ctl : Control) (w : Watch) :
    (it.execute ctl w).2 =
      { it with tape := (Machine.run p ctl w.note {} it.start).2.1.tape,
                output := (Machine.run p ctl w.note {} it.start).2.1.output,
                input := (Machine.run p ctl w.note {} it.start).2.1.input } := by
  simp only [Interpreter.execute]
  rw [show (Program.scan it.code.toList it.limits).result = .ok p from h]
  rfl

/-- What a run keeps never changes what it does: its outcome, its step count and the interpreter
it leaves are the same whatever it keeps. -/
theorem execute_watch (it : Interpreter) (ctl : Control) (w w' : Watch) :
    (it.execute ctl w).1.outcome = (it.execute ctl w').1.outcome ∧
      (it.execute ctl w).1.steps = (it.execute ctl w').1.steps ∧
      (it.execute ctl w).2 = (it.execute ctl w').2 := by
  rcases hc : Program.check it.code.toList it.limits with f | p
  · simp only [Interpreter.execute]
    rw [show (Program.scan it.code.toList it.limits).result = .error f from hc]
    exact ⟨rfl, rfl, rfl⟩
  · obtain ⟨ho, hm⟩ := Machine.runFor_watch p ctl w.note w'.note ctl.fuel {} {} it.start
    obtain ⟨ho₁, -, hs₁, -⟩ := execute_of_check hc ctl w
    obtain ⟨ho₂, -, hs₂, -⟩ := execute_of_check hc ctl w'
    refine ⟨?_, ?_, ?_⟩
    · rw [ho₁, ho₂]
      exact ho
    · rw [hs₁, hs₂]
      exact congrArg Machine.steps hm
    · rw [execute_snd_of_check hc, execute_snd_of_check hc]
      simp only [Machine.run, hm]

/-- The rows `rows` are a faithful log of a run of `it` that left `it'`. Row `i` is step `i`; the
character at each row's position in the text is its instruction; an increment or a decrement
names the cell under the head and counts it up or down by one. Replayed from a zero tape of the
limits' size, the actions before a row give that row's head and cell, and all of them give the
tape `it'` holds. The output of `it'` is the bytes of the output actions, the reads get the
staged bytes from the first on and then nothing, and a read past the end of the input stores
what the end-of-input policy of `it` says. -/
structure Faithful (it : Interpreter) (rows : Array Row) (it' : Interpreter) : Prop where
  numbered : ∀ i (h : i < rows.size), rows[i].step = i
  instr : ∀ r ∈ rows, it.code.toList[r.ip]? = some r.instr
  counts : ∀ r ∈ rows, r.action.Counts r.ptr r.cell
  before : ∀ i (h : i < rows.size),
    ((Replay.zeroed it.limits.tapeCells).replay (rows.toList.take i)).ptr = rows[i].ptr ∧
      ((Replay.zeroed it.limits.tapeCells).replay (rows.toList.take i)).cell = some rows[i].cell
  after : (Replay.zeroed it.limits.tapeCells).replay rows.toList = Replay.of it'.tape
  output : it'.output.bytes.toList = writtenBy rows.toList
  taken : ∀ j (h : j < (takenBy rows.toList).length), (takenBy rows.toList)[j] = it.input.staged[j]?
  stored : ∀ r ∈ rows, ∀ b s, r.action = .input b s → s = b.getD (it.eof.fill r.cell)

/-- A run of a text that passes the pre-scan, keeping its rows, keeps a faithful log of itself. -/
theorem faithful_of_check {it : Interpreter} {p : Program}
    (h : Program.check it.code.toList it.limits = .ok p) (ctl : Control) {w : Watch}
    (hw : w.rows = true) : it.Faithful (it.execute ctl w).1.rows (it.execute ctl w).2 := by
  obtain ⟨-, hrows, -, htape, hout, -⟩ := execute_of_check h ctl w
  obtain ⟨L, hL, hlog⟩ := Machine.runFor_logged p ctl hw ctl.fuel {} it.start
  have hc := Program.Checked.of_check h
  have hr : it.start.input.read ≤ it.start.input.staged.size := Nat.zero_le _
  have hR : (it.execute ctl w).1.rows.toList = L := by
    rw [hrows]
    simpa [Machine.run] using hL
  generalize (it.execute ctl w).1.rows = R at hR ⊢
  obtain ⟨R⟩ := R
  subst hR
  refine ⟨fun i hi => ?_, fun r hr => ?_, fun r hr => ?_, fun i hi => ?_, ?_, ?_, fun j hj => ?_,
    fun r hr => ?_⟩
  · simpa using hlog.numbered i (by simpa using hi)
  · rw [← hc.getElem?_chars]
    exact hlog.instr r (List.mem_toArray.1 hr)
  · exact hlog.counts r (List.mem_toArray.1 hr)
  · simpa using hlog.before i (by simpa using hi)
  · rw [htape]
    exact hlog.after
  · rw [hout]
    simpa [OutputBuffer.new, Machine.run] using hlog.output
  · rw [hlog.taken hr j hj]
    exact InputBuffer.rewind_skip_next _ _
  · exact hlog.stored r (List.mem_toArray.1 hr)

end Interpreter

/-- Tracing is transparent and the trace is a faithful log of the run. A traced run gives the
outcome and leaves the interpreter (tape, output and input) that the untraced run does, under any
control and without one; the traced run without control gives its rows when it finished. When
the text passes the pre-scan, the rows of a traced run under any control, one that stopped or
faulted included, are a faithful log of it (`Interpreter.Faithful`): numbered from zero, each
with the instruction at its position, each head and cell what the actions before it give on a
zero tape, the final tape what all of them give, the output the bytes of the output actions,
and the reads the staged bytes from the first on and then nothing, storing what the end-of-input
policy says. -/
theorem traced_run_faithful (it : Interpreter) (ctl : Control) :
    (it.runTracedControlled ctl).1.1 = (it.runControlled ctl).1 ∧
      (it.runTracedControlled ctl).2 = (it.runControlled ctl).2 ∧
      it.runTraced.1.1 = it.run.1 ∧ it.runTraced.2 = it.run.2 ∧
      it.runTraced.1.2 =
        (if it.runTraced.1.1 = .finished then some (it.runTracedControlled {}).1.2 else none) ∧
      ∀ p, Program.check it.code.toList it.limits = .ok p →
        it.Faithful (it.runTracedControlled ctl).1.2 (it.runTracedControlled ctl).2 := by
  have htraced : it.runTraced =
      (((it.execute {} { rows := true }).1.outcome,
        if (it.execute {} { rows := true }).1.outcome = .finished
        then some (it.execute {} { rows := true }).1.rows else none), (it.execute {} { rows := true }).2) := by
    unfold Interpreter.runTraced
    rcases it.execute {} { rows := true } with ⟨r, it'⟩
    dsimp only
    cases r.outcome <;> rfl
  obtain ⟨ho, -, hi⟩ := it.execute_watch ctl { rows := true } {}
  obtain ⟨ho₀, -, hi₀⟩ := it.execute_watch {} { rows := true } {}
  refine ⟨ho, hi, ?_, ?_, ?_, fun p hp => it.faithful_of_check hp ctl rfl⟩
  · rw [htraced]
    exact ho₀
  · rw [htraced]
    exact hi₀
  · rw [htraced]
    rfl

theorem lex_read_increment_write : lex [',', '+', '.'] = [⟨0, 1, .op ','⟩, ⟨1, 1, .op '+'⟩, ⟨2, 1, .op '.'⟩] := by
  simp [lex, Lexeme.scan_cons, Lexeme.read, Lexeme.scan.eq_1, commentMark, labelMark, jumpMark,
    isOperator]

/-- A text that reads a byte, counts it up and writes it keeps a faithful trace. -/
theorem read_increment_write_faithful :
    ∃ p, Program.check (Interpreter.new ",+.").code.toList (Interpreter.new ",+.").limits = .ok p ∧
      (Interpreter.new ",+.").Faithful ((Interpreter.new ",+.").runTracedControlled {}).1.2
        ((Interpreter.new ",+.").runTracedControlled {}).2 := by
  obtain ⟨p, hp⟩ : ∃ p, Program.check (Interpreter.new ",+.").code.toList
      (Interpreter.new ",+.").limits = .ok p := by
    refine ⟨?p, ?h⟩
    case h =>
      rw [show (Interpreter.new ",+.").code.toList = [',', '+', '.'] from rfl, Program.check,
        Program.scan, lex_read_increment_write]
      rfl
  exact ⟨p, hp, (traced_run_faithful (Interpreter.new ",+.") {}).2.2.2.2.2 p hp⟩

end GotoTape
