import GotoTape.Proofs.Structured
/-!
# Instructions

An instruction of a text is a lexeme of code: it stands at a boundary of the lexer outside
comments, on its own character, and a label definition or a jump is followed by its label
(`mem_lex_code`, `readAt_operand`).

`Machine.dispatch` takes every instruction apart in one match. Here each instruction gets its own
equation, in the form of the loop brackets' equations beside `dispatch_open_skip`: what the step
records, and the machine after it, written as an update of the machine before it. A move of the
head and a write to a full output can fault; a fault leaves the machine as it was. A jump faults
on a label no definition introduced. Every other character does nothing but count a step.
`char_cases` splits a character the way `dispatch` does, so that later proofs take one case per
instruction, rewrite with its equation and never unfold `dispatch` again.
-/

namespace GotoTape
namespace Lexeme

section Code

variable {cs : List Char} {pos : Nat} {d d' : Bool} {x : Lexeme}

/-- A lexeme of code is read outside comments and leaves none open. -/
theorem readAt_code_inv (h : readAt cs pos d = some (x, d')) (hx : isCode x = true) :
    d = false ∧ d' = false := by
  obtain ⟨c, rest, -, rfl, rfl⟩ := exists_of_readAt h
  rw [read.eq_def] at hx ⊢
  split_ifs at hx ⊢ <;> (try cases rest) <;> simp_all [isCode]

/-- A label definition or a jump with its label is followed by the label. -/
theorem readAt_operand {l : Char} (h : readAt cs pos d = some (x, d'))
    (hk : x.kind = .labelDef (some l) ∨ x.kind = .jump (some l)) : cs[pos + 1]? = some l := by
  obtain ⟨c, rest, hd, rfl, -⟩ := exists_of_readAt h
  have h1 : cs[pos + 1]? = rest[0]? := by
    have := congrArg (·[1]?) hd
    simpa [List.getElem?_drop] using this
  rw [h1]
  rw [read.eq_def] at hk
  split_ifs at hk <;> (try cases rest) <;> simp_all

/-- An instruction of the text stands at a boundary outside comments, where the lexer reads it,
on its own character. -/
theorem mem_lex_code (hx : x ∈ lex cs) (hc : isCode x = true) :
    Boundary cs x.start false ∧ readAt cs x.start false = some (x, false) ∧
      cs[x.start]? = some x.instr := by
  obtain ⟨d, d', hb, hr⟩ := mem_lex_iff.1 hx
  obtain ⟨rfl, rfl⟩ := readAt_code_inv hr hc
  exact ⟨hb, hr, readAt_instr hr hc⟩

end Code

end Lexeme

/-- The characters that `dispatch` tells apart: the ten instructions, and all the rest. -/
theorem char_cases (c : Char) :
    c = '>' ∨ c = '<' ∨ c = '+' ∨ c = '-' ∨ c = '.' ∨ c = ',' ∨ c = '[' ∨ c = ']' ∨
      c = labelMark ∨ c = jumpMark ∨
      (c ≠ '>' ∧ c ≠ '<' ∧ c ≠ '+' ∧ c ≠ '-' ∧ c ≠ '.' ∧ c ≠ ',' ∧ c ≠ '[' ∧ c ≠ ']' ∧
        c ≠ labelMark ∧ c ≠ jumpMark) := by
  by_contra h
  simp only [not_or] at h
  obtain ⟨h₁, h₂, h₃, h₄, h₅, h₆, h₇, h₈, h₉, h₁₀, h⟩ := h
  exact h ⟨h₁, h₂, h₃, h₄, h₅, h₆, h₇, h₈, h₉, h₁₀⟩

namespace Machine

section Instructions

variable {p : Program} {m : Machine}

/-- A move of the head goes one cell to the right for `>` and to the left for `<`, or faults at
either end of the tape, naming the head's cell. -/
theorem dispatch_move {c : Char} (hc : c = '>' ∨ c = '<') :
    dispatch p c m =
      match m.tape.shift (if c = '>' then 1 else -1) with
      | some t => .stepped (m.rowAt m.ip c (.movePointer t.pointer))
          { m with tape := t, ip := m.ip + 1, steps := m.steps + 1 }
      | none => .faulted (.tapeBounds m.ip m.tape.pointer c) m := by
  rcases hc with rfl | rfl <;> rfl

theorem dispatch_increment :
    dispatch p '+' m =
      .stepped (m.rowAt m.ip '+' (.increment m.tape.pointer m.tape.read m.tape.increment.read))
        { m with tape := m.tape.increment, ip := m.ip + 1, steps := m.steps + 1 } := rfl

theorem dispatch_decrement :
    dispatch p '-' m =
      .stepped (m.rowAt m.ip '-' (.decrement m.tape.pointer m.tape.read m.tape.decrement.read))
        { m with tape := m.tape.decrement, ip := m.ip + 1, steps := m.steps + 1 } := rfl

/-- `.` writes the cell under the head, unless the output is full. -/
theorem dispatch_output :
    dispatch p '.' m =
      if m.output.isFull then .faulted (m.output.overflow m.ip) m
      else .stepped (m.rowAt m.ip '.' (.output m.tape.read))
        { m with output := m.output.push m.tape.read, ip := m.ip + 1, steps := m.steps + 1 } := by
  obtain ⟨tape, input, output, eof, ip, inComment, steps⟩ := m
  by_cases h : output.isFull <;> simp [dispatch, rowAt, h]

/-- `,` stores the next staged byte. -/
theorem dispatch_input_byte {b : UInt8} {rest : InputBuffer} (h : m.input.next = (some b, rest)) :
    dispatch p ',' m =
      .stepped (m.rowAt m.ip ',' (.input (some b) b))
        { m with tape := m.tape.write b, input := rest, ip := m.ip + 1, steps := m.steps + 1 } := by
  obtain ⟨tape, input, output, eof, ip, inComment, steps⟩ := m
  simp only at h
  simp [dispatch, rowAt, h]

/-- Past the last staged byte, `,` stores zero under the policy `zero`. -/
theorem dispatch_input_zero {rest : InputBuffer} (h : m.input.next = (none, rest))
    (he : m.eof = .zero) :
    dispatch p ',' m =
      .stepped (m.rowAt m.ip ',' (.input none 0))
        { m with tape := m.tape.write 0, input := rest, ip := m.ip + 1, steps := m.steps + 1 } := by
  obtain ⟨tape, input, output, eof, ip, inComment, steps⟩ := m
  simp only at h he
  subst he
  simp [dispatch, rowAt, h]

/-- Past the last staged byte, `,` leaves the cell as it was under the policy `unchanged`. -/
theorem dispatch_input_unchanged {rest : InputBuffer} (h : m.input.next = (none, rest))
    (he : m.eof = .unchanged) :
    dispatch p ',' m =
      .stepped (m.rowAt m.ip ',' (.input none m.tape.read))
        { m with input := rest, ip := m.ip + 1, steps := m.steps + 1 } := by
  obtain ⟨tape, input, output, eof, ip, inComment, steps⟩ := m
  simp only at h he
  subst he
  simp [dispatch, rowAt, h]

/-- A label definition passes over its operand. -/
theorem dispatch_labelMark {l : Char} (h : p.chars[m.ip + 1]? = some l) :
    dispatch p labelMark m =
      .stepped (m.rowAt m.ip labelMark (.defineLabel l)) { m with ip := m.ip + 2, steps := m.steps + 1 } := by
  obtain ⟨tape, input, output, eof, ip, inComment, steps⟩ := m
  simp only at h
  simp [dispatch, rowAt, labelMark, h]

/-- A jump goes to the target of its label. -/
theorem dispatch_jumpMark {l : Char} {t : Nat} (h : p.chars[m.ip + 1]? = some l)
    (ht : p.labels.lookup l = some t) :
    dispatch p jumpMark m =
      .stepped (m.rowAt m.ip jumpMark (.jump l t)) { m with ip := t, steps := m.steps + 1 } := by
  obtain ⟨tape, input, output, eof, ip, inComment, steps⟩ := m
  simp only at h
  simp [dispatch, rowAt, jumpMark, h, LabelTable.resolve, ht]

/-- A jump to a label that no definition introduced faults. -/
theorem dispatch_jumpMark_unknown {l : Char} (h : p.chars[m.ip + 1]? = some l)
    (ht : p.labels.lookup l = none) :
    dispatch p jumpMark m = .faulted (.unknownLabel m.ip l) m := by
  obtain ⟨tape, input, output, eof, ip, inComment, steps⟩ := m
  simp only at h
  simp [dispatch, jumpMark, h, LabelTable.resolve, ht]

/-- A label marker at the end of the text faults. -/
theorem dispatch_labelMark_last (h : p.chars[m.ip + 1]? = none) :
    dispatch p labelMark m = .faulted (.missingLabel m.ip labelMark) m := by
  obtain ⟨tape, input, output, eof, ip, inComment, steps⟩ := m
  simp only at h
  simp [dispatch, labelMark, h]

theorem dispatch_jumpMark_last (h : p.chars[m.ip + 1]? = none) :
    dispatch p jumpMark m = .faulted (.missingLabel m.ip jumpMark) m := by
  obtain ⟨tape, input, output, eof, ip, inComment, steps⟩ := m
  simp only at h
  simp [dispatch, jumpMark, h]

/-- A loop bracket without partner faults where it has to jump. -/
theorem dispatch_open_unpaired (h : m.tape.read = 0) (hj : p.brackets.partner m.ip = none) :
    dispatch p '[' m = .faulted (.unbalanced m.ip .opening) m := by
  obtain ⟨tape, input, output, eof, ip, inComment, steps⟩ := m
  simp_all [dispatch]

theorem dispatch_close_unpaired (h : m.tape.read ≠ 0) (hj : p.brackets.partner m.ip = none) :
    dispatch p ']' m = .faulted (.unbalanced m.ip .closing) m := by
  obtain ⟨tape, input, output, eof, ip, inComment, steps⟩ := m
  simp_all [dispatch]

/-- A character that is no instruction only counts a step. -/
theorem dispatch_plain {c : Char} (h₁ : c ≠ '>') (h₂ : c ≠ '<') (h₃ : c ≠ '+') (h₄ : c ≠ '-')
    (h₅ : c ≠ '.') (h₆ : c ≠ ',') (h₇ : c ≠ '[') (h₈ : c ≠ ']') (h₉ : c ≠ labelMark)
    (h₁₀ : c ≠ jumpMark) :
    dispatch p c m = .stepped (m.rowAt m.ip c .nothing) { m with ip := m.ip + 1, steps := m.steps + 1 } := by
  obtain ⟨tape, input, output, eof, ip, inComment, steps⟩ := m
  simp only [labelMark, jumpMark] at h₉ h₁₀
  simp only [dispatch]
  rfl

/-- Loop brackets, label markers and characters that are no instruction touch neither the tape
nor the channels: a step of theirs moves the machine and counts. -/
theorem dispatch_frame {c : Char} {row : Row} {m' : Machine} (h₁ : c ≠ '>') (h₂ : c ≠ '<')
    (h₃ : c ≠ '+') (h₄ : c ≠ '-') (h₅ : c ≠ '.') (h₆ : c ≠ ',')
    (h : dispatch p c m = .stepped row m') : m' = { m with ip := m'.ip, steps := m.steps + 1 } := by
  obtain ⟨tape, input, output, eof, ip, inComment, steps⟩ := m
  simp only [dispatch] at h
  split at h <;> (repeat' split at h) <;> simp only [reduceCtorEq, Step.stepped.injEq] at h
  all_goals obtain ⟨-, rfl⟩ := h
  all_goals simp_all

end Instructions

end Machine
end GotoTape
