import GotoTape.Proofs.Trace
/-!
# Sessions

An interpreter lives through a session of calls: staging input, setting the end-of-input policy,
and runs under any control, keeping or not keeping their trace. Tape, output and read cursor stay
between the calls, and staged input grows with every staging that succeeds. None of this leaks
into a run: every run of a session does exactly what the same run does on a fresh interpreter for
the same text and limits, with the session's current end-of-input policy and one staging of all
the bytes the session staged so far. A staging that fails gives no interpreter, so the session
goes on with the one it had; and a run whose text fails the pre-scan reports that fault with no
rows and leaves the interpreter as it was, whatever the control.

The proof names what a session keeps (`Interpreter.Keeps`): the text and limits, an input buffer
of the limits' capacity holding the staged bytes, and, while the text fails the pre-scan, the
tape, output and cursor the interpreter was made with. Every call keeps it, and two interpreters
that keep the same things and share the policy run alike (`Keeps.execute_eq`).

Main statement: `session_run_fresh`.
-/

namespace GotoTape

/-- The interpreters a session of calls on a text and limits reaches, with the bytes of the
stagings that succeeded, in order. -/
inductive Session (code : String) (limits : Limits) : Interpreter → Array UInt8 → Prop
  /-- A session starts from a new interpreter, with nothing staged. -/
  | start : Session code limits (.withLimits code limits) #[]
  /-- A staging that succeeds adds its bytes. -/
  | stage {it it' : Interpreter} {acc bytes : Array UInt8} :
      Session code limits it acc → it.stage bytes = .ok it' → Session code limits it' (acc ++ bytes)
  /-- The end-of-input policy can be set at any time. -/
  | setEof {it : Interpreter} {acc : Array UInt8} (eof : EofPolicy) :
      Session code limits it acc → Session code limits (it.setEof eof) acc
  /-- A run, under any control and keeping anything, leaves its interpreter. -/
  | execute {it : Interpreter} {acc : Array UInt8} (ctl : Control) (w : Watch) :
      Session code limits it acc → Session code limits (it.execute ctl w).2 acc

namespace Interpreter

/-- What the calls of a session keep of an interpreter: its text and limits, an input buffer of
the limits' capacity holding `acc`, and, while the text fails the pre-scan, the zero tape, the
empty output and the read cursor at the first byte that it was made with. -/
structure Keeps (code : String) (limits : Limits) (acc : Array UInt8) (it : Interpreter) : Prop where
  code_eq : it.code = code
  limits_eq : it.limits = limits
  capacity : it.input.capacity = limits.bufferCapacity
  staged : it.input.staged = acc
  fits : acc.size ≤ limits.bufferCapacity
  untouched : ∀ f, Program.check code.toList limits = .error f →
    it.tape = .new limits.tapeCells ∧ it.output = .new limits.bufferCapacity ∧ it.input.read = 0

section Keeps

variable {code : String} {limits : Limits} {acc : Array UInt8} {it it' : Interpreter}

theorem Keeps.withLimits : (withLimits code limits).Keeps code limits #[] :=
  ⟨rfl, rfl, rfl, rfl, Nat.zero_le _, fun _ _ => ⟨rfl, rfl, rfl⟩⟩

theorem Keeps.setEof (h : it.Keeps code limits acc) (eof : EofPolicy) :
    (it.setEof eof).Keeps code limits acc :=
  ⟨h.code_eq, h.limits_eq, h.capacity, h.staged, h.fits, h.untouched⟩

/-- A staging that succeeds appends its bytes and touches nothing else. -/
theorem Keeps.stage {bytes : Array UInt8} (h : it.Keeps code limits acc) (hs : it.stage bytes = .ok it') :
    it'.Keeps code limits (acc ++ bytes) := by
  unfold Interpreter.stage at hs
  split at hs
  · rename_i b hb
    cases hs
    obtain ⟨hle, rfl⟩ := InputBuffer.stage_eq_ok_iff.1 hb
    rw [h.staged, h.capacity] at hle
    exact ⟨h.code_eq, h.limits_eq, h.capacity, by simp [h.staged], by simpa using hle, h.untouched⟩
  · cases hs

theorem stage_eof {bytes : Array UInt8} (hs : it.stage bytes = .ok it') : it'.eof = it.eof := by
  unfold Interpreter.stage at hs
  split at hs
  · cases hs
    rfl
  · cases hs

/-- A run moves the read cursor of its input, but keeps the staged bytes and the capacity. -/
theorem execute_input_of_check {p : Program} (hp : Program.check it.code.toList it.limits = .ok p)
    (ctl : Control) (w : Watch) : ∃ n, (it.execute ctl w).2.input = it.input.rewind.skip n := by
  obtain ⟨-, -, -, -, -, hin⟩ := execute_of_check hp ctl w
  obtain ⟨-, hm⟩ := Machine.runFor_watch p ctl w.note (Watch.note { rows := true })
    ctl.fuel {} {} it.start
  obtain ⟨L, -, hlog⟩ := Machine.runFor_logged p ctl (w := { rows := true }) rfl
    ctl.fuel {} it.start
  refine ⟨(takenBy L).length, ?_⟩
  rw [hin, Machine.run, hm, hlog.input (Nat.zero_le _), input_start]

/-- A run keeps what a session keeps: when the text passes the pre-scan it may move the tape, the
output and the cursor, and when it fails it touches nothing. -/
theorem Keeps.execute (h : it.Keeps code limits acc) (ctl : Control) (w : Watch) :
    (it.execute ctl w).2.Keeps code limits acc := by
  rcases hc : Program.check it.code.toList it.limits with f | p
  · rw [(execute_of_check_error hc ctl w).2.2]
    exact h
  · obtain ⟨n, hn⟩ := execute_input_of_check hc ctl w
    rw [execute_snd_of_check hc] at hn ⊢
    refine ⟨h.code_eq, h.limits_eq, ?_, ?_, h.fits, fun f hf => ?_⟩
    · rw [hn]
      exact h.capacity
    · rw [hn]
      exact h.staged
    · rw [h.code_eq, h.limits_eq, hf] at hc
      cases hc

/-- Two interpreters for a text that passes the pre-scan, with the same limits, end-of-input
policy and staged input, run alike: a run starts afresh from the first staged byte and overwrites
tape, output and input. -/
theorem execute_eq_of_check {p : Program} (hp : Program.check it.code.toList it.limits = .ok p)
    (hc : it.code = it'.code) (hl : it.limits = it'.limits) (he : it.eof = it'.eof)
    (hi : it.input.rewind = it'.input.rewind) (ctl : Control) (w : Watch) :
    it.execute ctl w = it'.execute ctl w := by
  obtain ⟨code₁, limits₁, eof₁, input₁, tape₁, output₁⟩ := it
  obtain ⟨code₂, limits₂, eof₂, input₂, tape₂, output₂⟩ := it'
  dsimp only at hp hc hl he hi
  subst hc hl he
  have hs : (Program.scan _ _).result = .ok p := hp
  simp only [Interpreter.execute, hs, hi]

theorem Keeps.rewind (h : it.Keeps code limits acc) :
    it.input.rewind = { capacity := limits.bufferCapacity, staged := acc } := by
  unfold InputBuffer.rewind
  rw [h.capacity, h.staged]

/-- Two interpreters that keep the same things, for a text that fails the pre-scan, with the same
end-of-input policy, are the same. -/
theorem Keeps.eq_of_check_error {f : Fault} (h : it.Keeps code limits acc)
    (h' : it'.Keeps code limits acc) (he : it.eof = it'.eof)
    (hc : Program.check code.toList limits = .error f) : it = it' := by
  obtain ⟨ht, ho, hr⟩ := h.untouched f hc
  obtain ⟨ht', ho', hr'⟩ := h'.untouched f hc
  obtain ⟨code₁, limits₁, eof₁, ⟨cap₁, staged₁, read₁⟩, tape₁, output₁⟩ := it
  obtain ⟨code₂, limits₂, eof₂, ⟨cap₂, staged₂, read₂⟩, tape₂, output₂⟩ := it'
  obtain ⟨hc₁, hl₁, hcap₁, hs₁, -, -⟩ := h
  obtain ⟨hc₂, hl₂, hcap₂, hs₂, -, -⟩ := h'
  dsimp only at *
  subst_vars
  rfl

/-- Two interpreters that keep the same text, limits and staged bytes, with the same end-of-input
policy, run alike: the same report, and the same interpreter left behind. -/
theorem Keeps.execute_eq (h : it.Keeps code limits acc) (h' : it'.Keeps code limits acc)
    (he : it.eof = it'.eof) (ctl : Control) (w : Watch) : it.execute ctl w = it'.execute ctl w := by
  rcases hc : Program.check code.toList limits with f | p
  · rw [h.eq_of_check_error h' he hc]
  · rw [← h.code_eq, ← h.limits_eq] at hc
    exact execute_eq_of_check hc (h.code_eq.trans h'.code_eq.symm)
      (h.limits_eq.trans h'.limits_eq.symm) he (h.rewind.trans h'.rewind.symm) ctl w

end Keeps

end Interpreter

/-- Every interpreter of a session keeps its text, its limits and the bytes staged so far. -/
theorem Session.keeps {code : String} {limits : Limits} {it : Interpreter} {acc : Array UInt8}
    (h : Session code limits it acc) : it.Keeps code limits acc := by
  induction h with
  | start => exact .withLimits
  | stage _ hs ih => exact ih.stage hs
  | setEof eof _ ih => exact ih.setEof eof
  | execute ctl w _ ih => exact ih.execute ctl w

/-- Every run in a session of calls does what the same run does on a fresh interpreter for the
same text and limits, given the session's current end-of-input policy and one staging of all the
bytes the session staged so far, in order. That staging always succeeds. The run gives the same
report (outcome, trace, records and step count) and leaves the same interpreter (tape, output and
input). A run whose text fails the pre-scan reports that fault with no rows and leaves the
interpreter as it was, under every control, a cancelled one or a limit of zero steps included. -/
theorem session_run_fresh {code : String} {limits : Limits} {it : Interpreter} {acc : Array UInt8}
    (h : Session code limits it acc) :
    (∃ fresh, ((Interpreter.withLimits code limits).setEof it.eof).stage acc = .ok fresh ∧
      ∀ ctl w, it.execute ctl w = fresh.execute ctl w) ∧
    ∀ f ctl w, Program.check code.toList limits = .error f →
      (it.execute ctl w).1.outcome = .fault f ∧ (it.execute ctl w).1.rows = #[] ∧
        (it.execute ctl w).2 = it := by
  have hk := h.keeps
  refine ⟨?_, fun f ctl w hf => ?_⟩
  · -- a fresh interpreter takes all the bytes: they fit, since the session's buffer holds them
    obtain ⟨fresh, hs⟩ :
        ∃ fresh, ((Interpreter.withLimits code limits).setEof it.eof).stage acc = .ok fresh := by
      unfold Interpreter.stage
      rw [(InputBuffer.stage_eq_ok_iff).2 ⟨by simpa [Interpreter.setEof, Interpreter.withLimits,
        InputBuffer.new] using hk.fits, rfl⟩]
      exact ⟨_, rfl⟩
    have hf := ((Interpreter.Keeps.withLimits).setEof it.eof).stage hs
    rw [Array.empty_append] at hf
    exact ⟨fresh, hs, fun ctl w => hk.execute_eq hf (Interpreter.stage_eof hs).symm ctl w⟩
  · rw [← hk.code_eq, ← hk.limits_eq] at hf
    exact Interpreter.execute_of_check_error hf ctl w

/-- After staging one byte and setting the end-of-input policy, an interpreter runs like a fresh
one given that policy and that byte. -/
theorem staged_session_runs_fresh :
    ∃ it, (Interpreter.withLimits ",." {}).stage #[65] = .ok it ∧
      ∃ fresh, ((Interpreter.withLimits ",." {}).setEof .unchanged).stage (#[] ++ #[65]) = .ok fresh ∧
        ∀ ctl w, (it.setEof .unchanged).execute ctl w = fresh.execute ctl w := by
  obtain ⟨it, hs⟩ : ∃ it, (Interpreter.withLimits ",." {}).stage #[65] = .ok it := ⟨_, rfl⟩
  exact ⟨it, hs, (session_run_fresh ((Session.start.stage hs).setEof .unchanged)).1⟩

end GotoTape
