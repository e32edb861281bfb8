import GotoTape.Proofs.Code
/-!
# Stopping a run

The control is asked before each dispatch, after seeking, so a run with nothing left to dispatch
finishes whatever the control says. Under a step limit of `lim` and nothing else, the control lets
every step below the limit through: the run takes the steps of the free run. If the free run ends
within `lim` attempted dispatches, the limited run ends the same way; otherwise it faults with
the limit after exactly `lim` steps, where the free run stood then. A run cancelled from its first
step dispatches nothing: it is cancelled exactly when its text has code, and finishes otherwise.

The free run is taken on every fuel, so that a run that never ends is one that runs out of fuel
on each of them.

Main statements: `runFor_limit_of_stopped` and `run_limit_of_outOfFuel` (the two ends of a run
under a step limit), `run_cancelled`, and `controlled_run_spec`.
-/

namespace GotoTape

namespace Control

variable {lim s : Nat}

theorem check_limit_lt (h : s < lim) : check ⟨some lim, none⟩ s = none := by
  simp [check, limitCheck, Nat.not_le.2 h]

theorem check_limit_le (h : lim ≤ s) : check ⟨some lim, none⟩ s = some (.stepLimit lim) := by
  simp [check, limitCheck, h]

/-- Cancelled from its first step, a run is stopped before every dispatch, whatever its limit. -/
theorem check_cancelled {ctl : Control} (h : ctl.cancelAt = some 0) (s : Nat) :
    ctl.check s = some .cancelled := by
  simp [check, h]

theorem fuel_cancelled {ctl : Control} (h : ctl.cancelAt = some 0) : ctl.fuel = 1 := by
  unfold fuel
  rw [h]
  cases ctl.limit <;> simp

end Control

/-- The dispatches attempted by a run that ended as `o` at `m`, from a machine with no steps:
one per step, and one more for a dispatch that faulted. -/
def Outcome.attempts (o : Outcome) (m : Machine) : Nat :=
  match o with
  | .finished => m.steps
  | .fault _ => m.steps + 1
  | .outOfFuel => m.steps

theorem Outcome.steps_le_attempts (o : Outcome) (m : Machine) : m.steps ≤ o.attempts m := by
  cases o <;> simp [attempts]

namespace Machine

/-! ## One step under the control -/

section Step

variable {p : Program} {ctl ctl' : Control} {m m' : Machine} {row : Row} {f : Fault}

/-- The control enters a step only through its answer. -/
theorem step_congr_check (h : ctl.check m.steps = ctl'.check m.steps) :
    step p ctl m = step p ctl' m := by
  rw [step_eq, step_eq, h]

/-- A step the control stops halts if nothing is left to dispatch, and faults with the control's
fault otherwise. -/
theorem step_of_check_some (hc : ctl.check m.steps = some f) :
    step p ctl m =
      if (seekFrom p m).ip < p.chars.size then .faulted f (seekFrom p m)
      else .halted (seekFrom p m) := by
  rw [step_eq, hc]
  by_cases hlt : (seekFrom p m).ip < p.chars.size
  · rw [dif_pos hlt, if_pos hlt]
  · rw [dif_neg hlt, if_neg hlt]

/-- A step that runs counts one step. -/
theorem step_steps (h : step p ctl m = .stepped row m') : m'.steps = m.steps + 1 := by
  obtain ⟨hlt, -, hd⟩ := step_stepped h
  exact (dispatch_stepped hd).2.1

theorem step_halted_steps (h : step p ctl m = .halted m') : m'.steps = m.steps := by
  rw [(step_halted h).1, steps_seekFrom]

theorem step_faulted_steps (h : step p ctl m = .faulted f m') : m'.steps = m.steps := by
  rw [(step_faulted h).1, steps_seekFrom]

/-- Under a step limit, a step below the limit, or one that halts anyway, is the free step. -/
theorem step_limit_eq_free {lim : Nat} (h : m.steps < lim ∨ ∃ m', step p {} m = .halted m') :
    step p ⟨some lim, none⟩ m = step p {} m := by
  by_cases hl : m.steps < lim
  · exact step_congr_check (Control.check_limit_lt hl)
  · obtain ⟨m', hm'⟩ := h.resolve_left hl
    obtain ⟨rfl, hle⟩ := step_halted hm'
    rw [step_of_check_some (Control.check_limit_le (Nat.not_lt.1 hl)), if_neg (Nat.not_lt.2 hle),
      hm']

end Step

/-! ## Runs and their step counts -/

section Runs

variable {σ : Type} {p : Program} {ctl : Control} {watch : σ → Row → σ}

/-- The steps of a run never go down. -/
theorem runFor_steps_le {n : Nat} {acc r : σ} {m m' : Machine} {o : Outcome}
    (h : runFor p ctl watch n acc m = (o, m', r)) : m.steps ≤ m'.steps := by
  have hrun : m.steps ≤ (runFor p ctl watch n acc m).2.1.steps :=
    runFor_invariant (fun _ m' => m.steps ≤ m'.steps) (fun _ _ hm => hm)
      (fun _ _ _ _ hm hs => by rw [step_steps hs]; omega) n acc m (Nat.le_refl _)
  rw [h] at hrun
  exact hrun

/-- A run that ran out of fuel took a step on each call. -/
theorem runFor_outOfFuel_steps : ∀ {n : Nat} {acc r : σ} {m m' : Machine},
    runFor p ctl watch n acc m = (.outOfFuel, m', r) → m'.steps = m.steps + n
  | 0, _, _, _, _, h => by
    simp only [runFor, Prod.mk.injEq] at h
    obtain ⟨-, rfl, -⟩ := h
    rfl
  | n + 1, acc, r, m, m', h => by
    unfold runFor at h
    split at h
    · cases h
    · cases h
    · rename_i row m'' hs
      rw [runFor_outOfFuel_steps h, step_steps hs]
      omega

/-- A run that stopped did so on a call that took no step. -/
theorem runFor_stopped_steps : ∀ {n : Nat} {acc r : σ} {m m' : Machine} {o : Outcome},
    runFor p ctl watch n acc m = (o, m', r) → o ≠ .outOfFuel → m'.steps < m.steps + n
  | 0, _, _, _, _, _, h, ho => by
    simp only [runFor, Prod.mk.injEq] at h
    exact absurd h.1.symm ho
  | n + 1, acc, r, m, m', o, h, ho => by
    unfold runFor at h
    split at h
    · rename_i m'' hs
      simp only [Prod.mk.injEq] at h
      obtain ⟨-, rfl, -⟩ := h
      rw [step_halted_steps hs]
      omega
    · rename_i f m'' hs
      simp only [Prod.mk.injEq] at h
      obtain ⟨-, rfl, -⟩ := h
      rw [step_faulted_steps hs]
      omega
    · rename_i row m'' hs
      have := runFor_stopped_steps h ho
      rw [step_steps hs] at this
      omega

/-- A run that ran out of fuel goes on, on more fuel, from where it stopped. -/
theorem runFor_add_of_outOfFuel : ∀ {n : Nat} (j : Nat) {acc r : σ} {m m' : Machine},
    runFor p ctl watch n acc m = (.outOfFuel, m', r) →
      runFor p ctl watch (n + j) acc m = runFor p ctl watch j r m'
  | 0, j, _, _, _, _, h => by
    simp only [runFor, Prod.mk.injEq] at h
    obtain ⟨-, rfl, rfl⟩ := h
    rw [Nat.zero_add]
  | n + 1, j, acc, r, m, m', h => by
    rw [Nat.add_right_comm]
    cases hs : step p ctl m with
    | halted m'' => simp [runFor, hs] at h
    | faulted f m'' => simp [runFor, hs] at h
    | stepped row m'' =>
      simp only [runFor, hs] at h ⊢
      exact runFor_add_of_outOfFuel j h

/-- The last call of a run whose control stops it there. -/
theorem runFor_one_of_check_some {acc : σ} {m : Machine} {f : Fault}
    (hc : ctl.check m.steps = some f) :
    runFor p ctl watch 1 acc m =
      if (seekFrom p m).ip < p.chars.size then (.fault f, seekFrom p m, acc)
      else (.finished, seekFrom p m, acc) := by
  by_cases hlt : (seekFrom p m).ip < p.chars.size
  · simp only [runFor, step_of_check_some hc, if_pos hlt]
  · simp only [runFor, step_of_check_some hc, if_neg hlt]

end Runs

/-! ## Runs under a step limit -/

section Limit

variable {σ : Type} {p : Program} {watch : σ → Row → σ} {lim : Nat}

/-- Below the limit, a run under a step limit takes the steps of the free run. -/
theorem runFor_limit_below : ∀ (n : Nat) (acc : σ) (m : Machine), m.steps + n ≤ lim →
    runFor p ⟨some lim, none⟩ watch n acc m = runFor p {} watch n acc m
  | 0, _, _, _ => rfl
  | n + 1, acc, m, h => by
    have hs₀ : step p ⟨some lim, none⟩ m = step p {} m := step_limit_eq_free (Or.inl (by omega))
    simp only [runFor, hs₀]
    cases hs : step p {} m with
    | halted => rfl
    | faulted => rfl
    | stepped row m' =>
      exact runFor_limit_below n _ m' (by rw [step_steps hs]; omega)

/-- A free run that ends within `lim` attempted dispatches ends the same way under a step limit
of `lim`, on any fuel that lets it take its steps. -/
theorem runFor_limit_of_stopped : ∀ {n : Nat} {acc r : σ} {m m' : Machine} {o : Outcome},
    runFor p {} watch n acc m = (o, m', r) → o ≠ .outOfFuel → o.attempts m' ≤ lim →
      ∀ n', m'.steps < m.steps + n' → runFor p ⟨some lim, none⟩ watch n' acc m = (o, m', r)
  | 0, _, _, _, _, _, h, ho, _, _, _ => by
    simp only [runFor, Prod.mk.injEq] at h
    exact absurd h.1.symm ho
  | n + 1, acc, r, m, m', o, h, ho, hk, n', hn' => by
    have hmono := runFor_steps_le h
    obtain ⟨j, rfl⟩ : ∃ j, n' = j + 1 := ⟨n' - 1, by omega⟩
    unfold runFor at h
    -- each free step is the limited one: below the limit, or a halt that the limit lets through
    cases hs : step p {} m with
    | halted m'' =>
      simp only [hs, Prod.mk.injEq] at h
      obtain ⟨rfl, rfl, rfl⟩ := h
      have hs' : step p ⟨some lim, none⟩ m = step p {} m := step_limit_eq_free (Or.inr ⟨_, hs⟩)
      simp only [runFor, hs', hs]
    | faulted f m'' =>
      simp only [hs, Prod.mk.injEq] at h
      obtain ⟨rfl, rfl, rfl⟩ := h
      have hm := step_faulted_steps hs
      simp only [Outcome.attempts] at hk
      have hs' : step p ⟨some lim, none⟩ m = step p {} m := step_limit_eq_free (Or.inl (by omega))
      simp only [runFor, hs', hs]
    | stepped row m'' =>
      simp only [hs] at h
      have hm := step_steps hs
      have hmono' := runFor_steps_le h
      have hatt := o.steps_le_attempts m'
      have hs' : step p ⟨some lim, none⟩ m = step p {} m := step_limit_eq_free (Or.inl (by omega))
      simp only [runFor, hs', hs]
      exact runFor_limit_of_stopped h ho hk j (by omega)

/-- A free run that has not ended after `lim` calls is stopped, under a step limit of `lim` from
a machine with no steps, on its next call: it finishes if nothing is left to dispatch, and
otherwise faults with the limit where seeking stopped. -/
theorem run_limit_of_outOfFuel {acc r : σ} {m₀ m : Machine} (h0 : m₀.steps = 0)
    (h : runFor p {} watch lim acc m₀ = (.outOfFuel, m, r)) :
    run p ⟨some lim, none⟩ watch acc m₀ =
      if (seekFrom p m).ip < p.chars.size then (.fault (.stepLimit lim), seekFrom p m, r)
      else (.finished, seekFrom p m, r) := by
  have hb : runFor p ⟨some lim, none⟩ watch lim acc m₀ = (.outOfFuel, m, r) :=
    (runFor_limit_below lim acc m₀ (by omega)).trans h
  have hm : m.steps = lim := by rw [runFor_outOfFuel_steps h, h0, Nat.zero_add]
  rw [run, show (⟨some lim, none⟩ : Control).fuel = lim + 1 from rfl, runFor_add_of_outOfFuel 1 hb]
  exact runFor_one_of_check_some (Control.check_limit_le hm.ge)

end Limit

/-! ## Cancelled runs -/

section Cancel

variable {σ : Type} {p : Program} {watch : σ → Row → σ} {ctl : Control}

/-- A run cancelled from its first step ends on its first call, where seeking stopped, with
nothing dispatched: cancelled if something was left to dispatch, finished otherwise. -/
theorem run_cancelled (h : ctl.cancelAt = some 0) (acc : σ) (m : Machine) :
    run p ctl watch acc m =
      if (seekFrom p m).ip < p.chars.size then (.fault .cancelled, seekFrom p m, acc)
      else (.finished, seekFrom p m, acc) := by
  rw [run, Control.fuel_cancelled h]
  exact runFor_one_of_check_some (Control.check_cancelled h _)

theorem run_cancelled_state (h : ctl.cancelAt = some 0) (acc : σ) (m : Machine) :
    (run p ctl watch acc m).2 = (seekFrom p m, acc) := by
  rw [run_cancelled h]
  split <;> rfl

end Cancel

end Machine

open Lexeme

/-- Seeking from the start of a checked text stops before its end exactly when the text has
code. -/
theorem Program.Checked.seekFrom_lt_iff {cs : List Char} {limits : Limits} {p : Program}
    (hp : Program.Checked cs limits p) {m : Machine} (h0 : m.ip = 0) (hin : m.inComment = false) :
    (Machine.seekFrom p m).ip < p.chars.size ↔ ∃ x ∈ lex cs, isCode x = true := by
  have hseek : (Machine.seekFrom p m).ip = (Machine.seek cs.toArray 0 false).1 := by
    simp only [Machine.seekFrom, hp.chars, h0, hin]
  rw [hseek, hp.chars, List.size_toArray]
  rcases @seek_lexFrom cs 0 false with ⟨hnil, hle⟩ | ⟨x, hs, hx, -, -, hcode⟩
  · -- only comments: seeking passes over all of them
    have hnone : ∀ x ∈ lex cs, isCode x = false := by
      intro x hx
      simpa using List.filter_eq_nil_iff.1 hnil x hx
    refine ⟨fun hlt => absurd hle (Nat.not_le.2 hlt), ?_⟩
    rintro ⟨x, hx, hc⟩
    rw [hnone x hx] at hc
    cases hc
  · have hmem : x ∈ lex cs := (List.mem_filter.1 (hcode ▸ List.mem_cons_self)).1
    rw [hs]
    exact ⟨fun _ => ⟨x, hmem, hx⟩, fun _ => start_lt_length_of_mem_lex hmem⟩

/-- How the control stops a run. Under a step limit of `lim` alone, from a machine with no steps:
if the free run ends (on some fuel) within `lim` attempted dispatches, the limited run ends the
same way, at the same machine with the same rows; otherwise, if the free run never ends within
`lim` attempts, the limited run faults with the limit after exactly the first `lim` steps of the
free run, keeping their rows, tape and output. Cancelled from its first step, whatever its limit,
a run of a text that passes the pre-scan is cancelled exactly when the text has code, finishes
otherwise, and keeps no rows, a zero tape and an empty output. -/
theorem controlled_run_spec :
    (∀ {σ : Type} (p : Program) (watch : σ → Row → σ) (acc : σ) (m₀ : Machine) (lim : Nat),
      m₀.steps = 0 →
      (∀ n o m r, Machine.runFor p {} watch n acc m₀ = (o, m, r) → o ≠ .outOfFuel →
        o.attempts m ≤ lim → Machine.run p ⟨some lim, none⟩ watch acc m₀ = (o, m, r)) ∧
      ((∀ n o m r, Machine.runFor p {} watch n acc m₀ = (o, m, r) → o ≠ .outOfFuel →
          lim < o.attempts m) →
        ∃ m r, Machine.runFor p {} watch lim acc m₀ = (.outOfFuel, m, r) ∧ m.steps = lim ∧
          Machine.run p ⟨some lim, none⟩ watch acc m₀ =
            (.fault (.stepLimit lim), Machine.seekFrom p m, r))) ∧
    ∀ (it : Interpreter) (p : Program) (ctl : Control) (w : Watch),
      Program.check it.code.toList it.limits = .ok p → ctl.cancelAt = some 0 →
      ((it.execute ctl w).1.outcome = .fault .cancelled ↔ ∃ x ∈ lex it.code.toList, isCode x = true) ∧
        ((¬∃ x ∈ lex it.code.toList, isCode x = true) → (it.execute ctl w).1.outcome = .finished) ∧
        (it.execute ctl w).1.rows = #[] ∧ (it.execute ctl w).2.tape = .new it.limits.tapeCells ∧
        (it.execute ctl w).2.output = .new it.limits.bufferCapacity := by
  refine ⟨fun p watch acc m₀ lim h0 => ⟨?_, ?_⟩, fun it p ctl w hp hc => ?_⟩
  · intro n o m r h ho hk
    have hatt := o.steps_le_attempts m
    exact Machine.runFor_limit_of_stopped h ho hk (lim + 1) (by omega)
  · intro H
    rcases hl : Machine.runFor p {} watch lim acc m₀ with ⟨o, m, r⟩
    by_cases ho : o = .outOfFuel
    · subst ho
      have hm : m.steps = lim := by rw [Machine.runFor_outOfFuel_steps hl, h0, Nat.zero_add]
      refine ⟨m, r, rfl, hm, ?_⟩
      rw [Machine.run_limit_of_outOfFuel h0 hl, if_pos]
      -- were nothing left to dispatch, the free run would finish after `lim` steps
      by_contra hlt
      have hfin : Machine.runFor p {} watch (lim + 1) acc m₀ = (.finished, Machine.seekFrom p m, r) := by
        rw [Machine.runFor_add_of_outOfFuel 1 hl]
        simp only [Machine.runFor, Machine.step_of_end (Nat.le_of_not_lt hlt)]
      have hlim := H _ _ _ _ hfin (by simp)
      simp [Outcome.attempts, hm] at hlim
    · -- a free run that ends within `lim` calls attempts at most `lim` dispatches
      have hlim := H _ _ _ _ hl ho
      have hsteps := Machine.runFor_stopped_steps hl ho
      cases o <;> simp_all [Outcome.attempts] <;> omega
  · have hck := Program.Checked.of_check hp
    obtain ⟨ho, hrows, -, htape, hout, -⟩ := Interpreter.execute_of_check hp ctl w
    have hstate : (Machine.run p ctl w.note {} it.start).2 = (Machine.seekFrom p it.start, {}) :=
      Machine.run_cancelled_state hc ({} : Kept) it.start
    have hlt : (Machine.seekFrom p it.start).ip < p.chars.size ↔ _ := hck.seekFrom_lt_iff rfl rfl
    rw [hstate] at hrows htape hout
    rw [Machine.run_cancelled hc] at ho
    refine ⟨?_, fun hn => ?_, hrows, htape, hout⟩
    · rw [ho, ← hlt]
      by_cases hlt' : (Machine.seekFrom p it.start).ip < p.chars.size <;> simp [hlt']
    · rw [ho, if_neg (mt hlt.1 hn)]

theorem countdown_limited_and_cancelled :
    ∃ p, Program.check ['+', '[', '-', ']'] {} = .ok p ∧
      ((∀ n o m r, Machine.runFor p {} (Watch.note { rows := true }) n {}
          (Interpreter.new "+[-]").start = (o, m, r) → o ≠ .outOfFuel → o.attempts m ≤ 2 →
          Machine.run p ⟨some 2, none⟩ (Watch.note { rows := true }) {}
            (Interpreter.new "+[-]").start = (o, m, r)) ∧
        ((∀ n o m r, Machine.runFor p {} (Watch.note { rows := true }) n {}
            (Interpreter.new "+[-]").start = (o, m, r) → o ≠ .outOfFuel → 2 < o.attempts m) →
          ∃ m r, Machine.runFor p {} (Watch.note { rows := true }) 2 {}
              (Interpreter.new "+[-]").start = (.outOfFuel, m, r) ∧ m.steps = 2 ∧
            Machine.run p ⟨some 2, none⟩ (Watch.note { rows := true }) {}
              (Interpreter.new "+[-]").start = (.fault (.stepLimit 2), Machine.seekFrom p m, r))) ∧
      ((((Interpreter.new "+[-]").execute ⟨none, some 0⟩ { rows := true }).1.outcome =
            .fault .cancelled ↔ ∃ x ∈ lex ['+', '[', '-', ']'], isCode x = true) ∧
        ((¬∃ x ∈ lex ['+', '[', '-', ']'], isCode x = true) →
          ((Interpreter.new "+[-]").execute ⟨none, some 0⟩ { rows := true }).1.outcome = .finished) ∧
        ((Interpreter.new "+[-]").execute ⟨none, some 0⟩ { rows := true }).1.rows = #[] ∧
        ((Interpreter.new "+[-]").execute ⟨none, some 0⟩ { rows := true }).2.tape = .new 5000 ∧
        ((Interpreter.new "+[-]").execute ⟨none, some 0⟩ { rows := true }).2.output = .new 5000) :=
  ⟨_, check_countdown, controlled_run_spec.1 _ _ _ _ 2 rfl,
    controlled_run_spec.2 (Interpreter.new "+[-]") _ ⟨none, some 0⟩ { rows := true } check_countdown rfl⟩

end GotoTape
