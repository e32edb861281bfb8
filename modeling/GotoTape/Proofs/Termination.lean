import GotoTape.Proofs.Control
import GotoTape.Proofs.Trace
import Mathlib.Data.List.Chain
import Mathlib.Data.Finset.Card
/-!
# Every run ends

The run loop makes one pass per character it passes over and one per dispatch (`Machine.Passes`
counts them). A call of the step seeks forward and then dispatches inside the text, so it makes
at most `len` passes, `len` the length of the text. Under a step limit of `lim` a run therefore
never runs out of fuel: it takes at most `lim` steps, in at most `lim + 1` calls, and its loop
makes at most `(lim + 1) * len` passes.

Without a limit, the only steps that may send the run back are a loop that goes round again and
a jump. Every other step goes on after its own position: a skipped loop after the partner of its
bracket, which stands to the right, a label definition after its operand, and the rest after the
instruction. So the trace of a run holds at most `len` rows in a row that cannot go back, and a
text with neither a closing bracket nor a jump ends within `len` steps.

Main statement: `runs_end`.
-/

namespace GotoTape

/-- Whether an action may send the run back in the text: a loop that goes round again, or a
jump. -/
def Action.mayGoBack : Action → Bool
  | .repeatLoop _ | .jump _ _ => true
  | .movePointer _ | .increment _ _ _ | .decrement _ _ _ | .output _ | .input _ _ | .enterLoop
  | .skipLoop _ | .exitLoop | .defineLabel _ | .nothing => false

/-- Where the run goes on after the action of the instruction at `ip`: at the target of a loop
bracket that jumps and of a jump, after the operand of a label definition, and after the
instruction otherwise. -/
def Action.next (ip : Nat) : Action → Nat
  | .skipLoop t | .repeatLoop t | .jump _ t => t
  | .defineLabel _ => ip + 2
  | .movePointer _ | .increment _ _ _ | .decrement _ _ _ | .output _ | .input _ _ | .enterLoop
  | .exitLoop | .nothing => ip + 1

/-- The passes of the run loop of a run that ended as `o`, when `n` of them went on: a fault
stops the loop in one more pass. -/
def Outcome.passes (o : Outcome) (n : Nat) : Nat :=
  match o with
  | .fault _ => n + 1
  | .finished | .outOfFuel => n

theorem Outcome.passes_add (o : Outcome) (k n : Nat) : o.passes (k + n) = k + o.passes n := by
  cases o <;> simp only [passes, Nat.add_assoc]

/-- Every control grants a run at least one call of the step. -/
theorem Control.fuel_pos (ctl : Control) : 0 < ctl.fuel := by
  unfold Control.fuel
  split <;> simp [Machine.budget]

/-- The control lets a step through only below the limit, and before the last call that the
fuel grants. -/
theorem Control.lt_of_check {ctl : Control} {lim s : Nat} (hl : ctl.limit = some lim)
    (hc : ctl.check s = none) : s < lim ∧ s + 1 < ctl.fuel := by
  obtain ⟨limit, cancelAt⟩ := ctl
  dsimp only at hl
  subst hl
  cases cancelAt with
  | none =>
    simp only [Control.check, Control.limitCheck] at hc
    split_ifs at hc with h
    simp only [Control.fuel]
    omega
  | some k =>
    simp only [Control.check, Control.limitCheck] at hc
    split_ifs at hc with h₁ h₂
    simp only [Control.fuel]
    omega

/-- Row `r` is followed by a step at `ip` further on in the text, unless its action may send the
run back. -/
def Row.Advances (r : Row) (ip : Nat) : Prop := r.action.mayGoBack = false → r.ip < ip

theorem Row.Advances.mono {r : Row} {ip ip' : Nat} (h : r.Advances ip) (hle : ip ≤ ip') :
    r.Advances ip' :=
  fun hb => Nat.lt_of_lt_of_le (h hb) hle

/-- The rows `L` of a run that stands at `ip` now: each lies in a text of length `len`, and each
one whose action cannot send the run back is followed further on, by the next row or by `ip`. -/
structure Row.Forward (len : Nat) (L : List Row) (ip : Nat) : Prop where
  lt_len : ∀ r ∈ L, r.ip < len
  chain : L.IsChain (fun r r' => r.Advances r'.ip)
  last : ∀ r ∈ L.getLast?, r.Advances ip

namespace Row.Forward

variable {len ip ip' : Nat} {L : List Row} {row : Row}

theorem nil : Forward len [] ip := ⟨by simp, .nil, by simp⟩

theorem mono (h : Forward len L ip) (hle : ip ≤ ip') : Forward len L ip' :=
  ⟨h.lt_len, h.chain, fun r hr => (h.last r hr).mono hle⟩

/-- A row at or after where the run stood, inside the text, extends the rows. -/
theorem snoc (h : Forward len L ip) (hle : ip ≤ row.ip) (hlt : row.ip < len)
    (hr : row.Advances ip') : Forward len (L ++ [row]) ip' := by
  refine ⟨fun r hr' => ?_, ?_, fun r hr' => ?_⟩
  · rcases List.mem_append.1 hr' with hr' | hr'
    · exact h.lt_len r hr'
    · rw [List.mem_singleton.1 hr']
      exact hlt
  · refine List.isChain_append.2 ⟨h.chain, List.isChain_singleton row, fun x hx y hy => ?_⟩
    rw [List.head?_cons, Option.mem_some_iff] at hy
    subst hy
    exact (h.last x hx).mono hle
  · rw [List.getLast?_concat, Option.mem_some_iff] at hr'
    subst hr'
    exact hr

/-- Rows in a row that cannot go back stand at increasing positions of the text, so there are
at most `len` of them. -/
theorem length_le {A B C : List Row} (h : Forward len (A ++ B ++ C) ip)
    (hB : ∀ r ∈ B, r.action.mayGoBack = false) : B.length ≤ len := by
  have hchain : B.IsChain (fun r r' => r.Advances r'.ip) :=
    (List.isChain_append.1 (List.isChain_append.1 h.chain).1).2.1
  have hips : (B.map Row.ip).IsChain (· < ·) :=
    (List.isChain_map Row.ip).2 (hchain.imp_of_mem_imp fun a _ ha _ hab => hab (hB a ha))
  have hnodup : (B.map Row.ip).Nodup := (List.isChain_iff_pairwise.1 hips).imp Nat.ne_of_lt
  have hsub : (B.map Row.ip).toFinset ⊆ Finset.range len := by
    intro i hi
    rw [List.mem_toFinset, List.mem_map] at hi
    obtain ⟨r, hr, rfl⟩ := hi
    exact Finset.mem_range.2 (h.lt_len r (by simp [hr]))
  calc B.length = (B.map Row.ip).length := (List.length_map _).symm
    _ = (B.map Row.ip).toFinset.card := (List.toFinset_card_of_nodup hnodup).symm
    _ ≤ (Finset.range len).card := Finset.card_le_card hsub
    _ = len := Finset.card_range len

end Row.Forward

namespace Machine

/-- Seeking stops at the end of the text at the latest. -/
theorem seek_le_max (chars : Array Char) (ip : Nat) (d : Bool) :
    (seek chars ip d).1 ≤ max ip chars.size := by
  fun_induction seek chars ip d <;> omega

/-! ## Counting the passes of the run loop -/

/-- `m'` is `n` passes of the run loop of `p` after `m`. -/
inductive Passes (p : Program) : Nat → Machine → Machine → Prop
  | zero (m : Machine) : Passes p 0 m m
  | succ {n : Nat} {m m₁ m' : Machine} :
      Tick p m m₁ → Passes p n m₁ m' → Passes p (n + 1) m m'

section Passes

variable {p : Program}

theorem Passes.single {m m' : Machine} (h : Tick p m m') : Passes p 1 m m' := .succ h (.zero m')

theorem Passes.trans {n k : Nat} {m m₁ m' : Machine} (h₁ : Passes p n m m₁)
    (h₂ : Passes p k m₁ m') : Passes p (n + k) m m' := by
  induction h₁ with
  | zero => rwa [Nat.zero_add]
  | succ ht _ ih =>
    rw [Nat.add_right_comm]
    exact .succ ht (ih h₂)

/-- A pass moves one character on, or dispatches a step. -/
theorem Tick.advance {m m' : Machine} (h : Tick p m m') :
    m'.steps = m.steps ∧ m'.ip = m.ip + 1 ∨ m'.steps = m.steps + 1 := by
  cases h with
  | toggle => exact Or.inl ⟨rfl, rfl⟩
  | skip => exact Or.inl ⟨rfl, rfl⟩
  | dispatch _ _ _ hd => exact Or.inr (dispatch_stepped hd).2.1

/-- A machine has one next pass. -/
theorem Tick.deterministic {m m₁ m₂ : Machine} (h₁ : Tick p m m₁) (h₂ : Tick p m m₂) :
    m₁ = m₂ := by
  cases h₁ with
  | toggle h =>
    cases h₂ with
    | toggle => rfl
    | skip h' hc => exact absurd (Option.some.inj (h'.symm.trans h)) hc
    | dispatch h' hc => exact absurd (Option.some.inj (h'.symm.trans h)) hc
  | skip h hc hin =>
    cases h₂ with
    | toggle h' => exact absurd (Option.some.inj (h.symm.trans h')) hc
    | skip => rfl
    | dispatch _ _ hin' => rw [hin] at hin'; cases hin'
  | dispatch h hc hin hd =>
    cases h₂ with
    | toggle h' => exact absurd (Option.some.inj (h.symm.trans h')) hc
    | skip _ _ hin' => rw [hin] at hin'; cases hin'
    | dispatch h' _ _ hd' =>
      obtain rfl := Option.some.inj (h.symm.trans h')
      rw [hd] at hd'
      exact (Step.stepped.inj hd').2

/-- After `n` passes the machine has dispatched more, or stands `n` characters further on. -/
theorem Passes.advance {n : Nat} {m m' : Machine} (h : Passes p n m m') :
    m.steps < m'.steps ∨ m'.steps = m.steps ∧ m'.ip = m.ip + n := by
  induction h with
  | zero => exact Or.inr ⟨rfl, rfl⟩
  | succ ht _ ih => rcases ht.advance with ⟨hs, hi⟩ | hs <;> omega

/-- The passes from one machine to another are counted one way only: the loop is deterministic
and never comes back to a machine it left. -/
theorem Passes.count_unique {n k : Nat} {m m' : Machine} (h₁ : Passes p n m m')
    (h₂ : Passes p k m m') : n = k := by
  induction h₁ generalizing k with
  | zero => rcases h₂.advance with h | ⟨-, h⟩ <;> omega
  | succ ht hr ih =>
    cases h₂ with
    | zero => rcases (Passes.succ ht hr).advance with h | ⟨-, h⟩ <;> omega
    | succ ht' hr' =>
      obtain rfl := ht.deterministic ht'
      rw [ih hr']

/-- Seeking passes over one character in each pass. -/
theorem passes_seekFrom (m : Machine) : Passes p ((seekFrom p m).ip - m.ip) m (seekFrom p m) := by
  obtain ⟨tape, input, output, eof, ip, d, steps⟩ := m
  unfold seekFrom
  dsimp only
  fun_induction seek p.chars ip d with
  | case1 ip d h c hc ih =>
    have hle := seek_le p.chars (ip + 1) (!d)
    rw [show (seek p.chars (ip + 1) !d).1 - ip = (seek p.chars (ip + 1) !d).1 - (ip + 1) + 1 by
      omega]
    exact .succ (.toggle (by simp [h, ← hc, c])) ih
  | case2 ip h c hc ih =>
    have hle := seek_le p.chars (ip + 1) true
    rw [show (seek p.chars (ip + 1) true).1 - ip = (seek p.chars (ip + 1) true).1 - (ip + 1) + 1 by
      omega]
    exact .succ (.skip (by simp [h, c]) hc rfl) ih
  | case3 ip d h c hc hin =>
    simp only [Bool.not_eq_true] at hin
    subst hin
    rw [Nat.sub_self]
    exact .zero _
  | case4 ip d h =>
    rw [Nat.sub_self]
    exact .zero _

/-- Seeking passes over no more characters than the text has. -/
theorem seekFrom_sub_le (m : Machine) : (seekFrom p m).ip - m.ip ≤ p.len := by
  have := seek_le_max p.chars m.ip m.inComment
  show (seek p.chars m.ip m.inComment).1 - m.ip ≤ p.chars.size
  omega

end Passes

/-! ## Passes of a run -/

section Runs

variable {σ : Type} {p : Program} {ctl : Control} {watch : σ → Row → σ}

/-- A call of the step that runs seeks, then dispatches: inside the text, so in at most `len`
passes. -/
theorem passes_step {m m' : Machine} {row : Row} (h : step p ctl m = .stepped row m') :
    Passes p ((seekFrom p m).ip - m.ip + 1) m m' ∧ (seekFrom p m).ip - m.ip + 1 ≤ p.len := by
  obtain ⟨hlt, -, hd⟩ := step_stepped h
  obtain ⟨hc, hin⟩ := seekFrom_stop m hlt
  have hpass := (passes_seekFrom m).trans
    (Passes.single (.dispatch (Array.getElem?_eq_getElem hlt) hc hin hd))
  refine ⟨hpass, ?_⟩
  unfold Program.len
  omega

/-- A run makes at most `len` passes for each call of the step, and it makes one call more than
it takes steps. -/
theorem runFor_passes : ∀ {n : Nat} {acc r : σ} {m m' : Machine} {o : Outcome},
    runFor p ctl watch n acc m = (o, m', r) →
      ∃ k, Passes p k m m' ∧ o.passes k ≤ (m'.steps - m.steps + 1) * p.len
  | 0, _, _, _, _, _, h => by
    simp only [runFor, Prod.mk.injEq] at h
    obtain ⟨rfl, rfl, -⟩ := h
    exact ⟨0, .zero _, Nat.zero_le _⟩
  | n + 1, acc, r, m, m', o, h => by
    unfold runFor at h
    split at h
    · rename_i m'' hs
      simp only [Prod.mk.injEq] at h
      obtain ⟨rfl, rfl, -⟩ := h
      obtain ⟨rfl, -⟩ := step_halted hs
      refine ⟨_, passes_seekFrom m, ?_⟩
      simp only [Outcome.passes, steps_seekFrom, Nat.sub_self, Nat.zero_add, Nat.one_mul]
      exact seekFrom_sub_le m
    · rename_i f m'' hs
      simp only [Prod.mk.injEq] at h
      obtain ⟨rfl, rfl, -⟩ := h
      obtain ⟨rfl, hlt, -⟩ := step_faulted hs
      refine ⟨_, passes_seekFrom m, ?_⟩
      simp only [Outcome.passes, steps_seekFrom, Nat.sub_self, Nat.zero_add, Nat.one_mul]
      unfold Program.len
      omega
    · rename_i row m'' hs
      obtain ⟨hpass, hle⟩ := passes_step hs
      obtain ⟨k, hk, hbound⟩ := runFor_passes h
      have hsteps := step_steps hs
      have hmono := runFor_steps_le h
      refine ⟨_ + k, hpass.trans hk, ?_⟩
      -- the first call takes one step and at most `len` passes; the rest is the run after it
      have hcount : m'.steps - m.steps + 1 = (m'.steps - m''.steps + 1) + 1 := by omega
      rw [Outcome.passes_add, hcount, Nat.succ_mul]
      omega

end Runs

/-! ## Runs under a step limit -/

section Limit

variable {σ : Type} {p : Program} {ctl : Control} {watch : σ → Row → σ} {lim : Nat}

/-- Under a limit, the control lets a step through only below the limit and before the last call
of the fuel, so the steps of a run stay there. -/
theorem runFor_steps_of_limit (hl : ctl.limit = some lim) {n : Nat} {acc r : σ} {m m' : Machine}
    {o : Outcome} (h : runFor p ctl watch n acc m = (o, m', r)) (hf : m.steps < ctl.fuel)
    (hlim : m.steps ≤ lim) : m'.steps < ctl.fuel ∧ m'.steps ≤ lim := by
  have hrun : (runFor p ctl watch n acc m).2.1.steps < ctl.fuel ∧
      (runFor p ctl watch n acc m).2.1.steps ≤ lim := by
    refine runFor_invariant (fun _ m => m.steps < ctl.fuel ∧ m.steps ≤ lim) (fun _ _ hm => hm)
      (fun _ m₁ _ _ _ hs => ?_) n acc m ⟨hf, hlim⟩
    obtain ⟨-, hc, -⟩ := step_stepped hs
    have hlt := Control.lt_of_check hl hc
    rw [step_steps hs]
    omega
  rw [h] at hrun
  exact hrun

/-- Under a limit of `lim`, a run from a machine with no steps never runs out of fuel, takes at
most `lim` steps, and its loop makes at most `(lim + 1) * len` passes, however they are
counted. -/
theorem run_passes_of_limit (hl : ctl.limit = some lim) (acc : σ) {m₀ : Machine}
    (h0 : m₀.steps = 0) :
    (run p ctl watch acc m₀).1 ≠ .outOfFuel ∧ (run p ctl watch acc m₀).2.1.steps ≤ lim ∧
      (∃ n, Passes p n m₀ (run p ctl watch acc m₀).2.1) ∧
      ∀ n, Passes p n m₀ (run p ctl watch acc m₀).2.1 →
        (run p ctl watch acc m₀).1.passes n ≤ (lim + 1) * p.len := by
  rcases hr : run p ctl watch acc m₀ with ⟨o, m, r⟩
  have hr' : runFor p ctl watch ctl.fuel acc m₀ = (o, m, r) := hr
  have hsteps := runFor_steps_of_limit hl hr' (h0 ▸ ctl.fuel_pos) (by omega)
  obtain ⟨k, hk, hbound⟩ := runFor_passes hr'
  refine ⟨fun ho => ?_, hsteps.2, ⟨k, hk⟩, fun n hn => ?_⟩
  · subst ho
    have := runFor_outOfFuel_steps hr'
    omega
  · rw [hk.count_unique hn] at hbound
    calc o.passes n ≤ (m.steps - m₀.steps + 1) * p.len := hbound
      _ ≤ (lim + 1) * p.len := Nat.mul_le_mul_right _ (by omega)

end Limit

/-! ## Where a step goes on -/

section Next

variable {p : Program} {c : Char} {m m' : Machine} {row : Row}

/-- A dispatch that runs records its own position, and the run goes on where its action says. A
skipped loop goes on after the partner of an opening bracket; only a closing bracket and a jump
may go back. -/
theorem dispatch_next (h : dispatch p c m = .stepped row m') :
    row.ip = m.ip ∧ m'.ip = row.action.next row.ip ∧
      (∀ t, row.action = .skipLoop t →
        c = '[' ∧ ∃ j, p.brackets.partner m.ip = some j ∧ t = j + 1) ∧
      (row.action.mayGoBack = true → c = ']' ∨ c = jumpMark) := by
  obtain ⟨tape, input, output, eof, ip, inComment, steps⟩ := m
  simp only [dispatch] at h
  split at h <;> (repeat' split at h) <;> simp only [reduceCtorEq, Step.stepped.injEq] at h <;>
    obtain ⟨rfl, rfl⟩ := h
  all_goals simp_all [Action.next, Action.mayGoBack, jumpMark]

/-- A step that runs dispatches inside the text, at or after where the machine stood, and goes on
where its action says. -/
theorem step_next {ctl : Control} (h : step p ctl m = .stepped row m') :
    m.ip ≤ row.ip ∧ row.ip < p.len ∧ m'.ip = row.action.next row.ip ∧
      ∀ t, row.action = .skipLoop t →
        p.chars[row.ip]? = some '[' ∧ ∃ j, p.brackets.partner row.ip = some j ∧ t = j + 1 := by
  obtain ⟨hlt, -, hd⟩ := step_stepped h
  obtain ⟨hip, hnext, hskip, -⟩ := dispatch_next hd
  have hle := seek_le p.chars m.ip m.inComment
  refine ⟨hip ▸ hle, hip ▸ hlt, hnext, fun t ht => ?_⟩
  obtain ⟨hc, hj⟩ := hskip t ht
  rw [hip]
  exact ⟨hc ▸ Array.getElem?_eq_getElem hlt, hj⟩

end Next

end Machine

open Lexeme

namespace Program

section Checked

variable {cs : List Char} {limits : Limits} {p : Program} (hp : Checked cs limits p)
include hp

/-- The partner of an opening bracket stands to its right. -/
theorem Checked.lt_partner {i j : Nat} (hc : p.chars[i]? = some '[')
    (hj : p.brackets.partner i = some j) : i < j := by
  rcases (hp.brackets.partner i j).1 hj with hm | hm
  · obtain ⟨A, o, body, c, C, he, -, -, rfl, rfl, -⟩ := hm
    have hs := pairwise_start_lex cs
    rw [he, List.pairwise_append, List.pairwise_cons] at hs
    exact hs.2.1.1 c (by simp)
  · -- then a closing bracket of the text stands at `i`, where the text has an opening one
    obtain ⟨-, x, hx, rfl, hk⟩ := hm.mem
    have hcode := (mem_lex_code hx (by simp [isCode, hk])).2.2
    rw [hp.getElem?_chars] at hc
    rw [hc] at hcode
    simp [Lexeme.instr, hk] at hcode

/-- A step that cannot go back goes on strictly after its own position; a skipped loop goes on
after the partner of its bracket, which stands to the right. -/
theorem Checked.step_advances {ctl : Control} {m m' : Machine} {row : Row}
    (h : Machine.step p ctl m = .stepped row m') :
    (∀ t, row.action = .skipLoop t →
        ∃ j, p.brackets.partner row.ip = some j ∧ row.ip < j ∧ t = j + 1) ∧
      row.Advances m'.ip := by
  obtain ⟨-, -, hnext, hskip⟩ := Machine.step_next h
  have hskip' : ∀ t, row.action = .skipLoop t →
      ∃ j, p.brackets.partner row.ip = some j ∧ row.ip < j ∧ t = j + 1 := by
    intro t ht
    obtain ⟨hc, j, hj, rfl⟩ := hskip t ht
    exact ⟨j, hj, hp.lt_partner hc hj, rfl⟩
  refine ⟨hskip', fun hb => ?_⟩
  rw [hnext]
  cases ha : row.action <;> simp [ha, Action.next, Action.mayGoBack] at hb ⊢
  case skipLoop t =>
    obtain ⟨j, -, hlt, rfl⟩ := hskip' t ha
    omega

/-- The rows a run keeps lie in the text, and each one that cannot go back is followed further
on. -/
theorem Checked.runFor_forward {ctl : Control} {w : Watch} (hw : w.rows = true) (n : Nat) :
    ∀ (k : Kept) (m : Machine), Row.Forward p.len k.rows.toList m.ip →
      Row.Forward p.len (Machine.runFor p ctl w.note n k m).2.2.rows.toList
        (Machine.runFor p ctl w.note n k m).2.1.ip := by
  have hseek : ∀ (k : Kept) (m : Machine), Row.Forward p.len k.rows.toList m.ip →
      Row.Forward p.len k.rows.toList (Machine.seekFrom p m).ip :=
    fun _ m h => h.mono (Machine.seek_le p.chars m.ip m.inComment)
  refine Machine.runFor_invariant
    (fun (k : Kept) (m : Machine) => Row.Forward p.len k.rows.toList m.ip) hseek (fun k m row m' h hs => ?_) n
  obtain ⟨hle, hlt, -, -⟩ := Machine.step_next hs
  show Row.Forward p.len (w.note k row).rows.toList m'.ip
  rw [Watch.rows_note, hw, if_pos rfl, Array.toList_push]
  exact h.snoc hle hlt (hp.step_advances hs).2

section Forward

variable (hno : ∀ x ∈ lex cs, x.kind ≠ .op ']' ∧ ∀ l, x.kind ≠ .jump l) {m₀ : Machine}
  (h₀ : m₀.ip = 0) (hc₀ : m₀.inComment = false)
include hno h₀ hc₀

/-- From the start of a text with neither a closing bracket nor a jump, no step goes back: the
loop stays aligned with the lexer, so a dispatched `]` or jump would be a lexeme of the text. -/
theorem Checked.mayGoBack_eq_false {ctl : Control} {m m' : Machine} {row : Row}
    (hreach : Relation.ReflTransGen (Machine.Tick p) m₀ m)
    (h : Machine.step p ctl m = .stepped row m') : row.action.mayGoBack = false := by
  obtain ⟨hlt, -, hd⟩ := Machine.step_stepped h
  obtain ⟨hc, hin⟩ := Machine.seekFrom_stop m hlt
  have ha := hp.aligned_of_ticks h₀ hc₀ (hreach.trans (Machine.ticks_seekFrom m))
  rw [hin] at ha
  have hpoint := hp.dispatch_point ha (Array.getElem?_eq_getElem hlt) hc
  cases hb : row.action.mayGoBack with
  | false => rfl
  | true =>
    exfalso
    rcases (Machine.dispatch_next hd).2.2.2 hb with hcl | hjm
    · obtain ⟨x, hx, -, hk⟩ := (hpoint.1 (Or.inr hcl)).1
      exact (hno x hx).1 (hcl ▸ hk)
    · -- a jump marker outside comments with its operand is read as a jump
      have h1 := hpoint.2 (Or.inr hjm)
      have hcs : cs[(Machine.seekFrom p m).ip]? = some jumpMark := by
        rw [← hp.getElem?_chars, Array.getElem?_eq_getElem hlt, hjm]
      obtain ⟨hlt', hcs⟩ := List.getElem?_eq_some_iff.1 hcs
      have hx := (ha.boundary hlt').mem_lex (readAt_jumpMark hlt' hcs h1)
      exact (hno _ hx).2 _ rfl

/-- Without a step that goes back, a run has taken no more steps than the position it stands
at. -/
theorem Checked.runFor_steps_le_ip {ctl : Control} {σ : Type} {watch : σ → Row → σ} (n : Nat)
    (acc : σ) (m : Machine) (hreach : Relation.ReflTransGen (Machine.Tick p) m₀ m)
    (hle : m.steps ≤ m.ip) :
    (Machine.runFor p ctl watch n acc m).2.1.steps ≤
      (Machine.runFor p ctl watch n acc m).2.1.ip := by
  -- carried with the machine: it is reached from the start, so the loop stays aligned there
  have hrun : Relation.ReflTransGen (Machine.Tick p) m₀ (Machine.runFor p ctl watch n acc m).2.1 ∧
      (Machine.runFor p ctl watch n acc m).2.1.steps ≤
        (Machine.runFor p ctl watch n acc m).2.1.ip := by
    refine Machine.runFor_invariant
      (fun _ m => Relation.ReflTransGen (Machine.Tick p) m₀ m ∧ m.steps ≤ m.ip)
      (fun _ m h => ⟨h.1.trans (Machine.ticks_seekFrom m),
        h.2.trans (Machine.seek_le p.chars m.ip m.inComment)⟩)
      (fun _ m row m' h hs => ?_) n acc m ⟨hreach, hle⟩
    have hsteps := Machine.step_steps hs
    have hfrom := (Machine.step_next hs).1
    have hnext := (hp.step_advances hs).2 (hp.mayGoBack_eq_false hno h₀ hc₀ h.1 hs)
    exact ⟨h.1.trans (Machine.ticks_step hs), by omega⟩
  exact hrun.2

/-- A run from the start of a text with neither a closing bracket nor a jump ends within `len`
steps, on any fuel above `len`. -/
theorem Checked.runFor_ends (h0 : m₀.steps = 0) {ctl : Control} {σ : Type}
    {watch : σ → Row → σ} (acc : σ) {n : Nat} (hn : cs.length < n) :
    (Machine.runFor p ctl watch n acc m₀).1 ≠ .outOfFuel ∧
      (Machine.runFor p ctl watch n acc m₀).2.1.steps ≤ cs.length := by
  have hle : (Machine.runFor p ctl watch n acc m₀).2.1.steps ≤
      (Machine.runFor p ctl watch n acc m₀).2.1.ip :=
    hp.runFor_steps_le_ip hno h₀ hc₀ n acc m₀ .refl (by omega)
  have hreach :
      Relation.ReflTransGen (Machine.Tick p) m₀ (Machine.runFor p ctl watch n acc m₀).2.1 :=
    Machine.ticks_runFor n acc m₀
  have hlen := (hp.aligned_of_ticks h₀ hc₀ hreach).le_length
  refine ⟨fun ho => ?_, by omega⟩
  rcases hr : Machine.runFor p ctl watch n acc m₀ with ⟨o, m, r⟩
  rw [hr] at ho hle hlen
  dsimp only at ho hle hlen
  subst ho
  have := Machine.runFor_outOfFuel_steps hr
  omega

end Forward

end Checked

end Program

/-- Every run of a checked program under a step limit `lim` ends: it never runs out of fuel, takes
at most `lim` steps, and its loop makes at most `(lim + 1) * len` passes, within the
`lim + (lim + 1) * len` of the limit's budget. Every step passes over comments forward and goes
on where its action says: a skipped loop after the partner of its bracket, to the right, and
every step but a loop going round again or a jump strictly after its own position. So a trace
holds at most `len` rows in a row that cannot go back, and from the start of a text with neither
a closing bracket nor a jump a run ends within `len` steps, on any fuel above `len`. -/
theorem runs_end {cs : List Char} {limits : Limits} {p : Program}
    (h : Program.check cs limits = .ok p) :
    (∀ (ctl : Control) (lim : Nat), ctl.limit = some lim →
      ∀ {σ : Type} (watch : σ → Row → σ) (acc : σ) (m₀ : Machine), m₀.steps = 0 →
        (Machine.run p ctl watch acc m₀).1 ≠ .outOfFuel ∧
          (Machine.run p ctl watch acc m₀).2.1.steps ≤ lim ∧
          (∃ n, Machine.Passes p n m₀ (Machine.run p ctl watch acc m₀).2.1) ∧
          ∀ n, Machine.Passes p n m₀ (Machine.run p ctl watch acc m₀).2.1 →
            (Machine.run p ctl watch acc m₀).1.passes n ≤ (lim + 1) * cs.length) ∧
      (∀ (ctl : Control) (m m' : Machine) (row : Row), Machine.step p ctl m = .stepped row m' →
        m.ip ≤ row.ip ∧ m'.ip = row.action.next row.ip ∧
          (∀ t, row.action = .skipLoop t →
            ∃ j, p.brackets.partner row.ip = some j ∧ row.ip < j ∧ t = j + 1) ∧
          (row.action.mayGoBack = false → row.ip < m'.ip)) ∧
      (∀ (ctl : Control) (w : Watch) (m : Machine), w.rows = true →
        ∀ A B C, (Machine.run p ctl w.note {} m).2.2.rows.toList = A ++ B ++ C →
          (∀ r ∈ B, r.action.mayGoBack = false) → B.length ≤ cs.length) ∧
      ((∀ x ∈ lex cs, x.kind ≠ .op ']' ∧ ∀ l, x.kind ≠ .jump l) →
        ∀ (ctl : Control) {σ : Type} (watch : σ → Row → σ) (acc : σ) (m₀ : Machine),
          m₀.ip = 0 → m₀.inComment = false → m₀.steps = 0 → ∀ n, cs.length < n →
            (Machine.runFor p ctl watch n acc m₀).1 ≠ .outOfFuel ∧
              (Machine.runFor p ctl watch n acc m₀).2.1.steps ≤ cs.length) := by
  have hp := Program.Checked.of_check h
  have hlen : p.len = cs.length := by rw [Program.len, hp.chars, List.size_toArray]
  refine ⟨fun ctl lim hl σ watch acc m₀ h0 => hlen ▸ Machine.run_passes_of_limit hl acc h0,
    fun ctl m m' row hs => ?_, fun ctl w m hw A B C hrows hB => ?_,
    fun hno ctl σ watch acc m₀ h₀ hc₀ h0 n hn => hp.runFor_ends hno h₀ hc₀ h0 acc hn⟩
  · obtain ⟨hle, -, hnext, -⟩ := Machine.step_next hs
    obtain ⟨hskip, hadv⟩ := hp.step_advances hs
    exact ⟨hle, hnext, hskip, hadv⟩
  · have hf : Row.Forward p.len (Machine.run p ctl w.note {} m).2.2.rows.toList
        (Machine.run p ctl w.note {} m).2.1.ip :=
      hp.runFor_forward hw ctl.fuel {} m Row.Forward.nil
    rw [hrows, hlen] at hf
    exact hf.length_le hB

/-- The lexemes of a text with a label, an operation, a comment around a bracket, and an
output. -/
theorem lex_commented_bracket :
    lex ['^', 'a', '+', '#', '[', '#', '.'] =
      [⟨0, 2, .labelDef (some 'a')⟩, ⟨2, 1, .op '+'⟩, ⟨3, 1, .commentDelimiter⟩,
        ⟨4, 1, .comment⟩, ⟨5, 1, .commentDelimiter⟩, ⟨6, 1, .op '.'⟩] := by
  simp [lex, Lexeme.scan_cons, Lexeme.read, Lexeme.scan.eq_1, commentMark, labelMark, jumpMark,
    isOperator]

/-- The program of that text: the bracket in the comment has no partner, and the label is
known. -/
theorem check_commented_bracket :
    Program.check ['^', 'a', '+', '#', '[', '#', '.'] {} =
      .ok ⟨#['^', 'a', '+', '#', '[', '#', '.'], ⟨Array.replicate 7 none, []⟩,
        ⟨20, #[('a', 2)]⟩⟩ := by
  rw [Program.check, Program.scan, lex_commented_bracket]
  rfl

/-- That text passes the pre-scan, and its runs end as every run does; having neither a closing
bracket nor a jump, it ends within seven steps. -/
theorem commented_bracket_runs_end :
    ∃ p, Program.check ['^', 'a', '+', '#', '[', '#', '.'] {} = .ok p ∧
      (∀ (ctl : Control) (lim : Nat), ctl.limit = some lim →
        ∀ {σ : Type} (watch : σ → Row → σ) (acc : σ) (m₀ : Machine), m₀.steps = 0 →
          (Machine.run p ctl watch acc m₀).1 ≠ .outOfFuel ∧
            (Machine.run p ctl watch acc m₀).2.1.steps ≤ lim ∧
            (∃ n, Machine.Passes p n m₀ (Machine.run p ctl watch acc m₀).2.1) ∧
            ∀ n, Machine.Passes p n m₀ (Machine.run p ctl watch acc m₀).2.1 →
              (Machine.run p ctl watch acc m₀).1.passes n ≤ (lim + 1) * 7) ∧
        (∀ (ctl : Control) (m m' : Machine) (row : Row), Machine.step p ctl m = .stepped row m' →
          m.ip ≤ row.ip ∧ m'.ip = row.action.next row.ip ∧
            (∀ t, row.action = .skipLoop t →
              ∃ j, p.brackets.partner row.ip = some j ∧ row.ip < j ∧ t = j + 1) ∧
            (row.action.mayGoBack = false → row.ip < m'.ip)) ∧
        (∀ (ctl : Control) (w : Watch) (m : Machine), w.rows = true →
          ∀ A B C, (Machine.run p ctl w.note {} m).2.2.rows.toList = A ++ B ++ C →
            (∀ r ∈ B, r.action.mayGoBack = false) → B.length ≤ 7) ∧
        ((∀ x ∈ lex ['^', 'a', '+', '#', '[', '#', '.'], x.kind ≠ .op ']' ∧ ∀ l, x.kind ≠ .jump l) →
          ∀ (ctl : Control) {σ : Type} (watch : σ → Row → σ) (acc : σ) (m₀ : Machine),
            m₀.ip = 0 → m₀.inComment = false → m₀.steps = 0 → ∀ n, 7 < n →
              (Machine.runFor p ctl watch n acc m₀).1 ≠ .outOfFuel ∧
                (Machine.runFor p ctl watch n acc m₀).2.1.steps ≤ 7) :=
  ⟨_, check_commented_bracket, runs_end check_commented_bracket⟩

end GotoTape
