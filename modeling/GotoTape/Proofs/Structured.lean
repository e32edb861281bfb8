import GotoTape.Proofs.Code
/-!
# Loops run as loops

A program without jumps has the shape of a tree: a sequence of atomic steps (operators, label
definitions, inert characters) and loops, each with the block it repeats. Run structurally, a
loop tests its cell once at its opening bracket and skips the loop on zero; otherwise it runs the
body and tests the cell at the closing bracket, running the body again for as long as the cell is
not zero. Nothing in that run looks at the program's bracket map.

The flat run loop does it otherwise: it jumps to the partner of a bracket and goes on after it,
so that a repeated body is entered without a test at its opening bracket. Both runs take the same
steps. A simulation ties each place of the text to what the structured run has left to do, and
every step of the one to a step of the other with the same row.

Main statements: `Structured.step_agree` (one step of each) and `structured_run_agrees`.
-/

namespace GotoTape

open Lexeme

/-! ## Trees of code -/

/-- A program without jumps as a tree: atomic steps and loops, each loop with its two brackets,
the block it repeats and the block after it. -/
inductive Block where
  | done
  | atom (x : Lexeme) (rest : Block)
  | loop (o c : Lexeme) (body rest : Block)

namespace Block

/-- The lexemes of code of a block, in the order of the text. -/
def code : Block → List Lexeme
  | done => []
  | atom x rest => x :: rest.code
  | loop o c body rest => o :: (body.code ++ c :: rest.code)

/-- An atomic step: an operator other than a loop bracket, a label definition with its label, or
an inert character. -/
def IsAtom (x : Lexeme) : Prop :=
  (∃ c, x.kind = .op c ∧ c ≠ '[' ∧ c ≠ ']') ∨ (∃ l, x.kind = .labelDef (some l)) ∨
    ∃ c, x.kind = .inert c

/-- A block whose atoms are atomic steps and whose loops open and close with brackets. -/
inductive WF : Block → Prop
  | done : WF done
  | atom {x : Lexeme} {rest : Block} (hx : IsAtom x) (h : WF rest) : WF (atom x rest)
  | loop {o c : Lexeme} {body rest : Block} (ho : o.kind = .op '[') (hc : c.kind = .op ']')
      (hb : WF body) (h : WF rest) : WF (loop o c body rest)

/-- A block is a tree of a text when it is well formed and has the text's code. -/
def Parses (cs : List Char) (b : Block) : Prop := b.WF ∧ b.code = Lexeme.code (lex cs)

/-- The code of a tree has balanced loops. -/
theorem WF.balanced {b : Block} (h : b.WF) : Balanced b.code := by
  induction h with
  | done => exact .nil
  | @atom x rest hx _ ih =>
    refine .plain ?_ ?_ ih <;> intro hk <;>
      rcases hx with ⟨c, hc, h₁, h₂⟩ | ⟨l, hl⟩ | ⟨c, hc⟩ <;> simp_all
  | loop ho hc _ _ ihb ih => exact .loop ho hc ihb ih

/-- Balanced code whose other lexemes are atomic steps is the code of a tree. -/
theorem exists_of_balanced {xs : List Lexeme} (h : Balanced xs)
    (hatom : ∀ x ∈ xs, x.kind ≠ .op '[' → x.kind ≠ .op ']' → IsAtom x) :
    ∃ b : Block, b.WF ∧ b.code = xs := by
  induction h with
  | nil => exact ⟨done, .done, rfl⟩
  | @plain x xs ho hc _ ih =>
    obtain ⟨b, hb, rfl⟩ := ih fun y hy => hatom y (by simp [hy])
    exact ⟨atom x b, .atom (hatom x (by simp) ho hc) hb, rfl⟩
  | @loop o c body xs ho hc _ _ ihb ih =>
    obtain ⟨b₁, hb₁, rfl⟩ := ihb fun y hy => hatom y (by simp [hy])
    obtain ⟨b₂, hb₂, rfl⟩ := ih fun y hy => hatom y (by simp [hy])
    exact ⟨loop o c b₁ b₂, .loop ho hc hb₁ hb₂, rfl⟩

end Block

/-- The character the run loop dispatches for a lexeme of code. -/
def Lexeme.instr (x : Lexeme) : Char :=
  match x.kind with
  | .op c | .inert c => c
  | .labelDef _ => labelMark
  | .jump _ => jumpMark
  | .commentDelimiter | .comment => commentMark

/-! ## Atomic steps in the text -/

section Atoms

variable {cs : List Char} {pos : Nat} {x : Lexeme} {d' : Bool}

/-- A lexeme of code is read where its character stands. -/
theorem readAt_instr (h : readAt cs pos false = some (x, d')) (hx : isCode x = true) :
    cs[pos]? = some x.instr := by
  obtain ⟨c, rest, hd, rfl, -⟩ := exists_of_readAt h
  have hc : cs[pos]? = some c := by
    have h0 := congrArg (fun l => l[0]?) hd
    simpa only [List.getElem?_drop, Nat.add_zero, List.getElem?_cons_zero] using h0
  rw [hc]
  rw [read.eq_def] at hx ⊢
  split_ifs at hx ⊢ <;> (try cases rest) <;> simp_all [Lexeme.instr, isCode]

/-- An atomic step read outside comments is one character long, unless it defines a label: then
it is two, the marker and its label. -/
theorem readAt_atom (h : readAt cs pos false = some (x, d')) (hx : Block.IsAtom x) :
    x.instr ≠ labelMark ∧ x.instr ≠ jumpMark ∧ x.instr ≠ '[' ∧ x.instr ≠ ']' ∧ x.len = 1 ∨
      x.instr = labelMark ∧ x.len = 2 := by
  obtain ⟨c, rest, -, rfl, -⟩ := exists_of_readAt h
  unfold Block.IsAtom at hx
  rw [read.eq_def] at hx ⊢
  split_ifs at hx ⊢ <;> (try cases rest) <;>
    simp_all [Lexeme.instr, isOperator, labelMark, jumpMark]

/-- A dispatched atomic step goes on right after its lexeme. -/
theorem dispatch_atom {p : Program} {m m' : Machine} {row : Row}
    (h : readAt cs pos false = some (x, d')) (hx : Block.IsAtom x)
    (hd : Machine.dispatch p x.instr m = .stepped row m') :
    m'.ip = m.ip + x.len ∧ m'.inComment = m.inComment := by
  obtain ⟨hin, -, hip⟩ := Machine.dispatch_stepped hd
  refine ⟨?_, hin⟩
  rcases readAt_atom h hx with ⟨h₁, h₂, h₃, h₄, hl⟩ | ⟨h₁, hl⟩ <;>
    rcases hip with ⟨hl₁, -, hip⟩ | ⟨hb, -⟩ | ⟨hl₁, hip⟩ | ⟨hj, -⟩ <;>
    simp_all [labelMark, jumpMark]

end Atoms

/-! ## Machines that agree -/

namespace Machine

/-- Two machines agree when all but their place in the text is the same: tape, input, output,
end-of-input policy and step count. -/
def Agree (m mr : Machine) : Prop :=
  m.tape = mr.tape ∧ m.input = mr.input ∧ m.output = mr.output ∧ m.eof = mr.eof ∧
    m.steps = mr.steps

section Agree

variable {m mr : Machine}

theorem Agree.refl (m : Machine) : m.Agree m := ⟨rfl, rfl, rfl, rfl, rfl⟩

/-- Machines that agree are the same once put at the same place. -/
theorem Agree.at_eq (h : m.Agree mr) (ip : Nat) (d : Bool) :
    { m with ip := ip, inComment := d } = { mr with ip := ip, inComment := d } := by
  obtain ⟨ht, hi, ho, he, hs⟩ := h
  cases m
  cases mr
  simp_all

/-- Counting a step keeps machines in agreement, wherever either goes. -/
theorem Agree.count (h : m.Agree mr) (ip : Nat) (d : Bool) :
    Agree { m with ip := ip, inComment := d, steps := m.steps + 1 }
      { mr with steps := mr.steps + 1 } := by
  obtain ⟨ht, hi, ho, he, hs⟩ := h
  exact ⟨ht, hi, ho, he, by simp [hs]⟩

end Agree

end Machine

/-! ## The structured run -/

namespace Structured

/-- What the structured run has left to do, first things first: a block to run, or the test at
the closing bracket of a loop whose body has just run. -/
inductive Frame where
  | run (b : Block)
  | close (o c : Lexeme) (body : Block)

/-- The code that frames have left to run, in the order of the text. -/
def codeOf : List Frame → List Lexeme
  | [] => []
  | .run b :: k => b.code ++ codeOf k
  | .close _ c _ :: k => c :: codeOf k

/-- One step of the structured run of program `p`, with the frames left after it. An atomic step
is dispatched at the place of its lexeme. A loop tests its cell at the opening bracket: on zero it
is skipped, otherwise its body runs and then the test at its closing bracket, which runs the body
again while the cell is not zero. -/
def step (p : Program) : List Frame → Machine → Step × List Frame
  | [], m => (.halted m, [])
  | .run .done :: k, m => step p k m
  | .run (.atom x rest) :: k, m =>
    (Machine.dispatch p x.instr { m with ip := x.start, inComment := false }, .run rest :: k)
  | .run (.loop o c body rest) :: k, m =>
    if m.tape.read = 0 then
      (.stepped (m.rowAt o.start '[' (.skipLoop (c.start + 1))) { m with steps := m.steps + 1 },
        .run rest :: k)
    else
      (.stepped (m.rowAt o.start '[' .enterLoop) { m with steps := m.steps + 1 },
        .run body :: .close o c body :: .run rest :: k)
  | .close o c body :: k, m =>
    if m.tape.read ≠ 0 then
      (.stepped (m.rowAt c.start ']' (.repeatLoop (o.start + 1))) { m with steps := m.steps + 1 },
        .run body :: .close o c body :: k)
    else (.stepped (m.rowAt c.start ']' .exitLoop) { m with steps := m.steps + 1 }, k)

/-- Runs at most `fuel` steps of the structured run, folding each row into `acc` with `watch`. -/
def runFor {σ : Type} (p : Program) (watch : σ → Row → σ) :
    Nat → σ → List Frame → Machine → Outcome × Machine × σ
  | 0, acc, _, m => (.outOfFuel, m, acc)
  | fuel + 1, acc, k, m =>
    match step p k m with
    | (.halted m', _) => (.finished, m', acc)
    | (.faulted f m', _) => (.fault f, m', acc)
    | (.stepped row m', k') => runFor p watch fuel (watch acc row) k' m'

@[simp] theorem codeOf_nil : codeOf [] = [] := rfl

@[simp] theorem codeOf_run (b : Block) (k : List Frame) : codeOf (.run b :: k) = b.code ++ codeOf k :=
  rfl

@[simp] theorem codeOf_close (o c : Lexeme) (body : Block) (k : List Frame) :
    codeOf (.close o c body :: k) = c :: codeOf k := rfl

/-! ## The simulation -/

section Simulation

variable {cs : List Char} {limits : Limits} {p : Program}

/-- Frames that the text `cs` holds: their blocks are well formed, and the test at a closing
bracket knows the place after the opening bracket, the code read from there, and that the
program's map pairs the two brackets. -/
inductive Frames (cs : List Char) (p : Program) : List Frame → Prop
  | nil : Frames cs p []
  | run {b : Block} {k : List Frame} (hb : b.WF) (hk : Frames cs p k) : Frames cs p (.run b :: k)
  | close {o c : Lexeme} {body : Block} {k : List Frame} (hc : c.kind = .op ']') (hb : body.WF)
      (hbd : Boundary cs (o.start + 1) false)
      (hcode : code (lexFrom cs (o.start + 1) false) = body.code ++ c :: codeOf k)
      (hpart : p.brackets.partner c.start = some o.start) (hk : Frames cs p k) :
      Frames cs p (.close o c body :: k)

theorem Frames.run_inv {b : Block} {k : List Frame} (h : Frames cs p (.run b :: k)) :
    b.WF ∧ Frames cs p k := by
  cases h with
  | run hb hk => exact ⟨hb, hk⟩

/-- The flat machine `m` and the structured run at frames `k` with machine `mr` stand at the same
point of a run of the text `cs`: `m` is at a boundary of the lexer outside comments, the code read
from there is the code the frames have left, and the two machines agree. -/
structure Sim (cs : List Char) (p : Program) (k : List Frame) (m mr : Machine) : Prop where
  boundary : Boundary cs m.ip false
  inComment : m.inComment = false
  code : code (lexFrom cs m.ip false) = codeOf k
  frames : Frames cs p k
  agree : m.Agree mr

/-- A step of the flat run and one of the structured run that end alike: both halt, or both fault
with the same fault, at machines that agree; or both run with the same row, and stay in step. -/
inductive StepAgree (cs : List Char) (p : Program) : Step → Step × List Frame → Prop
  | halted {m mr : Machine} {k : List Frame} (h : m.Agree mr) :
      StepAgree cs p (.halted m) (.halted mr, k)
  | faulted {f : Fault} {m mr : Machine} {k : List Frame} (h : m.Agree mr) :
      StepAgree cs p (.faulted f m) (.faulted f mr, k)
  | stepped {row : Row} {m mr : Machine} {k : List Frame} (h : Sim cs p k m mr) :
      StepAgree cs p (.stepped row m) (.stepped row mr, k)

/-- With code left, the flat run seeks to its first lexeme and dispatches it there. -/
theorem Sim.step_eq (hp : Program.Checked cs limits p) {k : List Frame} {m mr : Machine}
    (hs : Sim cs p k m mr) {x : Lexeme} {xs : List Lexeme} (h : codeOf k = x :: xs) :
    Machine.step p {} m = Machine.dispatch p x.instr { m with ip := x.start, inComment := false } ∧
      Boundary cs x.start false ∧ readAt cs x.start false = some (x, false) ∧
      Lexeme.code (lexFrom cs (x.start + x.len) false) = xs := by
  rcases @seek_lexFrom cs m.ip false with ⟨hnil, -⟩ | ⟨y, hseek, hy, hw, hr, hcode⟩
  · rw [hs.code, h] at hnil
    cases hnil
  rw [hs.code, h, List.cons.injEq] at hcode
  obtain ⟨rfl, rfl⟩ := hcode
  have hseek' : Machine.seekFrom p m = { m with ip := x.start, inComment := false } := by
    simp only [Machine.seekFrom, hp.chars, hs.inComment, hseek]
  have hget : cs[x.start]? = some x.instr := readAt_instr hr hy
  have hlt : (Machine.seekFrom p m).ip < p.chars.size := by
    rw [hseek', hp.chars, List.size_toArray]
    exact (List.getElem?_eq_some_iff.1 hget).1
  refine ⟨?_, hs.boundary.trans hw, hr, rfl⟩
  rw [Machine.step_of_check_none rfl hlt]
  simp only [hseek', hp.chars, List.getElem_toArray]
  rw [(List.getElem?_eq_some_iff.1 hget).2]

/-- With no code left, the flat run halts where seeking reaches the end. -/
theorem Sim.step_end (hp : Program.Checked cs limits p) {k : List Frame} {m mr : Machine}
    (hs : Sim cs p k m mr) (h : codeOf k = []) :
    Machine.step p {} m = .halted (Machine.seekFrom p m) := by
  rcases @seek_lexFrom cs m.ip false with ⟨-, hle⟩ | ⟨y, -, -, -, -, hcode⟩
  · apply Machine.step_of_end
    simpa only [Machine.seekFrom, hp.chars, hs.inComment, List.size_toArray] using hle
  · rw [hs.code, h] at hcode
    cases hcode

/-- An atomic step is the same dispatch in both runs. -/
theorem stepAgree_atom (hp : Program.Checked cs limits p) {x : Lexeme} {rest : Block}
    {k : List Frame} {m mr : Machine} (hs : Sim cs p (.run (.atom x rest) :: k) m mr) :
    StepAgree cs p (Machine.step p {} m) (step p (.run (.atom x rest) :: k) mr) := by
  obtain ⟨hwf, hk⟩ := hs.frames.run_inv
  cases hwf with
  | atom hx hrest =>
  have hcode₀ : codeOf (.run (.atom x rest) :: k) = x :: (rest.code ++ codeOf k) := rfl
  obtain ⟨hstep, hb, hr, hcode⟩ := hs.step_eq hp hcode₀
  rw [hstep, hs.agree.at_eq]
  simp only [step]
  cases hd : Machine.dispatch p x.instr { mr with ip := x.start, inComment := false } with
  | halted m' => exact absurd hd Machine.dispatch_ne_halted
  | faulted f m' => exact .faulted (.refl m')
  | stepped row m' =>
    -- the step goes on right after the lexeme, where the code of the rest of the block starts
    obtain ⟨hip, hin⟩ := dispatch_atom hr hx hd
    refine .stepped ⟨?_, hin, ?_, .run hrest hk, .refl m'⟩
    · rw [hip]
      exact hb.advance hr
    · rw [hip, hcode]
      rfl

/-- At an opening bracket both runs test the cell: on zero both skip the loop; otherwise both
enter its body, and the structured run waits for the test at the closing bracket. -/
theorem stepAgree_loop (hp : Program.Checked cs limits p) {o c : Lexeme} {body rest : Block}
    {k : List Frame} {m mr : Machine} (hs : Sim cs p (.run (.loop o c body rest) :: k) m mr) :
    StepAgree cs p (Machine.step p {} m) (step p (.run (.loop o c body rest) :: k) mr) := by
  obtain ⟨hwf, hk⟩ := hs.frames.run_inv
  cases hwf with
  | loop ho hc hbody hrest =>
  have hcode : codeOf (.run (.loop o c body rest) :: k) =
      o :: (body.code ++ c :: (rest.code ++ codeOf k)) := by
    simp [Block.code]
  obtain ⟨hstep, -, -, -⟩ := hs.step_eq hp hcode
  obtain ⟨hpo, hpc, hbo, hco, hbc, hcc⟩ :=
    hp.loop_of_code hs.boundary (hs.code.trans hcode) ho hc hbody.balanced
  have hinstr : o.instr = '[' := by simp [Lexeme.instr, ho]
  rw [hstep, hs.agree.at_eq, hinstr]
  simp only [step]
  by_cases hz : mr.tape.read = 0
  · have hz' : ({ mr with ip := o.start, inComment := false } : Machine).tape.read = 0 := hz
    rw [Machine.dispatch_open_skip hz' hpo, if_pos hz]
    exact .stepped ⟨hbc, rfl, hcc, .run hrest hk, (Machine.Agree.refl mr).count _ _⟩
  · have hz' : ({ mr with ip := o.start, inComment := false } : Machine).tape.read ≠ 0 := hz
    have hclose : Frames cs p (.close o c body :: .run rest :: k) :=
      .close hc hbody hbo (by simpa using hco) hpc (.run hrest hk)
    rw [Machine.dispatch_open_enter hz', if_neg hz]
    exact .stepped ⟨hbo, rfl, by simpa using hco, .run hbody hclose,
      (Machine.Agree.refl mr).count _ _⟩

/-- At a closing bracket both runs test the cell: on zero both leave the loop; otherwise both go
back to the start of its body. -/
theorem stepAgree_close (hp : Program.Checked cs limits p) {o c : Lexeme} {body : Block}
    {k : List Frame} {m mr : Machine} (hs : Sim cs p (.close o c body :: k) m mr) :
    StepAgree cs p (Machine.step p {} m) (step p (.close o c body :: k) mr) := by
  have hframes := hs.frames
  cases hframes with
  | close hc hbody hbd hcode hpart hk =>
  obtain ⟨hstep, hb, hr, hrest⟩ := hs.step_eq hp (codeOf_close o c body k)
  have hinstr : c.instr = ']' := by simp [Lexeme.instr, hc]
  rw [hstep, hs.agree.at_eq, hinstr]
  simp only [step]
  by_cases hz : mr.tape.read = 0
  · have hz' : ({ mr with ip := c.start, inComment := false } : Machine).tape.read = 0 := hz
    obtain ⟨-, -, hl⟩ := readAt_op_inv hr hc
    rw [Machine.dispatch_close_exit hz', if_neg (not_not.2 hz)]
    refine .stepped ⟨?_, rfl, ?_, hk, (Machine.Agree.refl mr).count _ _⟩
    · show Boundary cs (c.start + 1) false
      rw [← hl]
      exact hb.advance hr
    · show Lexeme.code (lexFrom cs (c.start + 1) false) = codeOf k
      rw [← hl, hrest]
  · have hz' : ({ mr with ip := c.start, inComment := false } : Machine).tape.read ≠ 0 := hz
    rw [Machine.dispatch_close_repeat hz' hpart, if_pos hz]
    exact .stepped ⟨hbd, rfl, by simpa using hcode, .run hbody hs.frames,
      (Machine.Agree.refl mr).count _ _⟩

/-- Each step of the flat run from a point of the simulation is matched by a step of the
structured run: they halt alike, fault alike, or run with the same row into the simulation
again. -/
theorem step_agree (hp : Program.Checked cs limits p) :
    ∀ {k : List Frame} {m mr : Machine}, Sim cs p k m mr →
      StepAgree cs p (Machine.step p {} m) (step p k mr)
  | [], m, mr, hs => by
    rw [hs.step_end hp rfl]
    exact .halted hs.agree
  | .run .done :: k, m, mr, hs => by
    have hs' : Sim cs p k m mr :=
      ⟨hs.boundary, hs.inComment, hs.code, hs.frames.run_inv.2, hs.agree⟩
    -- an empty block takes no step of its own
    have h := step_agree hp hs'
    exact h
  | .run (.atom _ _) :: _, _, _, hs => stepAgree_atom hp hs
  | .run (.loop _ _ _ _) :: _, _, _, hs => stepAgree_loop hp hs
  | .close _ _ _ :: _, _, _, hs => stepAgree_close hp hs

/-- Runs from a point of the simulation, on the same fuel, end alike: with the same outcome, the
same rows folded in, and machines that agree. -/
theorem runFor_agree (hp : Program.Checked cs limits p) {σ : Type} (watch : σ → Row → σ) :
    ∀ (n : Nat) (acc : σ) {k : List Frame} {m mr : Machine}, Sim cs p k m mr →
      (Machine.runFor p {} watch n acc m).1 = (runFor p watch n acc k mr).1 ∧
        (Machine.runFor p {} watch n acc m).2.2 = (runFor p watch n acc k mr).2.2 ∧
        (Machine.runFor p {} watch n acc m).2.1.Agree (runFor p watch n acc k mr).2.1
  | 0, _, _, _, _, hs => ⟨rfl, rfl, hs.agree⟩
  | n + 1, acc, k, m, mr, hs => by
    have h := step_agree hp hs
    rw [Machine.runFor, runFor]
    generalize Machine.step p {} m = s at h ⊢
    generalize step p k mr = t at h ⊢
    cases h with
    | halted h => exact ⟨rfl, rfl, h⟩
    | faulted h => exact ⟨rfl, rfl, h⟩
    | stepped h => exact runFor_agree hp watch n _ h

end Simulation

end Structured

/-! ## Trees of checked texts -/

/-- A text that passes the pre-scan and has no jumps is the text of a tree: its loops are
balanced, a label marker always has its label, and the rest of its code is atomic. -/
theorem Program.Checked.exists_parses {cs : List Char} {limits : Limits} {p : Program}
    (hp : Program.Checked cs limits p) (hj : ∀ x ∈ lex cs, ∀ l, x.kind ≠ .jump l) :
    ∃ b, Block.Parses cs b := by
  refine Block.exists_of_balanced hp.scannable.balanced.code fun x hx ho hc => ?_
  obtain ⟨hmem, hcx⟩ := List.mem_filter.1 hx
  unfold Block.IsAtom
  cases hk : x.kind with
  | op c => exact Or.inl ⟨c, rfl, fun h => ho (h ▸ hk), fun h => hc (h ▸ hk)⟩
  | labelDef l =>
    cases l with
    | none => exact absurd hk (hp.scannable.labelled x (getLast?_lex_of_unlabelled hmem (Or.inl hk))).1
    | some l => exact Or.inr (Or.inl ⟨l, rfl⟩)
  | jump l => exact absurd hk (hj x hmem l)
  | inert c => exact Or.inr (Or.inr ⟨c, rfl⟩)
  | commentDelimiter | comment => simp [isCode, hk] at hcx

/-- A text that passes the pre-scan and has no jumps is the text of a tree, and its flat run
from the start of the text agrees with the structured run of any of its trees, whatever the tape,
input, output and end-of-input policy it starts with: on the same fuel, both end the same way
(both still running, both finished, or both with the same fault at the same place), with the same
rows, tape, input, output and step count. -/
theorem structured_run_agrees {cs : List Char} {limits : Limits} {p : Program}
    (hp : Program.check cs limits = .ok p) (hj : ∀ x ∈ lex cs, ∀ l, x.kind ≠ .jump l) :
    (∃ b, Block.Parses cs b) ∧
      ∀ b, Block.Parses cs b → ∀ {σ : Type} (watch : σ → Row → σ) (n : Nat) (acc : σ)
        (m : Machine), m.ip = 0 → m.inComment = false →
        (Machine.runFor p {} watch n acc m).1 = (Structured.runFor p watch n acc [.run b] m).1 ∧
        (Machine.runFor p {} watch n acc m).2.2 =
          (Structured.runFor p watch n acc [.run b] m).2.2 ∧
        (Machine.runFor p {} watch n acc m).2.1.Agree
          (Structured.runFor p watch n acc [.run b] m).2.1 := by
  have hc := Program.Checked.of_check hp
  refine ⟨hc.exists_parses hj, fun b ⟨hb, hcode⟩ σ watch n acc m hip hin => ?_⟩
  have hs : Structured.Sim cs p [.run b] m m := by
    refine ⟨?_, hin, ?_, .run hb .nil, .refl m⟩
    · rw [hip]
      exact Boundary.start
    · rw [hip, ← lex_eq_lexFrom, ← hcode]
      simp
  exact Structured.runFor_agree hc watch n acc hs

theorem countdown_runs_structured :
    ∃ p, Program.check ['+', '[', '-', ']'] {} = .ok p ∧
      (∀ x ∈ lex ['+', '[', '-', ']'], ∀ l, x.kind ≠ .jump l) ∧
      (∃ b, Block.Parses ['+', '[', '-', ']'] b) ∧
      ∀ b, Block.Parses ['+', '[', '-', ']'] b → ∀ {σ : Type} (watch : σ → Row → σ) (n : Nat)
        (acc : σ) (m : Machine), m.ip = 0 → m.inComment = false →
        (Machine.runFor p {} watch n acc m).1 = (Structured.runFor p watch n acc [.run b] m).1 ∧
        (Machine.runFor p {} watch n acc m).2.2 =
          (Structured.runFor p watch n acc [.run b] m).2.2 ∧
        (Machine.runFor p {} watch n acc m).2.1.Agree
          (Structured.runFor p watch n acc [.run b] m).2.1 := by
  have hj : ∀ x ∈ lex ['+', '[', '-', ']'], ∀ l, x.kind ≠ .jump l := by
    simp [lex_countdown]
  exact ⟨_, check_countdown, hj, structured_run_agrees check_countdown hj⟩

end GotoTape
