import GotoTape.BracketMap
/-!
# The bracket map under any sequence of calls

A bracket map is filled by opening and closing loops, checked by `finish` and read by `partner`.
Whatever calls are made on a new map, as long as the positions they name are distinct and inside
the map, it pairs brackets as loops pair. A close is refused as a stray closing bracket exactly
when no loop waits, and otherwise pairs its position with the loop opened most recently of those
still waiting. The partners are exactly the pairs made, in both directions, and there is no
partner anywhere else. `finish` reports the innermost waiting loop, or passes the map on unchanged.
The map counts one pair per close that paired.

The pairing is described without a stack (`pairings`): the loops that wait are the opened
positions that no close has taken yet, and each close takes the latest of them. That the map's
stack is exactly this list (`Holds.pending`) needs the positions to be distinct: a position opened
twice waits twice on the stack, but once in the list.

Main statement: `pairing_under_calls`.
-/

namespace GotoTape
namespace BracketMap

/-! ## Calls and what they did -/

/-- What one call did to a map. Reading a partner changes nothing, and a `finish` that fails
consumes the map, so neither leaves an event. -/
inductive Event where
  /-- A loop opened at `ip`. -/
  | opened (ip : Nat)
  /-- A close at `ip` that paired. -/
  | closed (ip : Nat)
  /-- A close at `ip` that was refused. -/
  | refused (ip : Nat)
  /-- A `finish` that passed. -/
  | finished
  deriving DecidableEq, Repr

namespace Event

/-- The position an event names. -/
def ip? : Event → Option Nat
  | opened ip => some ip
  | closed ip => some ip
  | refused ip => some ip
  | finished => none

/-- The position of an opened loop. -/
def opening? : Event → Option Nat
  | opened ip => some ip
  | closed _ => none
  | refused _ => none
  | finished => none

/-- The position of a close that paired. -/
def closing? : Event → Option Nat
  | opened _ => none
  | closed ip => some ip
  | refused _ => none
  | finished => none

/-- Whether the event is a close that paired. -/
def isClosed (e : Event) : Bool := e.closing?.isSome

end Event

/-- The positions the calls named, the latest first. -/
def positions (evs : List Event) : List Nat := evs.filterMap Event.ip?

/-- The positions loops were opened at, the latest first. -/
def openings (evs : List Event) : List Nat := evs.filterMap Event.opening?

/-- The positions of the closes that paired, the latest first. -/
def closings (evs : List Event) : List Nat := evs.filterMap Event.closing?

/-- The pairs `(open, close)` that the calls made, the latest first: a close that paired took
the most recently opened position that no earlier close had taken. -/
def pairings : List Event → List (Nat × Nat)
  | [] => []
  | .opened _ :: evs => pairings evs
  | .closed c :: evs =>
    (((openings evs).filter (· ∉ (pairings evs).map Prod.fst)).head?.map (·, c)).toList ++
      pairings evs
  | .refused _ :: evs => pairings evs
  | .finished :: evs => pairings evs

/-- The opened positions that no close has taken, the most recent first. -/
def waiting (evs : List Event) : List Nat :=
  (openings evs).filter (· ∉ (pairings evs).map Prod.fst)

theorem pairings_closed (c : Nat) (evs : List Event) :
    pairings (.closed c :: evs) = ((waiting evs).head?.map (·, c)).toList ++ pairings evs := rfl

/-- `[[]]`: the inner loop is closed first. -/
example : pairings [.closed 3, .closed 2, .opened 1, .opened 0] = [(0, 3), (1, 2)] := by decide

/-- The maps that calls reach from a new map of `len` positions, with what each call did, the
latest first. A refused close keeps the map it was refused on. -/
inductive Calls (len : Nat) : BracketMap → List Event → Prop
  /-- A new map, before any call. -/
  | new : Calls len (withLen len) []
  /-- A loop opened. -/
  | openAt {m : BracketMap} {evs : List Event} {ip : Nat} :
      Calls len m evs → Calls len (m.openAt ip) (.opened ip :: evs)
  /-- A close that paired. -/
  | close {m m' : BracketMap} {evs : List Event} {ip : Nat} :
      Calls len m evs → m.close ip = .ok m' → Calls len m' (.closed ip :: evs)
  /-- A close that was refused leaves the map as it was. -/
  | refuse {m : BracketMap} {evs : List Event} {ip : Nat} {t : Trouble} :
      Calls len m evs → m.close ip = .error t → Calls len m (.refused ip :: evs)
  /-- A `finish` that passed goes on with the map it returned. -/
  | finish {m m' : BracketMap} {evs : List Event} :
      Calls len m evs → m.finish = .ok m' → Calls len m' (.finished :: evs)

/-- The positions that opens and closes name are distinct and inside a map of `len` positions,
as the pre-scan names each bracket by its own position, once. -/
structure Disciplined (len : Nat) (evs : List Event) : Prop where
  nodup : (positions evs).Nodup
  lt : ∀ ip ∈ positions evs, ip < len

/-- What a map reached by the calls `evs` answers to each further call. -/
structure Answers (len : Nat) (evs : List Event) (m : BracketMap) : Prop where
  /-- A close is refused as a stray closing bracket exactly when no loop waits. -/
  close_refused : ∀ ip, m.close ip = .error (.fault (.unbalanced ip .closing)) ↔ waiting evs = []
  /-- A close inside the map pairs with the most recently opened waiting loop, and no other
  position changes its partner. -/
  close_pairs : ∀ ip o, ip < len → (waiting evs).head? = some o →
    ∃ m', m.close ip = .ok m' ∧
      ∀ i, m'.partner i = if i = ip then some o else if i = o then some ip else m.partner i
  /-- The partners are the pairs made, in both directions. -/
  partner_iff : ∀ i j, m.partner i = some j ↔ (i, j) ∈ pairings evs ∨ (j, i) ∈ pairings evs
  /-- Partners are symmetric. -/
  symm : ∀ i j, m.partner i = some j ↔ m.partner j = some i
  /-- A position in no pair has no partner. -/
  unpaired : ∀ i, (∀ j, (i, j) ∉ pairings evs ∧ (j, i) ∉ pairings evs) → m.partner i = none
  /-- Nor has a position past the end of the map. -/
  beyond : ∀ i, len ≤ i → m.partner i = none
  /-- `finish` reports an unclosed loop exactly at the most recently opened waiting one. -/
  finish_refused : ∀ o, m.finish = .error (.unbalanced o .opening) ↔ (waiting evs).head? = some o
  /-- `finish` passes, with the map unchanged, exactly when no loop waits. -/
  finish_passes : m.finish = .ok m ↔ waiting evs = []
  /-- The map counts one pair per close that paired. -/
  pairs_eq : m.pairs = evs.countP Event.isClosed

/-! ## The history -/

section History

variable {evs : List Event}

theorem positions_cons (e : Event) (evs : List Event) :
    positions (e :: evs) = e.ip?.toList ++ positions evs := by
  cases e <;> rfl

theorem openings_cons (e : Event) (evs : List Event) :
    openings (e :: evs) = e.opening?.toList ++ openings evs := by
  cases e <;> rfl

theorem closings_cons (e : Event) (evs : List Event) :
    closings (e :: evs) = e.closing?.toList ++ closings evs := by
  cases e <;> rfl

theorem positions_sublist_cons (e : Event) (evs : List Event) :
    (positions evs).Sublist (positions (e :: evs)) := by
  rw [positions_cons]
  exact List.sublist_append_right _ _

theorem openings_sublist (evs : List Event) : (openings evs).Sublist (positions evs) := by
  induction evs with
  | nil => exact List.Sublist.slnil
  | cons e evs ih =>
    rw [openings_cons, positions_cons]
    cases e
    case opened ip => exact ih.cons_cons ip
    all_goals exact ih.trans (List.sublist_append_right _ _)

theorem closings_sublist (evs : List Event) : (closings evs).Sublist (positions evs) := by
  induction evs with
  | nil => exact List.Sublist.slnil
  | cons e evs ih =>
    rw [closings_cons, positions_cons]
    cases e
    case closed ip => exact ih.cons_cons ip
    all_goals exact ih.trans (List.sublist_append_right _ _)

theorem Disciplined.tail {len : Nat} {e : Event} (hd : Disciplined len (e :: evs)) :
    Disciplined len evs where
  nodup := hd.nodup.sublist (positions_sublist_cons e evs)
  lt ip hip := hd.lt ip ((positions_sublist_cons e evs).subset hip)

theorem Disciplined.fresh {len ip : Nat} {e : Event} (hd : Disciplined len (e :: evs))
    (he : e.ip? = some ip) : ip ∉ positions evs := by
  have := hd.nodup
  rw [positions_cons, he] at this
  exact (List.nodup_cons.1 this).1

/-- With distinct positions, no position is both opened and closed. -/
theorem not_mem_closings_of_mem_openings (hd : (positions evs).Nodup) {x : Nat}
    (hx : x ∈ openings evs) : x ∉ closings evs := by
  induction evs with
  | nil => simp [openings] at hx
  | cons e evs ih =>
    rw [positions_cons] at hd
    rw [openings_cons] at hx
    rw [closings_cons]
    have htail := (List.nodup_append.1 hd).2.1
    cases e with
    | opened ip =>
      have hip : ip ∉ positions evs := (List.nodup_cons.1 hd).1
      rcases List.mem_cons.1 hx with rfl | hx
      · exact fun hc => hip ((closings_sublist evs).subset hc)
      · exact ih htail hx
    | closed ip =>
      have hip : ip ∉ positions evs := (List.nodup_cons.1 hd).1
      simp only [Event.opening?, Option.toList_none, List.nil_append] at hx
      simp only [Event.closing?, Option.toList_some, List.singleton_append, List.mem_cons, not_or]
      exact ⟨fun h => hip (h ▸ (openings_sublist evs).subset hx), ih htail hx⟩
    | refused ip => exact ih htail hx
    | finished => exact ih htail hx

theorem countP_isClosed_cons_of_none (e : Event) (he : e.closing? = none) (evs : List Event) :
    (e :: evs).countP Event.isClosed = evs.countP Event.isClosed := by
  simp [Event.isClosed, he]

theorem mem_openings_of_mem_waiting {x : Nat} (hx : x ∈ waiting evs) : x ∈ openings evs :=
  (List.mem_filter.1 hx).1

theorem not_mem_fst_of_mem_waiting {x : Nat} (hx : x ∈ waiting evs) :
    x ∉ (pairings evs).map Prod.fst := by
  simpa using (List.mem_filter.1 hx).2

/-- A pair joins an opened position to the position of a close that paired. -/
theorem mem_pairings {p : Nat × Nat} (hp : p ∈ pairings evs) :
    p.1 ∈ openings evs ∧ p.2 ∈ closings evs := by
  induction evs with
  | nil => simp [pairings] at hp
  | cons e evs ih =>
    rw [openings_cons, closings_cons]
    cases e with
    | opened ip => exact ⟨List.mem_cons_of_mem ip (ih hp).1, (ih hp).2⟩
    | closed c =>
      rw [pairings_closed, List.mem_append] at hp
      simp only [Event.opening?, Event.closing?, Option.toList_none, Option.toList_some,
        List.nil_append, List.singleton_append, List.mem_cons]
      rcases hp with hnew | hold
      · -- the new pair is the latest waiting loop with `c`
        obtain ⟨o, ho, rfl⟩ := Option.map_eq_some_iff.1 (Option.mem_toList.1 hnew)
        exact ⟨mem_openings_of_mem_waiting (List.mem_of_mem_head? ho), Or.inl rfl⟩
      · exact ⟨(ih hold).1, Or.inr (ih hold).2⟩
    | refused ip => exact ih hp
    | finished => exact ih hp

/-- A position the calls never named is in no pair. -/
theorem not_mem_pairings_of_fresh {x : Nat} (hx : x ∉ positions evs) (j : Nat) :
    (x, j) ∉ pairings evs ∧ (j, x) ∉ pairings evs :=
  ⟨fun h => hx ((openings_sublist evs).subset (mem_pairings h).1),
    fun h => hx ((closings_sublist evs).subset (mem_pairings h).2)⟩

/-- A waiting loop is in no pair: no close took it, and it was opened, not closed. -/
theorem not_mem_pairings_of_waiting (hd : (positions evs).Nodup) {x : Nat}
    (hx : x ∈ waiting evs) (j : Nat) : (x, j) ∉ pairings evs ∧ (j, x) ∉ pairings evs :=
  ⟨fun h => not_mem_fst_of_mem_waiting hx (List.mem_map_of_mem (f := Prod.fst) h),
    fun h => not_mem_closings_of_mem_openings hd (mem_openings_of_mem_waiting hx)
      (mem_pairings h).2⟩

theorem nodup_waiting (hd : (positions evs).Nodup) : (waiting evs).Nodup :=
  (hd.sublist (openings_sublist evs)).filter _

theorem waiting_opened {ip : Nat} (hip : ip ∉ positions evs) :
    waiting (.opened ip :: evs) = ip :: waiting evs := by
  have hfst : ip ∉ (pairings evs).map Prod.fst := by
    rw [List.mem_map]
    rintro ⟨p, hp, rfl⟩
    exact (not_mem_pairings_of_fresh hip p.2).1 hp
  show (ip :: openings evs).filter (· ∉ (pairings evs).map Prod.fst) = ip :: waiting evs
  rw [List.filter_cons_of_pos (by simpa using hfst)]
  rfl

/-- A close that paired takes the most recent waiting loop. -/
theorem pairings_closed_of_waiting {o c : Nat} {rest : List Nat} (hw : waiting evs = o :: rest) :
    pairings (.closed c :: evs) = (o, c) :: pairings evs := by
  rw [pairings_closed, hw]
  rfl

/-- A close that paired takes the most recent waiting loop off the list. -/
theorem waiting_closed (hd : (positions evs).Nodup) {o c : Nat} {rest : List Nat}
    (hw : waiting evs = o :: rest) : waiting (.closed c :: evs) = rest := by
  have hsplit : waiting (.closed c :: evs) = (waiting evs).filter (· ≠ o) := by
    show (openings evs).filter _ = _
    rw [pairings_closed_of_waiting hw, waiting, List.filter_filter]
    refine List.filter_congr fun x _ => ?_
    by_cases hx : x = o <;> simp [hx]
  have hnd : (o :: rest).Nodup := hw ▸ nodup_waiting hd
  rw [hsplit, hw, List.filter_cons_of_neg (by simp), List.filter_eq_self]
  intro x hx
  have hxo : x ≠ o := fun h => (List.nodup_cons.1 hnd).1 (h ▸ hx)
  simpa using hxo

end History

/-! ## The operations -/

section Operations

variable {m m' : BracketMap} {ip o : Nat}

theorem partner_eq_join (m : BracketMap) (i : Nat) : m.partner i = m.partners.toList[i]?.join := by
  rw [partner, Array.getElem?_toList]

theorem partner_eq_none_of_len_le {i : Nat} (hi : m.len ≤ i) : m.partner i = none := by
  rw [partner, Array.getElem?_eq_none hi]
  rfl

theorem close_eq_fault_iff :
    m.close ip = .error (.fault (.unbalanced ip .closing)) ↔ m.pending = [] := by
  cases hp : m.pending with
  | nil => simp [close, hp]
  | cons o rest =>
    simp only [close, hp, reduceCtorEq, iff_false]
    by_cases ho : o < m.partners.size
    · by_cases hi : ip < m.partners.size <;> simp [ho, hi]
    · simp [ho]

/-- A close pairs exactly when a loop waits and both positions lie inside the map: the map then
records the pair both ways and drops the loop from its stack. -/
theorem close_eq_ok_iff :
    m.close ip = .ok m' ↔ ∃ o, m.pending = o :: m'.pending ∧ o < m.len ∧ ip < m.len ∧
      m'.partners.toList = (m.partners.toList.set o (some ip)).set ip (some o) := by
  cases hp : m.pending with
  | nil => simp [close, hp]
  | cons o rest =>
    by_cases ho : o < m.partners.size
    · by_cases hi : ip < m.partners.size
      · have hclose : m.close ip = .ok ⟨(m.partners.set o (some ip) ho).set ip (some o)
            (by simpa using hi), rest⟩ := by
          simp [close, hp, ho, hi]
        rw [hclose, Except.ok.injEq]
        constructor
        · rintro rfl
          exact ⟨o, rfl, ho, hi, by simp [Array.toList_set]⟩
        · rintro ⟨o', ho', -, -, hl⟩
          obtain ⟨rfl, hrest⟩ := List.cons.inj ho'
          cases m' with
          | mk partners pending =>
            simp only at hrest hl
            rw [hrest]
            congr 1
            apply Array.toList_inj.1
            rw [hl, Array.toList_set, Array.toList_set]
      · simp [close, hp, ho, hi, len]
    · simp [close, hp, ho, len]

theorem exists_close_eq_ok {rest : List Nat} (hp : m.pending = o :: rest) (ho : o < m.len)
    (hi : ip < m.len) : ∃ m', m.close ip = .ok m' :=
  ⟨⟨⟨(m.partners.toList.set o (some ip)).set ip (some o)⟩, rest⟩,
    close_eq_ok_iff.2 ⟨o, hp, ho, hi, rfl⟩⟩

/-- A close that paired wrote the loop at the top of the stack and its own position. -/
theorem partners_close (h : m.close ip = .ok m') (hp : m.pending.head? = some o) :
    o < m.len ∧ ip < m.len ∧
      m'.partners.toList = (m.partners.toList.set o (some ip)).set ip (some o) := by
  obtain ⟨o', hp', ho, hi, hl⟩ := close_eq_ok_iff.1 h
  obtain rfl : o' = o := by simpa [hp'] using hp
  exact ⟨ho, hi, hl⟩

/-- After a close that paired, its position and the loop's have each other as partners, and
every other position keeps its partner. -/
theorem partner_close (h : m.close ip = .ok m') (hp : m.pending.head? = some o) (i : Nat) :
    m'.partner i = if i = ip then some o else if i = o then some ip else m.partner i := by
  obtain ⟨ho, hi, hl⟩ := partners_close h hp
  simp only [len] at ho hi
  rw [partner_eq_join, partner_eq_join, hl, List.getElem?_set, List.getElem?_set]
  by_cases hip : ip = i
  · subst hip
    simp [hi]
  · by_cases hoi : o = i
    · subst hoi
      simp [hip, Ne.symm hip, ho]
    · simp [hip, hoi, Ne.symm hip, Ne.symm hoi]

theorem len_close (h : m.close ip = .ok m') : m'.len = m.len := by
  obtain ⟨o, -, -, -, hl⟩ := close_eq_ok_iff.1 h
  rw [len, len, ← Array.length_toList, ← Array.length_toList, hl, List.length_set,
    List.length_set]

/-- A close that pairs two distinct positions without partners adds two paired positions. -/
theorem countP_close (h : m.close ip = .ok m') (hp : m.pending.head? = some o) (hne : o ≠ ip)
    (hoff : m.partner o = none) (hioff : m.partner ip = none) :
    m'.partners.toList.countP Option.isSome = m.partners.toList.countP Option.isSome + 2 := by
  obtain ⟨ho, hi, hl⟩ := partners_close h hp
  have ho : o < m.partners.toList.length := by simpa [len] using ho
  have hi : ip < m.partners.toList.length := by simpa [len] using hi
  -- a position without partner holds `none` in the list
  have hnone : ∀ k (hk : k < m.partners.toList.length), m.partner k = none →
      m.partners.toList[k] = none := by
    intro k hk hkn
    rw [partner_eq_join, List.getElem?_eq_getElem hk] at hkn
    simpa using hkn
  have hi' : ip < (m.partners.toList.set o (some ip)).length := by simpa using hi
  have hset : (m.partners.toList.set o (some ip))[ip] = none := by
    rw [List.getElem_set_ne hne]
    exact hnone ip hi hioff
  rw [hl, List.countP_set hi', List.countP_set ho, hnone o ho hoff, hset]
  simp

theorem finish_eq_ok_iff : m.finish = .ok m' ↔ m.pending = [] ∧ m' = m := by
  cases hp : m.pending with
  | nil => simp [finish, hp, eq_comm]
  | cons o rest => simp [finish, hp]

theorem finish_eq_unbalanced_iff :
    m.finish = .error (.unbalanced o .opening) ↔ m.pending.head? = some o := by
  cases hp : m.pending with
  | nil => simp [finish, hp]
  | cons o' rest => simp [finish, hp, eq_comm]

end Operations

/-! ## What the calls keep -/

/-- What a map holds after the calls `evs`: its length, the waiting loops on its stack, the
pairs made as its partners, and two paired positions per close that paired. -/
structure Holds (len : Nat) (evs : List Event) (m : BracketMap) : Prop where
  len : m.len = len
  pending : m.pending = waiting evs
  partner : ∀ i j, m.partner i = some j ↔ (i, j) ∈ pairings evs ∨ (j, i) ∈ pairings evs
  count : m.partners.toList.countP Option.isSome = 2 * evs.countP Event.isClosed

namespace Holds

variable {len : Nat} {evs : List Event} {m m' : BracketMap}

theorem new (len : Nat) : Holds len [] (withLen len) where
  len := Array.size_replicate
  pending := rfl
  partner i j := by
    rw [BracketMap.partner, withLen, Array.getElem?_replicate]
    split <;> simp [pairings]
  count := by simp [withLen]

theorem partner_eq_none (hr : Holds len evs m) {x : Nat}
    (hx : ∀ j, (x, j) ∉ pairings evs ∧ (j, x) ∉ pairings evs) : m.partner x = none := by
  refine Option.eq_none_iff_forall_ne_some.2 fun j hj => ?_
  rcases (hr.partner x j).1 hj with h | h
  · exact (hx j).1 h
  · exact (hx j).2 h

theorem openAt (hr : Holds len evs m) {ip : Nat} (hd : Disciplined len (.opened ip :: evs)) :
    Holds len (.opened ip :: evs) (m.openAt ip) where
  len := hr.len
  pending := by
    rw [waiting_opened (hd.fresh rfl), ← hr.pending]
    rfl
  partner := hr.partner
  count := (countP_isClosed_cons_of_none (.opened ip) rfl evs).symm ▸ hr.count

theorem close (hr : Holds len evs m) {c : Nat} (hd : Disciplined len (.closed c :: evs))
    (h : m.close c = .ok m') : Holds len (.closed c :: evs) m' := by
  obtain ⟨o, hp, -, -, -⟩ := close_eq_ok_iff.1 h
  have hnd := hd.tail.nodup
  have hc : c ∉ positions evs := hd.fresh rfl
  have hw : waiting evs = o :: m'.pending := hr.pending ▸ hp
  have how : o ∈ waiting evs := by simp [hw]
  have hne : o ≠ c := fun he => hc (he ▸ (openings_sublist evs).subset
    (mem_openings_of_mem_waiting how))
  have hhead : m.pending.head? = some o := by simp [hp]
  have hfree_o := not_mem_pairings_of_waiting hnd how
  have hfree_c := not_mem_pairings_of_fresh hc
  refine ⟨(len_close h).trans hr.len, (waiting_closed hnd hw).symm, fun i j => ?_, ?_⟩
  · -- the new pair is `(o, c)`; any other position keeps the pairs it had
    rw [partner_close h hhead, pairings_closed_of_waiting hw]
    by_cases hic : i = c
    · subst hic
      simp [Ne.symm hne, (hfree_c j).1, (hfree_c j).2]
      exact eq_comm
    · by_cases hio : i = o
      · subst hio
        simp [hic, (hfree_o j).1, (hfree_o j).2]
        exact eq_comm
      · simp [hic, hio, hr.partner]
  · have hclosed : (Event.closed c).isClosed = true := rfl
    rw [countP_close h hhead hne (hr.partner_eq_none hfree_o) (hr.partner_eq_none hfree_c),
      hr.count, List.countP_cons, if_pos hclosed]
    omega

theorem refuse (hr : Holds len evs m) {c : Nat} : Holds len (.refused c :: evs) m where
  len := hr.len
  pending := hr.pending
  partner := hr.partner
  count := (countP_isClosed_cons_of_none (.refused c) rfl evs).symm ▸ hr.count

theorem finish (hr : Holds len evs m) (h : m.finish = .ok m') : Holds len (.finished :: evs) m' := by
  obtain ⟨-, rfl⟩ := finish_eq_ok_iff.1 h
  exact ⟨hr.len, hr.pending, hr.partner,
    (countP_isClosed_cons_of_none .finished rfl evs).symm ▸ hr.count⟩

/-- Every answer of a map follows from what it holds. -/
theorem answers (hr : Holds len evs m) (hd : Disciplined len evs) : Answers len evs m where
  close_refused ip := close_eq_fault_iff.trans (by rw [hr.pending])
  close_pairs ip o hi ho := by
    obtain ⟨rest, hw⟩ := List.head?_eq_some_iff.1 ho
    have hlt : o < len := hd.lt o ((openings_sublist evs).subset
      (mem_openings_of_mem_waiting (by simp [hw])))
    obtain ⟨m', hm'⟩ := exists_close_eq_ok (hr.pending.trans hw) (hr.len ▸ hlt) (hr.len ▸ hi)
    exact ⟨m', hm', partner_close hm' (by rw [hr.pending, ho])⟩
  partner_iff := hr.partner
  symm i j := by rw [hr.partner, hr.partner, or_comm]
  unpaired _ hx := hr.partner_eq_none hx
  beyond _ hi := partner_eq_none_of_len_le (hr.len ▸ hi)
  finish_refused o := finish_eq_unbalanced_iff.trans (by rw [hr.pending])
  finish_passes := finish_eq_ok_iff.trans (by rw [hr.pending]; simp)
  pairs_eq := by
    rw [pairs, hr.count]
    omega

end Holds

/-- The calls keep what `Holds` says, one call at a time. -/
theorem Calls.holds {len : Nat} {m : BracketMap} {evs : List Event} (h : Calls len m evs)
    (hd : Disciplined len evs) : Holds len evs m := by
  induction h with
  | new => exact Holds.new len
  | openAt _ ih => exact (ih hd.tail).openAt hd
  | close _ hc ih => exact (ih hd.tail).close hd hc
  | refuse _ _ ih => exact (ih hd.tail).refuse
  | finish _ hf ih => exact (ih hd.tail).finish hf

/-- After any calls on a new map that name distinct positions inside it, a close is refused as a
stray closing bracket exactly when no loop waits, and otherwise pairs with the most recently
opened waiting loop; the partners are exactly the pairs made, symmetric, and none elsewhere or past
the end; `finish` reports the innermost waiting loop, or passes the map unchanged when none
waits; and the map counts one pair per close that paired. -/
theorem pairing_under_calls {len : Nat} {m : BracketMap} {evs : List Event}
    (h : Calls len m evs) (hd : Disciplined len evs) : Answers len evs m :=
  (h.holds hd).answers hd

/-- Two nested loops over five positions, closed inner first, then a stray close and a `finish`
that passes. -/
theorem nested_loops_then_stray_close :
    Calls 5 ⟨#[some 3, some 2, some 1, some 0, none], []⟩
        [.finished, .refused 4, .closed 3, .closed 2, .opened 1, .opened 0] ∧
      Disciplined 5 [.finished, .refused 4, .closed 3, .closed 2, .opened 1, .opened 0] ∧
      Answers 5 [.finished, .refused 4, .closed 3, .closed 2, .opened 1, .opened 0]
        ⟨#[some 3, some 2, some 1, some 0, none], []⟩ := by
  have h : Calls 5 ⟨#[some 3, some 2, some 1, some 0, none], []⟩
      [.finished, .refused 4, .closed 3, .closed 2, .opened 1, .opened 0] :=
    .finish (.refuse (.close (.close (.openAt (.openAt .new)) rfl) rfl) rfl) rfl
  have hd : Disciplined 5 [.finished, .refused 4, .closed 3, .closed 2, .opened 1, .opened 0] :=
    ⟨by decide, by decide⟩
  exact ⟨h, hd, pairing_under_calls h hd⟩

end BracketMap
end GotoTape
