import GotoTape.Pattern.Expr
import GotoTape.Pattern.Utf8Ranges
/-!
# The size of a compiled pattern

A pattern is run by automata over the bytes of the text: one that reads forwards and one that
reads backwards, and a pattern is refused when either takes more memory than the limit. This
module builds both, as far as their size goes: it counts their states and the bytes the states
hold, without keeping the states themselves.

Every state takes `stateBytes`. A branching state holds `edgeBytes` more for each of its byte
ranges, and a choice state `alternativeBytes` more for each of its alternatives. Pieces are
built one after the other and joined: joining a piece that ends in a choice state gives that
state one more alternative.

The forward automaton starts with a lazy loop over any byte, unless every match starts at the
start of the text, then wraps the pattern in the states of the group that records the whole
match, and ends in a matching state. The backward one reads the pattern in reverse, without
group states, and its loop is left out when every match ends at the end of the text.

Character sets beyond ASCII are compiled from their sequences of byte ranges. Forwards the
sequences go into a trie whose finished nodes are shared when equal, looked up in a table of
`nodeSlots` slots where a later node takes the slot of an earlier one with the same hash.
Backwards each sequence becomes a chain read from its last byte, and chains share their tails,
looked up in a table of `tailSlots` slots the same way. Both tables forget everything at the
next set. A choice among two or more texts is compiled as a trie of their bytes.
-/

namespace GotoTape
namespace Pattern

/-- The bytes every state takes. -/
def stateBytes : Nat := 32

/-- The bytes a branching state holds for each of its byte ranges. -/
def edgeBytes : Nat := 8

/-- The bytes a choice state holds for each of its alternatives. -/
def alternativeBytes : Nat := 4

/-- The number of slots of the table of finished trie nodes. -/
def nodeSlots : Nat := 10000

/-- The number of slots of the table of shared tails. -/
def tailSlots : Nat := 1000

/-- A transition on a range of bytes to a state. -/
structure Edge where
  lo : Nat
  hi : Nat
  next : Nat
  deriving DecidableEq

/-- A slot of the table of finished trie nodes: the set it was filled for, the node, and the
state the node became. -/
structure NodeEntry where
  round : Nat
  key : Array Edge
  state : Nat

/-- A slot of the table of shared tails: the set it was filled for, the tail as the state it
leads to and its first byte range, and the state it became. -/
structure TailEntry where
  round : Nat
  key : Nat × Nat × Nat
  state : Nat

/-- An automaton under construction, as far as its size goes: the number of its states, the
bytes they hold beyond their own, and the two tables with the number of the set each is
filled for. -/
structure Build where
  limit : Nat
  states : Nat
  held : Nat
  nodeRound : Nat
  nodes : Array NodeEntry
  tailRound : Nat
  tails : Array TailEntry

/-- The empty automaton under a limit; the tables hold entries of no set. -/
def Build.start (limit : Nat) : Build :=
  { limit := limit, states := 0, held := 0,
    nodeRound := 0, nodes := Array.replicate nodeSlots ⟨0, #[], 0⟩,
    tailRound := 0, tails := Array.replicate tailSlots ⟨0, (0, 0, 0), 0⟩ }

/-- The memory of an automaton. -/
def Build.bytes (b : Build) : Nat := stateBytes * b.states + b.held

/-- A step of the construction: it gives a value and the grown automaton, or nothing once the
automaton takes more than the limit. -/
abbrev Grow (α : Type) := StateT Build Option α

/-- The automaton with `extra` more bytes held, if it stays within the limit. -/
def Build.hold (b : Build) (extra : Nat) : Option Build :=
  let b := { b with held := b.held + extra }
  if b.limit < b.bytes then none else some b

/-- Adds `count` states holding `extra` bytes between them. -/
def addStates (count extra : Nat) : Grow Unit := fun b =>
  let b := { b with states := b.states + count, held := b.held + extra }
  if b.limit < b.bytes then none else some ((), b)

/-- Adds a state holding `extra` bytes beyond its own, and gives its number. -/
def addState (extra : Nat) : Grow Nat := fun b =>
  let n := b.states
  let b := { b with states := n + 1, held := b.held + extra }
  if b.limit < b.bytes then none else some (n, b)

/-- Gives a choice state one more alternative. -/
def addAlternative : Grow Unit := fun b =>
  (b.hold alternativeBytes).map fun b => ((), b)

/-- A compiled piece, as far as joining it onward goes. -/
structure Piece where
  /-- Whether the piece ends in a choice state, which gains an alternative when the piece is
  joined to what follows. -/
  endsInChoice : Bool

/-- A piece that ends in a state of its own that is not a choice. -/
def Piece.plain : Piece := ⟨false⟩

/-- Joins a piece to what follows it. -/
def joinAfter (p : Piece) : Grow Unit := if p.endsInChoice then addAlternative else pure ()

/-- A piece of one state that reads nothing: the empty expression, a test of the position, or
a state that never matches. -/
def oneState : Grow Piece := do
  let _ ← addState 0
  return .plain

/-- The first step of the FNV-1a hash. -/
def fnvOffset : UInt64 := 14695981039346656037

/-- Mixes a number into an FNV-1a hash. -/
def fnvMix (h : UInt64) (x : Nat) : UInt64 := (h ^^^ x.toUInt64) * 1099511628211

/-- The slot of a finished trie node. -/
def nodeSlot (node : Array Edge) : Nat :=
  (node.foldl (fun h e => fnvMix (fnvMix (fnvMix h e.lo) e.hi) e.next) fnvOffset).toNat %
    nodeSlots

/-- The slot of a tail. -/
def tailSlot (key : Nat × Nat × Nat) : Nat :=
  (fnvMix (fnvMix (fnvMix fnvOffset key.1) key.2.1) key.2.2).toNat % tailSlots

/-- The state of a finished node equal to `node` made for the current set, if its slot still
holds it. -/
def findNode (node : Array Edge) (slot : Nat) : Grow (Option Nat) := fun b =>
  match b.nodes[slot]? with
  | some e => some (if e.round == b.nodeRound && e.key == node then some e.state else none, b)
  | none => some (none, b)

/-- Records that `node` became `state`. -/
def storeNode (slot : Nat) (node : Array Edge) (state : Nat) : Grow Unit := fun b =>
  some ((), { b with nodes := b.nodes.set! slot ⟨b.nodeRound, node, state⟩ })

/-- The state of a tail made for the current set, if its slot still holds it. -/
def findTail (key : Nat × Nat × Nat) (slot : Nat) : Grow (Option Nat) := fun b =>
  match b.tails[slot]? with
  | some e => some (if e.round == b.tailRound && e.key == key then some e.state else none, b)
  | none => some (none, b)

/-- Records that a tail became `state`. -/
def storeTail (slot : Nat) (key : Nat × Nat × Nat) (state : Nat) : Grow Unit := fun b =>
  some ((), { b with tails := b.tails.set! slot ⟨b.tailRound, key, state⟩ })

/-- The state of a finished trie node: that of an equal node met before in this set, else a
new branching state. -/
def finishNode (node : Array Edge) : Grow Nat := do
  let slot := nodeSlot node
  match ← findNode node slot with
  | some s => return s
  | none =>
    let s ← addState (edgeBytes * node.size)
    storeNode slot node s
    return s

/-- A trie node still open: its finished transitions, and the range of the transition still
being followed. -/
structure OpenNode where
  edges : Array Edge
  last : Option (Nat × Nat)
  deriving Inhabited

/-- The transitions of an open node once its last one goes to `next`. -/
def OpenNode.close (n : OpenNode) (next : Nat) : Array Edge :=
  match n.last with
  | some (lo, hi) => n.edges.push ⟨lo, hi, next⟩
  | none => n.edges

/-- Finishes the open nodes above the first `keep + 1`, deepest first, each becoming the
target of the last transition of the node above it; the last transition of the node left on
top then goes to the last state finished, or to `next` when none was. `fuel` bounds the number
of nodes finished. -/
def closeFrom (keep : Nat) : Nat → Nat → Array OpenNode → Grow (Array OpenNode)
  | fuel + 1, next, stack =>
    match stack.back? with
    | some top =>
      if keep + 1 < stack.size then do
        let s ← finishNode (top.close next)
        closeFrom keep fuel s stack.pop
      else return stack.set! (stack.size - 1) ⟨top.close next, none⟩
    | none => return stack
  | 0, _, stack => return stack

/-- The number of leading open nodes whose last transition reads the same range as the
sequence does at that depth. -/
def sharedOpen : List OpenNode → List (Nat × Nat) → Nat
  | n :: ns, r :: rs => if n.last == some r then sharedOpen ns rs + 1 else 0
  | _, _ => 0

/-- Adds a byte sequence to the trie: the nodes past the part it shares with the last sequence
are finished, and the rest of it is opened. -/
def addSequence (target : Nat) (stack : Array OpenNode) (seq : List (Nat × Nat)) :
    Grow (Array OpenNode) := do
  let shared := sharedOpen stack.toList seq
  let stack ← closeFrom shared stack.size target stack
  match seq.drop shared with
  | [] => return stack
  | r :: rest =>
    let stack := stack.modify (stack.size - 1) fun n => { n with last := some r }
    return rest.foldl (fun st r => st.push ⟨#[], some r⟩) stack

/-- A set compiled forwards: an end state, then the trie of its byte sequences with equal
finished nodes shared. -/
def setForward (seqs : List (List (Nat × Nat))) : Grow Piece := do
  let target ← addState 0
  modify fun b => { b with nodeRound := b.nodeRound + 1 }
  let stack ← seqs.foldlM (addSequence target) #[⟨#[], none⟩]
  let stack ← closeFrom 0 stack.size target stack
  let _ ← finishNode ((stack[0]?.map (·.edges)).getD #[])
  return .plain

/-- One byte sequence compiled backwards from the state `finish`: a chain of states from its
last byte range to its first, where a tail already made for this set is taken over. Gives the
first state of the chain. -/
def tailChain (finish : Nat) (seq : List (Nat × Nat)) : Grow Nat :=
  seq.foldlM (fun next (lo, hi) => do
    let key := (next, lo, hi)
    let slot := tailSlot key
    match ← findTail key slot with
    | some s => return s
    | none =>
      let s ← addState 0
      storeTail slot key s
      return s) finish

/-- A set compiled backwards: a choice state and an end state, then one chain per byte
sequence, each an alternative of the choice. -/
def setBackward (seqs : List (List (Nat × Nat))) : Grow Piece := do
  modify fun b => { b with tailRound := b.tailRound + 1 }
  let _ ← addState 0
  let finish ← addState 0
  for seq in seqs do
    let _ ← tailChain finish seq
    addAlternative
  return .plain

/-- A set: one branching state with its ranges after an end state when all of it is ASCII,
else compiled from its byte sequences in the direction of reading. -/
def setPiece (backward : Bool) (s : CharSet) : Grow Piece :=
  if s.ranges.all (·.2 ≤ 0x7F) then do
    let _ ← addState 0
    let _ ← addState (edgeBytes * s.ranges.size)
    return .plain
  else
    let seqs := byteSequencesOf s.ranges.toList
    if backward then setBackward seqs else setForward seqs

/-- A node of the trie of the texts of a choice: its transitions by byte, sorted within each
chunk, and the chunks closed by a text that ends at the node. A text that ends at a node that
has transitions closes the chunk of the transitions so far, so that it is preferred to the
longer texts added after it. -/
structure TrieNode where
  edges : Array (Nat × Nat)
  chunks : Array (Nat × Nat)
  deriving Inhabited

/-- Where the transitions of the open chunk of a node start. -/
def TrieNode.openStart (n : TrieNode) : Nat := (n.chunks.back?.map (·.2)).getD 0

/-- The child of node `i` by byte `b`, added when it has none in its open chunk. -/
def trieStep (trie : Array TrieNode) (i b : Nat) : Array TrieNode × Nat :=
  let node := trie[i]?.getD default
  let start := node.openStart
  let active := node.edges.extract start node.edges.size
  match active.find? (·.1 == b) with
  | some (_, child) => (trie, child)
  | none =>
    let child := trie.size
    let pos := start + (active.filter (·.1 < b)).size
    let node := { node with edges := node.edges.insertIdxIfInBounds pos (b, child) }
    (trie.set! i node |>.push default, child)

/-- The trie with a text of bytes added. -/
def trieAdd (trie : Array TrieNode) (bytes : List Nat) : Array TrieNode :=
  let (trie, i) := bytes.foldl (fun (t, i) b => trieStep t i b) (trie, 0)
  let node := trie[i]?.getD default
  if node.edges.isEmpty && !node.chunks.isEmpty then trie
  else trie.set! i { node with chunks := node.chunks.push (node.openStart, node.edges.size) }

/-- The chunks of a node: the closed ones, then the open one. -/
def TrieNode.allChunks (n : TrieNode) : List (Nat × Nat) :=
  n.chunks.toList ++ [(n.openStart, n.edges.size)]

/-- Compiles trie node `i`. Each chunk becomes a state for its transitions, one that reads a
byte when it has one and a branching state when it has more, after the states of the children
that have transitions of their own; the children without go to the end state. The chunks are
the alternatives of a choice state, a chunk after the first with the end state before it, and
a node with one alternative is that alternative. `fuel` bounds the depth of the trie. -/
def trieCompile (trie : Array TrieNode) : Nat → Nat → Grow Unit
  | 0, _ => pure ()
  | fuel + 1, i => do
    let node := trie[i]?.getD default
    let mut alternatives := 0
    let mut first := true
    for (start, stop) in node.allChunks do
      if !first then alternatives := alternatives + 1
      first := false
      let edges := node.edges.extract start stop
      for (_, child) in edges.toList do
        if !((trie[child]?.getD default).edges.isEmpty) then trieCompile trie fuel child
      if edges.size == 1 then
        let _ ← addState 0
        alternatives := alternatives + 1
      else if 1 < edges.size then
        let _ ← addState (edgeBytes * edges.size)
        alternatives := alternatives + 1
    if alternatives != 1 then
      let _ ← addState (alternativeBytes * alternatives)

/-- A choice among texts compiled as the trie of their bytes, read backwards when the automaton
reads backwards. -/
def textChoice (backward : Bool) (texts : List (List Char)) : Grow Piece := do
  let _ ← addState 0
  let bytes := texts.map fun cs =>
    let bs := cs.flatMap fun c => utf8Encode c.toNat
    if backward then bs.reverse else bs
  let trie := bytes.foldl trieAdd #[default]
  trieCompile trie trie.size 0
  return .plain

/-- The texts of a list of expressions that are all text. -/
def allTexts : List Expr → Option (List (List Char))
  | [] => some []
  | .text cs :: rest => (allTexts rest).map (cs :: ·)
  | _ => none

/-- `count` more copies of a piece after the copy `last`, each joined to the one before. -/
def moreCopies (one : Grow Piece) : Nat → Piece → Build → Option (Piece × Build)
  | 0, last, b => some (last, b)
  | n + 1, last, b =>
    match one b with
    | none => none
    | some (p, b) =>
      match joinAfter last b with
      | none => none
      | some (_, b) => moreCopies one n p b

/-- Exactly `count` copies of a piece in a row; none at all is the empty piece. -/
def copies (one : Grow Piece) : Nat → Grow Piece
  | 0 => oneState
  | n + 1 => do
    let p ← one
    moreCopies one n p

/-- `count` optional copies after the piece `last`: each is the first alternative of a choice
state whose second goes to the shared end state. -/
def optionalCopies (one : Grow Piece) : Nat → Piece → Build → Option (Piece × Build)
  | 0, last, b => some (last, b)
  | n + 1, last, b =>
    match (do
      let _ ← addState 0
      let p ← one
      joinAfter last
      addAlternative
      addAlternative
      return p : Grow Piece) b with
    | none => none
    | some (p, b) => optionalCopies one n p b

/-- A piece at most once: a choice state between it and an end state. -/
def optionalPiece (one : Grow Piece) : Grow Piece := do
  let _ ← addState 0
  let p ← one
  let _ ← addState 0
  addAlternative
  addAlternative
  joinAfter p
  return .plain

/-- A piece at least `count` times. With no lower bound it is a choice state that loops back
through the piece when the piece cannot match the empty text, and otherwise one or more copies
made optional; with a bound, the copies with a choice state after the last that loops back
into it. -/
def atLeast (subMin : Option Nat) (one : Grow Piece) : Nat → Grow Piece
  | 0 =>
    if subMin.any (0 < ·) then do
      let _ ← addState 0
      let p ← one
      addAlternative
      joinAfter p
      return ⟨true⟩
    else do
      let p ← one
      let _ ← addState 0
      joinAfter p
      addAlternative
      let _ ← addState 0
      let _ ← addState 0
      addAlternative
      addAlternative
      addAlternative
      return .plain
  | 1 => do
    let p ← one
    let _ ← addState 0
    joinAfter p
    addAlternative
    return ⟨true⟩
  | n + 2 => do
    let p ← copies one (n + 1)
    let q ← one
    let _ ← addState 0
    joinAfter p
    joinAfter q
    addAlternative
    return ⟨true⟩

/-- A piece from `min` to `max` times: the required copies, an end state, then the optional
copies. -/
def boundedCopies (one : Grow Piece) (min max : Nat) : Grow Piece := do
  let p ← copies one min
  let _ ← addState 0
  let last ← optionalCopies one (max - min) p
  joinAfter last
  return .plain

/-- A repetition of a piece whose least match takes `subMin` bytes. -/
def repetition (min : Nat) (max : Option Nat) (subMin : Option Nat) (one : Grow Piece) :
    Grow Piece :=
  match min, max with
  | 0, some 1 => optionalPiece one
  | n, none => atLeast subMin one n
  | n, some m => if n == m then copies one n else boundedCopies one n m

/-- Pieces in a row, each joined to the one before. -/
def inRow (pieces : List (Grow Piece)) : Grow Piece :=
  match pieces with
  | [] => oneState
  | first :: rest => do
    let p ← first
    rest.foldlM (fun last next => do
      let q ← next
      joinAfter last
      return q) p

/-- A choice among pieces: the first two, then a choice state and an end state, each piece
an alternative of the choice and joined to the end. No piece at all is a state that never
matches. -/
def choiceOf (pieces : List (Grow Piece)) : Grow Piece :=
  match pieces with
  | [] => oneState
  | [one] => one
  | first :: second :: rest => do
    let p ← first
    let q ← second
    let _ ← addState 0
    let _ ← addState 0
    addAlternative
    joinAfter p
    addAlternative
    joinAfter q
    for next in rest do
      let r ← next
      addAlternative
      joinAfter r
    return .plain

mutual
/-- The piece of an expression, for the automaton that reads forwards or backwards. -/
def piece (backward : Bool) : Expr → Grow Piece
  | .empty => oneState
  | .text cs => do
    addStates (utf8Length cs) 0
    return .plain
  | .set s => setPiece backward s
  | .look _ => oneState
  | .rep min max _ sub => repetition min max sub.minLen (piece backward sub)
  | .group _ _ sub =>
    if backward then piece backward sub
    else do
      let _ ← addState 0
      let p ← piece backward sub
      let _ ← addState 0
      joinAfter p
      return .plain
  | .seq items =>
    let ps := pieces backward items
    inRow (if backward then ps.reverse else ps)
  | .alt items =>
    match allTexts items with
    | some texts =>
      if 2 ≤ texts.length then textChoice backward texts else choiceOf (pieces backward items)
    | none => choiceOf (pieces backward items)

/-- The pieces of some expressions, in order. -/
def pieces (backward : Bool) : List Expr → List (Grow Piece)
  | [] => []
  | e :: rest => piece backward e :: pieces backward rest
end

/-- The lazy loop over any byte that lets a match start anywhere: a choice state that loops
back through a state that reads any byte. -/
def anyStart : Grow Piece := do
  let _ ← addState 0
  let _ ← addState 0
  let _ ← addState edgeBytes
  addAlternative
  return ⟨true⟩

/-- The whole pattern read forwards, inside the states of the group that records the match. -/
def recorded (e : Expr) : Grow Piece := do
  let _ ← addState 0
  let p ← piece false e
  let _ ← addState 0
  joinAfter p
  return .plain

/-- Whether the automaton of an expression that reads in one direction stays within a limit. -/
def fitsReading (backward : Bool) (limit : Nat) (e : Expr) : Bool :=
  let build : Grow Unit := do
    let anchored := if backward then e.anchoredEnd else e.anchoredStart
    let start ← if anchored then oneState else anyStart
    let whole ← if backward then piece true e else recorded e
    let _ ← addState 0
    joinAfter whole
    joinAfter start
  (build (Build.start limit)).isSome

/-- Whether both automata of an expression stay within a limit. -/
def fitsWithin (limit : Nat) (e : Expr) : Bool :=
  fitsReading false limit e && fitsReading true limit e

end Pattern
end GotoTape
