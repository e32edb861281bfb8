import GotoTape.Fault
/-!
# The bracket map

For every position of a program, the position of the bracket that closes or opens the loop
there. Opening brackets wait on a stack; a closing bracket pairs with the most recent one that
waits, and the map records the pair in both directions. `finish` checks that no loop is left
open.

The map has a fixed length. Recording a partner at a position past its end is not a fault of the
program but a misuse of the map; `close` reports it as `Trouble.outOfRange`, naming the first
position written that is out of range.
-/

namespace GotoTape

/-- Partners of the positions of a program, and the opening brackets still waiting, the most
recent first. -/
structure BracketMap where
  partners : Array (Option Nat)
  pending : List Nat := []
  deriving Repr

namespace BracketMap

/-- Why a bracket could not be closed. -/
inductive Trouble where
  /-- A fault of the program: a closing bracket with no loop open. -/
  | fault (f : Fault)
  /-- A partner was to be written at `index`, past the end of a map of length `len`. -/
  | outOfRange (len index : Nat)
  deriving DecidableEq, Repr

/-- A map for `len` positions, none of them paired. -/
def withLen (len : Nat) : BracketMap := { partners := Array.replicate len none }

/-- The number of positions. -/
def len (m : BracketMap) : Nat := m.partners.size

/-- Opens a loop at `ip`. -/
def openAt (m : BracketMap) (ip : Nat) : BracketMap := { m with pending := ip :: m.pending }

/-- Closes the most recently opened loop at `ip`, pairing the two positions. -/
def close (m : BracketMap) (ip : Nat) : Except Trouble BracketMap :=
  match m.pending with
  | [] => .error (.fault (.unbalanced ip .closing))
  | o :: rest =>
    if ho : o < m.partners.size then
      let partners := m.partners.set o (some ip) ho
      if hi : ip < partners.size then
        .ok { partners := partners.set ip (some o) hi, pending := rest }
      else .error (.outOfRange m.partners.size ip)
    else .error (.outOfRange m.partners.size o)

/-- The finished map, or the fault of the most recently opened loop that was never closed. -/
def finish (m : BracketMap) : Except Fault BracketMap :=
  match m.pending with
  | [] => .ok m
  | o :: _ => .error (.unbalanced o .opening)

/-- The partner of the bracket at `ip`; none for an unpaired position or one past the end. -/
def partner (m : BracketMap) (ip : Nat) : Option Nat := (m.partners[ip]?).join

/-- How many pairs the map records: half the number of paired positions. -/
def pairs (m : BracketMap) : Nat := (m.partners.toList.countP Option.isSome) / 2

end BracketMap
end GotoTape
