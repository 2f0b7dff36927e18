/-!
# Names of nodes and rounds

A node is known by the text it registered with, a round by a 64-bit number.
-/

namespace MixRounds

/-- The name of a node. -/
abbrev NodeId := String

/-- The number of a round. -/
structure RoundId where
  number : UInt64
  deriving DecidableEq, Repr

namespace RoundId

instance : Inhabited RoundId := ⟨⟨0⟩⟩

/-- The round with that number. -/
def ofNat (n : Nat) : RoundId := ⟨UInt64.ofNat n⟩

def toNat (id : RoundId) : Nat := id.number.toNat

/-- How a round is called in messages. -/
def text (id : RoundId) : String := "round-" ++ toString id.toNat

/-- The number after this one; after the greatest comes zero. -/
def next (id : RoundId) : RoundId := ⟨id.number + 1⟩

/-- Ascending order of numbers. -/
def sort (ids : List RoundId) : List RoundId := ids.mergeSort fun a b => a.toNat ≤ b.toNat

end RoundId

/-- Node names in the order of their bytes, which is the order of their code points. -/
def sortNodes (ids : List NodeId) : List NodeId := ids.mergeSort fun a b => decide (a ≤ b)

end MixRounds
