import MixRounds.Team.Latency
import MixRounds.Team.Permutation

/-!
# The cheapest relay order

Teams are small, so every order is tried.  An order is given up as soon as the sum of its steps reaches
the best total so far; hence of equally cheap orders the first one visited is kept, and a total of
`2³² − 1`, the bound the search begins with, never wins.  If a sum that has not reached the best total
leaves the 32-bit words with its next step, the whole search breaks off and has no result.
-/

namespace MixRounds.Team

/-- The costs between the members of a team, row by row. -/
def costMatrix (table : Latency) (regions : Array Region) : Array UInt32 :=
  regions.flatMap fun source => regions.map fun target => table.cost source target

/-- What adding up a cycle comes to. -/
inductive Reckoning where
  /-- The total, which is below the best one. -/
  | total (sum : UInt32)
  /-- A partial sum has reached the best total. -/
  | givenUp
  /-- A partial sum is no 32-bit word. -/
  | overflow
  deriving DecidableEq, Repr

/-- The total of the remaining steps of a cycle added to `total`, unless a partial sum reaches `best`.
The steps are those from place `order.size - left` on, with the last one leading back to the first. -/
def totalBelow (costs : Array UInt32) (order : Array Nat) (best : UInt32) : Nat → UInt32 → Reckoning
  | 0, total => .total total
  | left + 1, total =>
      let size := order.size
      let i := size - (left + 1)
      let source := order.getD i 0
      let target := order.getD (if i + 1 = size then 0 else i + 1) 0
      match addCosts? total (costs.getD (source * size + target) 0) with
      | none => .overflow
      | some total => if best ≤ total then .givenUp else totalBelow costs order best left total

/-- The cheapest order seen so far and its total. -/
structure Best where
  total : UInt32
  order : Array Nat

/-- Keep the order if it is cheaper; nothing is left if its sum overflows. -/
def Best.offer (costs : Array UInt32) (order : Array Nat) (b : Best) : Option Best :=
  match totalBelow costs order b.total order.size 0 with
  | .total total => some ⟨total, order⟩
  | .givenUp => some b
  | .overflow => none

/-- The greatest 32-bit word, above which no total can be. -/
def boundTotal : UInt32 := UInt32.ofNat (UInt32.size - 1)

/-- The indices of a team in its cheapest relay order; nothing if a sum overflows on the way. -/
def cheapestOrder (table : Latency) (regions : List Region) : Option (List Nat) :=
  let regions := regions.toArray
  let costs := costMatrix table regions
  let start := Array.range regions.size
  let visit (order : Array Nat) (best : Option Best) := best.bind (Best.offer costs order)
  (permute visit regions.size start (some ⟨boundTotal, start⟩)).2.map fun b => b.order.toList

end MixRounds.Team
