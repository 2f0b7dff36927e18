import MixRounds.Region

/-!
# Costs between regions

A table of costs has a row for the region a message leaves and a column for the region it reaches.  The
cost of a team in relay order is the sum around the closed cycle, last member back to the first, in
32-bit words.  A sum that is no such word is not wrapped around: whoever asks for it breaks off, and there
is no answer.
-/

namespace MixRounds

/-- The sum of two costs; nothing if it is no 32-bit word. -/
def addCosts? (a b : UInt32) : Option UInt32 :=
  if a.toNat + b.toNat < UInt32.size then some (a + b) else none

/-- A cost for every ordered pair of regions. -/
structure Latency where
  rows : Vector (Vector UInt32 8) 8

namespace Latency

/-- The cost of sending from one region to another. -/
def cost (table : Latency) (source target : Region) : UInt32 :=
  table.rows[source.index][target.index]

/-- The costs in use when nobody gives others.  A few pairs cost more one way than the other. -/
def builtIn : Latency := ⟨#v[
  #v[1, 3, 4, 5, 8, 6, 10, 13],
  #v[3, 1, 2, 3, 5, 4, 6, 10],
  #v[4, 2, 1, 2, 4, 5, 4, 9],
  #v[5, 3, 2, 1, 3, 6, 2, 8],
  #v[8, 5, 4, 3, 1, 4, 5, 6],
  #v[7, 4, 5, 6, 4, 1, 8, 12],
  #v[10, 6, 4, 2, 5, 8, 1, 5],
  #v[13, 11, 9, 8, 6, 12, 5, 1]]⟩

/-- The costs of the steps along the list, and from its last element back to `first`. -/
def closing (table : Latency) (first : Region) : List Region → List UInt32
  | [] => []
  | [last] => [table.cost last first]
  | a :: b :: rest => table.cost a b :: closing table first (b :: rest)

/-- The cost of the closed cycle through the regions in order; nothing if it is no 32-bit word. -/
def cycleCost (table : Latency) : List Region → Option UInt32
  | [] => some 0
  | first :: rest => (table.closing first (first :: rest)).foldlM addCosts? 0

/-- The table of these rows, if there are eight of eight. -/
def ofRows? (rows : List (List UInt32)) : Option Latency := do
  let rows ← rows.mapM fun row =>
    if h : row.length = 8 then some (⟨row.toArray, by simpa using h⟩ : Vector UInt32 8) else none
  if h : rows.length = 8 then some ⟨⟨rows.toArray, by simpa using h⟩⟩ else none

end Latency

end MixRounds
