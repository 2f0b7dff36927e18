/-!
# Visiting every order

All orders of the last `m` places of an array, one after the other, by swapping in place.  Every choice
for the first of these places is swapped in, the orders of the places behind it are visited, and the
swap is undone; so each visit of a place leaves the array as it was.  One place or none is one order.
-/

namespace MixRounds.Team

variable {α σ : Type}

/-- Let `visit` see every order of the last `m` places of `order`, carrying its state along. -/
def permute (visit : Array α → σ → σ) : Nat → Array α → σ → Array α × σ
  | 0, order, s => (order, visit order s)
  | 1, order, s => (order, visit order s)
  | m + 2, order, s =>
      (List.range (m + 2)).foldl (fun (order, s) i =>
        let k := order.size - (m + 2)
        let (order, s) := permute visit (m + 1) (order.swapIfInBounds k (k + i)) s
        (order.swapIfInBounds k (k + i), s)) (order, s)

/-- The orders of the whole array in the order in which they are visited. -/
def visited (order : Array α) : List (Array α) :=
  (permute (fun o seen => seen ++ [o]) order.size order []).2

end MixRounds.Team
