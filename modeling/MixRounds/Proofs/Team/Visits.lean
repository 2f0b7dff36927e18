import Mathlib.Data.List.Perm.Basic
import MixRounds.Proofs.Team.Relay

/-!
# Every order is visited

The search swaps in place and carries a state along.  Taken apart, that is two things: a list of orders
that depends on the array alone, and a fold over it.

* `orders` — the orders of the last places, in the order in which they are visited.
* `permute_eq` — whatever is done at a visit, the visits are those of `orders`, one after the other, and
  the array is left as it was found.
* **`mem_orders_iff`** — the orders of the last `m` places are the rearrangements of these places, all of
  them and no others.  So the orders of a whole array are all its rearrangements (`mem_visited_iff`).
-/

namespace MixRounds.Team

variable {α σ : Type}

/-- The orders of the last `m` places, in the order in which they are visited. -/
def orders : Nat → Array α → List (Array α)
  | 0, order => [order]
  | 1, order => [order]
  | m + 2, order => (List.range (m + 2)).flatMap fun i =>
      let k := order.size - (m + 2)
      orders (m + 1) (order.swapIfInBounds k (k + i))

/-! ## The search is a fold -/

/-- A swap that is made twice is undone. -/
lemma swapIfInBounds_swapIfInBounds (order : Array α) (i j : Nat) :
    (order.swapIfInBounds i j).swapIfInBounds i j = order := by
  by_cases hi : i < order.size
  · by_cases hj : j < order.size
    · simp [Array.swapIfInBounds, hi, hj]
    · simp [Array.swapIfInBounds, hi, hj]
  · simp [Array.swapIfInBounds, hi]

/-- **Each visit leaves the array as it was**, and the state has seen the orders one after the other. -/
theorem permute_eq (visit : Array α → σ → σ) : ∀ (m : Nat) (order : Array α) (s : σ),
    permute visit m order s = (order, (orders m order).foldl (fun s o => visit o s) s)
  | 0, _, _ => rfl
  | 1, _, _ => rfl
  | m + 2, order, s => by
      rw [permute, orders]
      generalize List.range (m + 2) = choices
      induction choices generalizing s with
      | nil => rfl
      | cons i rest ih =>
          rw [List.foldl_cons, List.flatMap_cons, List.foldl_append, ← ih]
          simp only [permute_eq visit (m + 1), swapIfInBounds_swapIfInBounds]

/-- Noting down what comes gives what came, in order. -/
lemma foldl_note (os seen : List (Array α)) : os.foldl (fun seen o => seen ++ [o]) seen = seen ++ os := by
  induction os generalizing seen with
  | nil => simp
  | cons o rest ih => simp [ih]

/-- The orders that are visited are those of all places. -/
lemma visited_eq (order : Array α) : visited order = orders order.size order := by
  rw [visited, permute_eq, foldl_note, List.nil_append]

/-! ## The search is complete -/

/-- A swap of the first of the places behind `before` brings any of them to the front. -/
lemma toList_swapIfInBounds {order : Array α} {before places : List α}
    (h : order.toList = before ++ places) {i : Nat} (hi : i < places.length) :
    ∃ rest, (places[i] :: rest).Perm places ∧
      (order.swapIfInBounds before.length (before.length + i)).toList
        = before ++ places[i] :: rest := by
  have hsize : order.size = before.length + places.length := by simp [← Array.length_toList, h]
  have hget : ∀ j (hj : j < places.length), getElem order (before.length + j) (by omega) = places[j] := by
    intro j hj
    simp [← Array.getElem_toList, h, List.getElem_append_right]
  have hswap : (order.swapIfInBounds before.length (before.length + i)).toList
      = before ++ (places.set 0 places[i]).set i (getElem places 0 (by omega)) := by
    have h0 := hget 0 (by omega)
    simp only [Nat.add_zero] at h0
    have hk : before.length < order.size := by omega
    have hki : before.length + i < order.size := by omega
    simp only [Array.swapIfInBounds, hk, hki, dif_pos, Array.toList_swap, h0, hget i hi, h]
    simp [List.set_append_right]
  obtain ⟨a, rest, rfl⟩ := List.exists_cons_of_length_pos (show 0 < places.length by omega)
  have hperm := (swapIfInBounds_perm before.length (before.length + i) (.refl order)).toList
  rw [h, hswap, List.perm_append_left_iff] at hperm
  cases i with
  | zero => exact ⟨rest, by simp, by simpa using hswap⟩
  | succ j => exact ⟨rest.set j a, by simpa using hperm, by simpa using hswap⟩

/-- **The orders of the last places are their rearrangements**, with the places before them as they
are. -/
theorem mem_orders_iff {order o : Array α} {before places : List α}
    (h : order.toList = before ++ places) :
    o ∈ orders places.length order ↔ ∃ tail, tail.Perm places ∧ o.toList = before ++ tail := by
  induction hm : places.length generalizing order before places with
  | zero =>
      obtain rfl := List.length_eq_zero_iff.1 hm
      simp [orders, ← h, ← Array.toList_inj]
  | succ m ih =>
      cases m with
      | zero =>
          obtain ⟨a, rfl⟩ := List.length_eq_one_iff.1 hm
          simp [orders, ← h, ← Array.toList_inj, List.perm_singleton]
      | succ m =>
          have hsize : order.size - (m + 2) = before.length := by
            simp [← Array.length_toList, h, hm]
          simp only [orders, List.mem_flatMap, List.mem_range, hsize]
          constructor
          · rintro ⟨i, hi, ho⟩
            obtain ⟨rest, hperm, hlist⟩ := toList_swapIfInBounds h (i := i) (by omega)
            have hlen : rest.length = m + 1 := by simpa [hm] using hperm.length_eq
            rw [List.append_cons] at hlist
            obtain ⟨tail, htail, ho⟩ := (ih hlist hlen).1 ho
            exact ⟨places[i] :: tail, (htail.cons _).trans hperm, by simpa using ho⟩
          · rintro ⟨tail, htail, ho⟩
            obtain ⟨a, tail, rfl⟩ := List.exists_cons_of_length_pos (l := tail)
              (by rw [htail.length_eq]; omega)
            -- the place from which the first of the rearranged places comes is one of the choices
            obtain ⟨i, hi, rfl⟩ := List.getElem_of_mem (htail.subset List.mem_cons_self)
            obtain ⟨rest, hperm, hlist⟩ := toList_swapIfInBounds h hi
            have hlen : rest.length = m + 1 := by simpa [hm] using hperm.length_eq
            rw [List.append_cons] at hlist
            refine ⟨i, by omega, (ih hlist hlen).2 ⟨tail, ?_, by simpa using ho⟩⟩
            exact (htail.trans hperm.symm).cons_inv

/-- **Every rearrangement of an array is visited**, and nothing else. -/
theorem mem_visited_iff {order o : Array α} : o ∈ visited order ↔ o.toList.Perm order.toList := by
  have h : o ∈ orders order.toList.length order ↔
      ∃ tail, tail.Perm order.toList ∧ o.toList = [] ++ tail := mem_orders_iff (List.nil_append _).symm
  rw [visited_eq, ← Array.length_toList, h]
  simp

end MixRounds.Team
