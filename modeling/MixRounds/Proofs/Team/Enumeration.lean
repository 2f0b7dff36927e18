import Mathlib.Data.List.Permutation
import MixRounds.Proofs.Team.Visits

/-!
# Every order is visited once

That the search visits all rearrangements of the places it is given, and nothing else, is known
(`mem_orders_iff`).  Counting says the rest.  The number of visits does not depend on what stands in the
array: `m` places have `m!` orders (`length_orders`).  If the places are distinct, that is the number of
their rearrangements, and a list of that many orders in which every rearrangement occurs has no room to
repeat one (`nodup_orders`).

The orders begin with the array as it is (`head?_orders`), for the first choice is always to swap a place
with itself.  **`permute_visits_once`** puts this together for the places behind the first `k`.
-/

namespace MixRounds.Team

open Nat

variable {α : Type}

/-! ## How many, and which comes first -/

/-- The last `m` places have `m!` orders. -/
lemma length_orders : ∀ (m : Nat) (order : Array α), (orders m order).length = m !
  | 0, _ => rfl
  | 1, _ => rfl
  | m + 2, order => by
      have hchoice : ∀ i ∈ List.range (m + 2), (orders (m + 1) (order.swapIfInBounds
          (order.size - (m + 2)) (order.size - (m + 2) + i))).length = (m + 1)! :=
        fun i _ => length_orders (m + 1) _
      rw [orders, List.length_flatMap, List.map_congr_left hchoice, List.map_const', List.length_range,
        List.sum_replicate_nat, Nat.factorial_succ (m + 1)]

/-- A place that is swapped with itself stays. -/
lemma swapIfInBounds_self (order : Array α) (i : Nat) : order.swapIfInBounds i i = order := by
  by_cases hi : i < order.size
  · simp [Array.swapIfInBounds, hi, Array.swap_def]
  · simp [Array.swapIfInBounds, hi]

/-- The first order is the array as it is. -/
lemma head?_orders : ∀ (m : Nat) (order : Array α), (orders m order).head? = some order
  | 0, _ => rfl
  | 1, _ => rfl
  | m + 2, order => by
      rw [orders, List.range_succ_eq_map, List.flatMap_cons, List.head?_append]
      dsimp only
      rw [Nat.add_zero (order.size - (m + 2)), swapIfInBounds_self, head?_orders (m + 1) order,
        Option.some_or]

/-! ## None comes twice -/

/-- **Distinct places are never in the same order twice.** -/
theorem nodup_orders {order : Array α} {before places : List α} (h : order.toList = before ++ places)
    (hdistinct : places.Nodup) : (orders places.length order).Nodup := by
  -- the rearrangements, put behind the places that stay
  let rearranged := places.permutations.map fun tail => (before ++ tail).toArray
  have hnodup : rearranged.Nodup := by
    refine (List.nodup_permutations places hdistinct).map fun tail tail' heq => ?_
    simpa using heq
  have hvisited : rearranged ⊆ orders places.length order := by
    intro o ho
    obtain ⟨tail, htail, rfl⟩ := List.mem_map.1 ho
    exact (mem_orders_iff h).2 ⟨tail, List.mem_permutations.1 htail, rfl⟩
  have hlength : (orders places.length order).length ≤ rearranged.length := by
    rw [length_orders, List.length_map, List.length_permutations]
  have hperm := (List.subperm_of_subset hnodup hvisited).perm_of_length_le hlength
  exact hperm.nodup_iff.1 hnodup

/-! ## The search as a whole -/

/-- The list of orders visits every rearrangement of the places behind the first `k` once, beginning with
the array as it is. -/
structure VisitsOnce (order : Array α) (k : Nat) (visits : List (Array α)) : Prop where
  mem_iff : ∀ o, o ∈ visits ↔ o.toList.take k = order.toList.take k ∧
    (o.toList.drop k).Perm (order.toList.drop k)
  nodup : visits.Nodup
  length : visits.length = (order.size - k)!
  first : visits.head? = some order

/-- **The search visits every order once.**  Whatever is done at a visit, the visits are those of one list
of orders, one after the other, and the array is left as it was found. -/
theorem permute_visits_once {order : Array α} (hdistinct : order.toList.Nodup) {k : Nat}
    (hk : k ≤ order.size) : ∃ visits, VisitsOnce order k visits ∧
      (order.size - k ≤ 1 → visits = [order]) ∧
      ∀ {σ : Type} (visit : Array α → σ → σ) (s : σ),
        permute visit (order.size - k) order s = (order, visits.foldl (fun s o => visit o s) s) := by
  have hsplit : order.toList = order.toList.take k ++ order.toList.drop k := by simp
  have hlength : (order.toList.drop k).length = order.size - k := by simp
  have hmem : ∀ o, o ∈ orders (order.size - k) order ↔ o.toList.take k = order.toList.take k ∧
      (o.toList.drop k).Perm (order.toList.drop k) := by
    intro o
    rw [← hlength, mem_orders_iff hsplit]
    constructor
    · rintro ⟨tail, htail, ho⟩
      rw [ho]
      have htake : (order.toList.take k).length = k := by simpa using hk
      exact ⟨List.take_left' htake, by rwa [List.drop_left' htake]⟩
    · rintro ⟨htake, hdrop⟩
      exact ⟨o.toList.drop k, hdrop, by rw [← htake, List.take_append_drop]⟩
  refine ⟨orders (order.size - k) order, ⟨hmem, ?_, length_orders _ _, head?_orders _ _⟩, ?_,
    fun visit s => permute_eq visit _ order s⟩
  · rw [← hlength]
    exact nodup_orders hsplit hdistinct.drop
  · intro hfew
    match order.size - k, hfew with
    | 0, _ => rfl
    | 1, _ => rfl

/-- The orders of the last three of four places. -/
theorem permute_visits_once_of_four : (#[4, 3, 2, 1] : Array Nat).toList.Nodup ∧
    ∃ visits, VisitsOnce #[4, 3, 2, 1] 1 visits ∧
      permute (fun o seen => seen ++ [o]) 3 #[4, 3, 2, 1] [] = (#[4, 3, 2, 1], visits) ∧
      visits = [#[4, 3, 2, 1], #[4, 3, 1, 2], #[4, 2, 3, 1], #[4, 2, 1, 3], #[4, 1, 2, 3], #[4, 1, 3, 2]] := by
  have hdistinct : (#[4, 3, 2, 1] : Array Nat).toList.Nodup := by decide
  obtain ⟨visits, honce, -, hpermute⟩ := permute_visits_once hdistinct (k := 1) (by decide)
  have hlog : permute (fun o seen => seen ++ [o]) 3 #[4, 3, 2, 1] [] = (#[4, 3, 2, 1], visits) :=
    (hpermute _ []).trans (by rw [foldl_note, List.nil_append])
  refine ⟨hdistinct, visits, honce, hlog, ?_⟩
  exact (congrArg Prod.snd hlog).symm.trans (by decide)

end MixRounds.Team
