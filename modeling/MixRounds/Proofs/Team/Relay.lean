import Mathlib.Data.List.Basic
import Mathlib.Data.List.Perm.Basic
import MixRounds.Team.Proto

/-!
# A team in relay order is the team

The search for the cheapest order only ever swaps places, so whatever it settles on, if it does not
break off, is a rearrangement of the indices it began with.  This file carries that up to the assembled team:

* `permute_keeps` — a property of arrays that swapping keeps holds of every order the search
  visits, and of the array it leaves behind.
* `cheapestOrder_perm` — the order found is a rearrangement of `0, …, n - 1`.
* **`ordered_perm`** — the members of an assembled team are the members it was given, each once.

The costs play no part here: the argument needs only that an order is offered or dropped whole.
-/

namespace MixRounds.Team

/-! ## What swapping keeps, the search keeps -/

/-- The last `m` places are searched by swaps and visits alone: what swaps keep of the array, and
visits keep of the state, holds at the end. -/
lemma permute_keeps {α σ : Type} {visit : Array α → σ → σ} {P : Array α → Prop} {Q : σ → Prop}
    (hswap : ∀ order i j, P order → P (order.swapIfInBounds i j))
    (hvisit : ∀ order s, P order → Q s → Q (visit order s)) :
    ∀ (m : Nat) (order : Array α) (s : σ), P order → Q s →
      P (permute visit m order s).1 ∧ Q (permute visit m order s).2
  | 0, order, s, hP, hQ => ⟨hP, hvisit order s hP hQ⟩
  | 1, order, s, hP, hQ => ⟨hP, hvisit order s hP hQ⟩
  | m + 2, order, s, hP, hQ => by
      rw [permute]
      -- the choices for the first of the places are gone through one after the other
      generalize List.range (m + 2) = choices
      induction choices generalizing order s with
      | nil => exact ⟨hP, hQ⟩
      | cons i rest ih =>
          obtain ⟨hP', hQ'⟩ := permute_keeps hswap hvisit (m + 1) _ s (hswap order _ _ hP) hQ
          exact ih _ _ (hswap _ _ _ hP') hQ'

lemma swapIfInBounds_perm {α : Type} {order start : Array α} (i j : Nat) (h : order.Perm start) :
    (order.swapIfInBounds i j).Perm start := by
  rw [Array.swapIfInBounds]
  split
  · split
    · exact (Array.swap_perm _ _).trans h
    · exact h
  · exact h

/-! ## The cheapest order -/

/-- An order that is offered is taken whole or not at all. -/
lemma Best.offer_order {costs : Array UInt32} {order : Array Nat} {b b' : Best}
    (h : b.offer costs order = some b') : b'.order = order ∨ b'.order = b.order := by
  rw [Best.offer] at h
  split at h <;> cases h
  · exact Or.inl rfl
  · exact Or.inr rfl

/-- The order found is a rearrangement of the indices of the team. -/
theorem cheapestOrder_perm {table : Latency} {regions : List Region} {order : List Nat}
    (h : cheapestOrder table regions = some order) : order.Perm (List.range regions.length) := by
  have hstart : (Array.range regions.length).toList = List.range regions.length := by simp
  obtain ⟨b, hb, rfl⟩ := Option.map_eq_some_iff.1 h
  rw [← hstart]
  refine ((permute_keeps (P := fun o => o.Perm (Array.range regions.toArray.size))
    (Q := fun best : Option Best => ∀ b ∈ best, b.order.Perm (Array.range regions.toArray.size))
    (fun o i j h => swapIfInBounds_perm i j h) ?_ _ _ _ (.refl _) ?_).2 b hb).toList
  · intro o best ho hbest b' hb'
    obtain ⟨b, hb, hoffer⟩ := Option.bind_eq_some_iff.1 hb'
    rcases Best.offer_order hoffer with heq | heq
    · rw [heq]; exact ho
    · rw [heq]; exact hbest b hb
  · intro b hb
    cases hb
    exact .refl _

/-! ## The assembled team -/

lemma filterMap_getElem?_range {α : Type} (l : List α) :
    (List.range l.length).filterMap (fun i => l[i]?) = l := by
  induction l with
  | nil => rfl
  | cons a rest ih =>
      rw [List.length_cons, List.range_succ_eq_map, List.filterMap_cons, List.filterMap_map]
      simpa using ih

lemma length_regionsOf {tags : List String} {regions : List Region}
    (h : regionsOf tags = .ok regions) : regions.length = tags.length := by
  induction tags generalizing regions with
  | nil => cases h; rfl
  | cons tag rest ih =>
      rw [regionsOf] at h
      split at h
      · cases h
      · split at h
        · cases h
        · rename_i hrest
          cases h
          simp [ih hrest]

/-- **An assembled team has the members it was given**, each as often as it was given. -/
theorem ordered_perm {table : Latency} {members team : List (NodeId × String)}
    (h : ordered table members = .ok team) : team.Perm members := by
  rw [ordered] at h
  split at h
  · cases h
  split at h
  · cases h
  split at h
  · cases h
  split at h
  · cases h
  · rename_i regions hregions _ order horder
    cases h
    have hlen : regions.length = members.length := by
      simpa using length_regionsOf hregions
    have hperm := (cheapestOrder_perm horder).filterMap (fun i => members[i]?)
    rwa [hlen, filterMap_getElem?_range] at hperm

end MixRounds.Team
