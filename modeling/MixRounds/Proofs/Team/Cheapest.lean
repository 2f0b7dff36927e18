import Mathlib.Algebra.GroupWithZero.Nat
import Mathlib.Data.List.Rotate
import MixRounds.Proofs.Team.Visits

/-!
# When the search finds the cheapest order

The search keeps the best order so far and gives an order up as soon as a partial sum reaches the best
total.  Sums only grow, so an order is given up only if it is not cheaper, and one that is taken is taken
with its exact cost (`reckon_eq_total_iff`).  What the search finds is right, therefore.

But it may find nothing.  The sums are 32-bit words, and a sum that has not reached the best total, and with
its next step is no such word any more, breaks the search off (`Leaps`, `reckon_eq_overflow_iff`).  This
depends on the orders visited before, for the best total does.  `Surveyed` is what holds of the best order
after any number of visits, and **`firstCheapest_cheapestOrder_iff`** is read off it at the end: the search
finds the first of the cheapest orders if and only if no order that it visits makes such a leap, and nothing
at all otherwise.  Only an order whose cost is no word can leap; but it can leap although others are cheap,
as in `not_firstCheapest_of_overflow`.
-/

namespace MixRounds

/-- The exact sum of the costs. -/
def exactSum (costs : List UInt32) : Nat := (costs.map UInt32.toNat).sum

@[simp] lemma exactSum_nil : exactSum [] = 0 := rfl

@[simp] lemma exactSum_cons (c : UInt32) (rest : List UInt32) :
    exactSum (c :: rest) = c.toNat + exactSum rest := rfl

lemma exactSum_append (before after : List UInt32) :
    exactSum (before ++ after) = exactSum before + exactSum after := by simp [exactSum]

/-- A place in a list is its head, or a place in the rest. -/
lemma exists_split_cons {α : Type} {P : List α → α → Prop} {a : α} {rest : List α} :
    (∃ before x after, a :: rest = before ++ x :: after ∧ P before x) ↔
      P [] a ∨ ∃ before x after, rest = before ++ x :: after ∧ P (a :: before) x := by
  constructor
  · rintro ⟨before, x, after, heq, hx⟩
    cases before with
    | nil =>
        cases heq
        exact Or.inl hx
    | cons b before =>
        cases heq
        exact Or.inr ⟨before, x, after, rfl, hx⟩
  · rintro (ha | ⟨before, x, after, rfl, hx⟩)
    · exact ⟨[], a, rest, rfl, ha⟩
    · exact ⟨a :: before, x, after, rfl, hx⟩

/-- A place in a list is its end, or a place before. -/
lemma exists_split_concat {α : Type} {P : List α → α → Prop} {early : List α} {a : α} :
    (∃ before x after, early ++ [a] = before ++ x :: after ∧ P before x) ↔
      (∃ before x after, early = before ++ x :: after ∧ P before x) ∨ P early a := by
  constructor
  · rintro ⟨before, x, after, heq, hx⟩
    rcases after.eq_nil_or_concat with rfl | ⟨after, last, rfl⟩
    · obtain ⟨rfl, hlast⟩ := List.append_inj' heq rfl
      cases hlast
      exact Or.inr hx
    · rw [List.concat_eq_append, ← List.cons_append, ← List.append_assoc] at heq
      exact Or.inl ⟨before, x, after, (List.append_inj' heq rfl).1, hx⟩
  · rintro (⟨before, x, after, rfl, hx⟩ | ha)
    · exact ⟨before, x, after ++ [a], by simp, hx⟩
    · exact ⟨early, a, [], rfl, ha⟩

/-- Costs are added exactly, if at all. -/
lemma addCosts?_eq_some_iff {a b c : UInt32} : addCosts? a b = some c ↔ c.toNat = a.toNat + b.toNat := by
  have hsize : UInt32.size = 2 ^ 32 := rfl
  have hc := c.toNat_lt
  rw [addCosts?]
  split
  · rename_i hfits
    rw [Option.some.injEq, ← UInt32.toNat_inj, UInt32.toNat_add, Nat.mod_eq_of_lt (by omega), eq_comm]
  · simp only [reduceCtorEq, false_iff]
    omega

lemma addCosts?_eq_none_iff {a b : UInt32} :
    addCosts? a b = none ↔ UInt32.size ≤ a.toNat + b.toNat := by simp [addCosts?]

namespace Latency

/-- The costs of the steps around the closed cycle through the regions in order. -/
def steps (table : Latency) (regions : List Region) : List UInt32 :=
  List.zipWith table.cost regions (regions.rotate 1)

/-- The exact cost of the closed cycle through the regions in order. -/
def total (table : Latency) (regions : List Region) : Nat := exactSum (table.steps regions)

lemma closing_eq (table : Latency) (first a : Region) (rest : List Region) :
    table.closing first (a :: rest) = List.zipWith table.cost (a :: rest) (rest ++ [first]) := by
  induction rest generalizing a with
  | nil => rfl
  | cons b rest ih => rw [closing, ih, List.cons_append, List.zipWith_cons_cons]

lemma foldlM_addCosts? {costs : List UInt32} {start c : UInt32} :
    costs.foldlM addCosts? start = some c ↔ c.toNat = start.toNat + exactSum costs := by
  induction costs generalizing start with
  | nil => simp [eq_comm, ← UInt32.toNat_inj]
  | cons d rest ih =>
      rw [List.foldlM_cons, Option.bind_eq_bind, Option.bind_eq_some_iff, exactSum_cons]
      constructor
      · rintro ⟨next, hnext, hrest⟩
        rw [ih.1 hrest, addCosts?_eq_some_iff.1 hnext, Nat.add_assoc]
      · intro hc
        have hfits := c.toNat_lt
        have hnext : (UInt32.ofNat (start.toNat + d.toNat)).toNat = start.toNat + d.toNat :=
          UInt32.toNat_ofNat_of_lt' (by have : UInt32.size = 2 ^ 32 := rfl; omega)
        exact ⟨_, addCosts?_eq_some_iff.2 hnext, ih.2 (by omega)⟩

/-- **The cost of a cycle is exact**, if there is one. -/
theorem cycleCost_eq_some_iff {table : Latency} {regions : List Region} {c : UInt32} :
    table.cycleCost regions = some c ↔ c.toNat = table.total regions := by
  cases regions with
  | nil => simp [cycleCost, total, steps, eq_comm, ← UInt32.toNat_inj]
  | cons first rest =>
      have hsteps : table.steps (first :: rest) = table.closing first (first :: rest) := by
        rw [closing_eq]
        simp [steps]
      rw [cycleCost, foldlM_addCosts?, total, hsteps]
      simp

end Latency

namespace Team

/-- The regions of a team in the given order. -/
def inOrder (regions : List Region) (order : List Nat) : List Region :=
  order.filterMap fun i => regions[i]?

/-- The exact cost of the closed cycle through a team in the given order. -/
def exactCost (table : Latency) (regions : List Region) (order : List Nat) : Nat :=
  table.total (inOrder regions order)

/-- The orders of a team, in the order in which they are visited. -/
def ordersOf (regions : List Region) : List (List Nat) :=
  (visited (Array.range regions.length)).map Array.toList

/-- An order of the team that no other order undercuts, and the first such order that is visited. -/
structure FirstCheapest (table : Latency) (regions : List Region) (order : List Nat) : Prop where
  perm : order.Perm (List.range regions.length)
  minimal : ∀ other : List Nat, other.Perm (List.range regions.length) →
    exactCost table regions order ≤ exactCost table regions other
  first : ∃ before after, ordersOf regions = before ++ order :: after ∧
    ∀ other ∈ before, exactCost table regions order < exactCost table regions other

lemma mem_ordersOf {regions : List Region} {order : List Nat} :
    order ∈ ordersOf regions ↔ order.Perm (List.range regions.length) := by
  rw [ordersOf, List.mem_map]
  constructor
  · rintro ⟨o, ho, rfl⟩
    simpa using mem_visited_iff.1 ho
  · intro h
    exact ⟨order.toArray, mem_visited_iff.2 (by simpa using h), rfl⟩

/-- The least of these costs, and at most the bound with which the search begins. -/
def leastOf (table : Latency) (regions : List Region) (seen : List (List Nat)) : Nat :=
  seen.foldl (fun least o => min least (exactCost table regions o)) (UInt32.size - 1)

/-- With one of its steps the sum gets from below `best` to beyond the 32-bit words. -/
def Leaps (best : Nat) (costs : List UInt32) : Prop :=
  ∃ before c after, costs = before ++ c :: after ∧ exactSum before < best ∧
    UInt32.size ≤ exactSum before + c.toNat

/-- One of the orders leaps over the best total that the search has found before it. -/
def Overflows (table : Latency) (regions : List Region) : Prop :=
  ∃ before order after, ordersOf regions = before ++ order :: after ∧
    Leaps (leastOf table regions before) (table.steps (inOrder regions order))

/-- What leaps is too dear for a word. -/
lemma Leaps.size_le {best : Nat} {costs : List UInt32} (h : Leaps best costs) :
    UInt32.size ≤ exactSum costs := by
  obtain ⟨before, c, after, rfl, -, hsize⟩ := h
  rw [exactSum_append, exactSum_cons]
  omega

/-! ## The sum of a cycle -/

/-- Add the costs up, but stop as soon as a sum reaches `best`, or is no word. -/
def reckon (best : UInt32) : List UInt32 → UInt32 → Reckoning
  | [], total => .total total
  | c :: rest, total =>
      match addCosts? total c with
      | none => .overflow
      | some total => if best ≤ total then .givenUp else reckon best rest total

lemma reckon_of_overflow {best total c : UInt32} {rest : List UInt32}
    (h : addCosts? total c = none) : reckon best (c :: rest) total = .overflow := by
  simp only [reckon, h]

lemma reckon_of_fits {best total c next : UInt32} {rest : List UInt32}
    (h : addCosts? total c = some next) :
    reckon best (c :: rest) total = if best ≤ next then .givenUp else reckon best rest next := by
  simp only [reckon, h]

/-- **A total is exact**, and there is one if and only if it is below the bound. -/
lemma reckon_eq_total_iff {best total sum : UInt32} {costs : List UInt32}
    (h : total < best ∨ costs ≠ []) :
    reckon best costs total = .total sum ↔
      sum.toNat = total.toNat + exactSum costs ∧ sum.toNat < best.toNat := by
  induction costs generalizing total with
  | nil =>
      have hlt := UInt32.lt_iff_toNat_lt.1 (h.resolve_right (by simp))
      rw [reckon, Reckoning.total.injEq, ← UInt32.toNat_inj]
      simp only [exactSum_nil]
      omega
  | cons c rest ih =>
      rw [reckon, exactSum_cons]
      have hsum := sum.toNat_lt
      split
      · rename_i hover
        have hsize := addCosts?_eq_none_iff.1 hover
        simp only [reduceCtorEq, false_iff]
        have : UInt32.size = 2 ^ 32 := rfl
        omega
      · rename_i next hnext
        have hadd := addCosts?_eq_some_iff.1 hnext
        split <;> rename_i hbest <;> rw [UInt32.le_iff_toNat_le] at hbest
        · simp only [reduceCtorEq, false_iff]
          omega
        · rw [ih (Or.inl (UInt32.lt_iff_toNat_lt.2 (Nat.lt_of_not_le hbest))), hadd, Nat.add_assoc]

/-- **The sum overflows** if and only if it leaps from below the bound. -/
lemma reckon_eq_overflow_iff {best total : UInt32} {costs : List UInt32} (h : total < best ∨ total = 0) :
    reckon best costs total = .overflow ↔ ∃ before c after, costs = before ++ c :: after ∧
      total.toNat + exactSum before < best.toNat ∧
        UInt32.size ≤ total.toNat + exactSum before + c.toNat := by
  induction costs generalizing total with
  | nil => simp [reckon]
  | cons c rest ih =>
      have hc := c.toNat_lt
      rw [reckon]
      -- the leap is made with the first step, or with a later one
      rw [exists_split_cons]
      simp only [exactSum_nil, exactSum_cons, Nat.add_zero, ← Nat.add_assoc]
      have hwords : UInt32.size = 2 ^ 32 := rfl
      split
      · rename_i hover
        have hsize := addCosts?_eq_none_iff.1 hover
        have hlt : total < best := by
          refine h.resolve_right ?_
          rintro rfl
          simp at hsize
          omega
        exact iff_of_true rfl (Or.inl ⟨UInt32.lt_iff_toNat_lt.1 hlt, hsize⟩)
      · rename_i next hnext
        have hadd := addCosts?_eq_some_iff.1 hnext
        have hfits := next.toNat_lt
        split <;> rename_i hbest <;> rw [UInt32.le_iff_toNat_le] at hbest
        · simp only [reduceCtorEq, false_iff]
          rintro (⟨-, hsize⟩ | ⟨before, d, after, -, hlt, -⟩) <;> omega
        · rw [ih (Or.inl (UInt32.lt_iff_toNat_lt.2 (Nat.lt_of_not_le hbest))), hadd]
          refine ⟨Or.inr, fun hleaps => hleaps.resolve_left ?_⟩
          rintro ⟨-, hsize⟩
          omega

/-! ## The sum that the search takes -/

section Sum

variable {table : Latency} {regions : List Region} {order : Array Nat}

lemma length_inOrder {o : List Nat} (h : o.Perm (List.range regions.length)) :
    (inOrder regions o).length = regions.length := by
  have hperm := h.filterMap fun i => regions[i]?
  rw [filterMap_getElem?_range] at hperm
  exact hperm.length_eq

lemma getElem?_inOrder {o : List Nat} (h : ∀ i ∈ o, i < regions.length) (j : Nat) :
    (inOrder regions o)[j]? = o[j]?.bind fun i => regions[i]? := by
  induction o generalizing j with
  | nil => rfl
  | cons i rest ih =>
      have hi := h i List.mem_cons_self
      have hcons : inOrder regions (i :: rest) = regions[i] :: inOrder regions rest := by
        simp [inOrder, hi]
      rw [hcons]
      cases j with
      | zero => simp [hi]
      | succ j => simpa using ih (fun i hmem => h i (List.mem_cons_of_mem _ hmem)) j

/-- The matrix has the costs row by row. -/
lemma costMatrix_getD {source target : Nat} (hs : source < regions.length)
    (ht : target < regions.length) :
    (costMatrix table regions.toArray).getD (source * regions.length + target) 0
      = table.cost regions[source] regions[target] := by
  have hrows : ∀ (rows : List Region) (i : Nat) (hi : i < rows.length),
      (rows.flatMap fun s => regions.map fun t => table.cost s t)[i * regions.length + target]?
        = some (table.cost rows[i] regions[target]) := by
    intro rows
    induction rows with
    | nil => exact fun i hi => absurd hi (Nat.not_lt_zero i)
    | cons s rest ih =>
        intro i hi
        cases i with
        | zero => simp [List.getElem?_append_left, ht]
        | succ i =>
            rw [List.flatMap_cons, List.getElem?_append_right (by simp; lia)]
            have hindex : (i + 1) * regions.length + target
                - (regions.map fun t => table.cost s t).length = i * regions.length + target := by
              simp only [List.length_map]
              lia
            rw [hindex, ih i (by simpa using hi)]
            simp
  have hlist : (costMatrix table regions.toArray).toList
      = regions.flatMap fun s => regions.map fun t => table.cost s t := by
    simp [costMatrix]
  rw [Array.getD_eq_getD_getElem?, ← Array.getElem?_toList, hlist, hrows regions source hs]
  rfl

lemma length_steps (table : Latency) (rs : List Region) : (table.steps rs).length = rs.length := by
  simp [Latency.steps]

lemma getElem_steps {rs : List Region} {i : Nat} (hi : i < rs.length)
    (hnext : (if i + 1 = rs.length then 0 else i + 1) < rs.length) :
    getElem (table.steps rs) i (by rwa [length_steps])
      = table.cost rs[i] (rs[if i + 1 = rs.length then 0 else i + 1]) := by
  have hmod : (i + 1) % rs.length = if i + 1 = rs.length then 0 else i + 1 := by
    split
    · rename_i heq
      rw [heq, Nat.mod_self]
    · exact Nat.mod_eq_of_lt (by omega)
  simp only [Latency.steps, List.getElem_zipWith, List.getElem_rotate, hmod]

/-- A place of the order names a region. -/
lemma inOrder_place (horder : order.toList.Perm (List.range regions.length)) {j : Nat}
    (hj : j < regions.length) : ∃ hr : order.getD j 0 < regions.length,
      getElem (inOrder regions order.toList) j (by rwa [length_inOrder horder])
        = regions[order.getD j 0] := by
  have hsize : order.size = regions.length := by simpa using horder.length_eq
  have hbound : ∀ i ∈ order.toList, i < regions.length := fun i hi =>
    List.mem_range.1 (horder.subset hi)
  have hget : order.toList[j]? = some (order.getD j 0) := by simp [Array.getD, hsize, hj]
  have hr : order.getD j 0 < regions.length := hbound _ (List.mem_of_getElem? hget)
  have h := getElem?_inOrder hbound j
  rw [List.getElem?_eq_getElem (by rwa [length_inOrder horder]), hget, Option.bind_some,
    List.getElem?_eq_getElem hr] at h
  exact ⟨hr, Option.some.inj h⟩

/-- **The search adds up the steps of the cycle**, one after the other. -/
lemma totalBelow_eq (horder : order.toList.Perm (List.range regions.length)) (best : UInt32) :
    ∀ (left : Nat) (total : UInt32), left ≤ regions.length →
      totalBelow (costMatrix table regions.toArray) order best left total
        = reckon best ((table.steps (inOrder regions order.toList)).drop (regions.length - left))
            total
  | 0, total, _ => by
      rw [totalBelow, List.drop_eq_nil_of_le, reckon]
      rw [length_steps, length_inOrder horder]
      omega
  | left + 1, total, hleft => by
      have hlen := length_inOrder horder
      have hsize : order.size = regions.length := by simpa using horder.length_eq
      obtain ⟨i, hi⟩ : ∃ i, i = regions.length - (left + 1) := ⟨_, rfl⟩
      have hilt : i < regions.length := by omega
      have hnext : (if i + 1 = regions.length then 0 else i + 1) < regions.length := by
        split <;> omega
      obtain ⟨hs, hsource⟩ := inOrder_place horder hilt
      obtain ⟨ht, htarget⟩ := inOrder_place horder hnext
      have hrest : regions.length - left = i + 1 := by omega
      have hlater := fun total => totalBelow_eq horder best left total (by omega)
      rw [totalBelow, hsize, ← hi, costMatrix_getD hs ht,
        List.drop_eq_getElem_cons (by rw [length_steps]; omega),
        getElem_steps (by omega) (by simpa [hlen] using hnext)]
      simp only [hlen, hsource, htarget, hlater, hrest]
      cases hadd : addCosts? total (table.cost regions[order.getD i 0]
          regions[order.getD (if i + 1 = regions.length then 0 else i + 1) 0]) with
      | none => rw [reckon_of_overflow hadd]
      | some next => rw [reckon_of_fits hadd]

end Sum

/-! ## The best order so far -/

section Survey

variable {table : Latency} {regions : List Region} {order : Array Nat} {b : Best}

/-- The search takes the sum of the cycle of an order that is offered. -/
lemma totalBelow_offer (horder : order.toList.Perm (List.range regions.length)) (best : UInt32) :
    totalBelow (costMatrix table regions.toArray) order best order.size 0
      = reckon best (table.steps (inOrder regions order.toList)) 0 := by
  have hsize : order.size = regions.length := by simpa using horder.length_eq
  rw [hsize, totalBelow_eq horder best _ _ (Nat.le_refl _), Nat.sub_self, List.drop_zero]

lemma steps_ne_nil (table : Latency) (hne : regions ≠ [])
    (horder : order.toList.Perm (List.range regions.length)) :
    table.steps (inOrder regions order.toList) ≠ [] := by
  rw [← List.length_pos_iff, length_steps, length_inOrder horder]
  exact List.length_pos_iff.2 hne

/-- **An order that leaps** leaves nothing of the search. -/
lemma offer_eq_none_iff (horder : order.toList.Perm (List.range regions.length)) :
    b.offer (costMatrix table regions.toArray) order = none ↔
      Leaps b.total.toNat (table.steps (inOrder regions order.toList)) := by
  have hoverflow := @reckon_eq_overflow_iff b.total 0 (table.steps (inOrder regions order.toList))
    (Or.inr rfl)
  simp only [UInt32.toNat_zero, Nat.zero_add] at hoverflow
  rw [Leaps, ← hoverflow, Best.offer, totalBelow_offer horder]
  split <;> simp_all

/-- **Any other order** is taken if and only if it is cheaper, and with its exact cost. -/
lemma offer_eq_some {b' : Best} (hne : regions ≠ [])
    (horder : order.toList.Perm (List.range regions.length))
    (h : b.offer (costMatrix table regions.toArray) order = some b') :
    (exactCost table regions order.toList < b.total.toNat ∧ b'.order = order ∧
        b'.total.toNat = exactCost table regions order.toList) ∨
      b.total.toNat ≤ exactCost table regions order.toList ∧ b' = b := by
  have htotal (sum : UInt32) :
      reckon b.total (table.steps (inOrder regions order.toList)) 0 = .total sum ↔
        sum.toNat = exactCost table regions order.toList ∧ sum.toNat < b.total.toNat := by
    rw [reckon_eq_total_iff (Or.inr (steps_ne_nil table hne horder)), UInt32.toNat_zero, Nat.zero_add]
    rfl
  rw [Best.offer, totalBelow_offer horder] at h
  split at h <;> cases h
  · rename_i sum hsum
    obtain ⟨hexact, hlt⟩ := (htotal sum).1 hsum
    exact Or.inl ⟨hexact ▸ hlt, rfl, hexact⟩
  · -- an order that is given up is no total
    rename_i hgivenUp
    refine Or.inr ⟨Nat.le_of_not_lt fun hlt => ?_, rfl⟩
    have hfits : exactCost table regions order.toList < UInt32.size :=
      Nat.lt_trans hlt b.total.toNat_lt
    have hword := UInt32.toNat_ofNat_of_lt' hfits
    have hsum := (htotal (UInt32.ofNat (exactCost table regions order.toList))).2
      ⟨hword, hword.symm ▸ hlt⟩
    cases hgivenUp.symm.trans hsum

lemma leastOf_concat (table : Latency) (regions : List Region) (seen : List (List Nat)) (o : List Nat) :
    leastOf table regions (seen ++ [o])
      = min (leastOf table regions seen) (exactCost table regions o) := by
  simp [leastOf]

/-- No order seen is cheaper. -/
lemma leastOf_le {seen : List (List Nat)} {o : List Nat} (ho : o ∈ seen) :
    leastOf table regions seen ≤ exactCost table regions o := by
  induction seen using List.reverseRecOn with
  | nil => cases ho
  | append_singleton seen last ih =>
      rw [leastOf_concat]
      rcases List.mem_append.1 ho with ho | ho
      · exact (Nat.min_le_left _ _).trans (ih ho)
      · rw [List.mem_singleton.1 ho]
        exact Nat.min_le_right _ _

/-- What is known of the best order, once some orders have been offered. -/
structure Surveyed (table : Latency) (regions : List Region) (seen : List (List Nat)) (b : Best) :
    Prop where
  total : b.total.toNat = leastOf table regions seen
  /-- None was taken yet; or the best order is one of those seen, with its cost as the total, and those
  before it are dearer. -/
  taken : b.total = boundTotal ∨ ∃ before after, seen = before ++ b.order.toList :: after ∧
    exactCost table regions b.order.toList = b.total.toNat ∧
    ∀ o ∈ before, b.total.toNat < exactCost table regions o

/-- **One more order is offered.** -/
lemma Surveyed.offer {seen : List (List Nat)} {b' : Best} (h : Surveyed table regions seen b)
    (hne : regions ≠ []) (horder : order.toList.Perm (List.range regions.length))
    (hoffer : b.offer (costMatrix table regions.toArray) order = some b') :
    Surveyed table regions (seen ++ [order.toList]) b' := by
  rcases offer_eq_some hne horder hoffer with ⟨hlt, horder', htotal⟩ | ⟨hle, rfl⟩
  · refine ⟨?_, Or.inr ⟨seen, [], by rw [horder'], by rw [horder', htotal], fun o ho => ?_⟩⟩
    · rw [leastOf_concat, ← h.total, htotal, Nat.min_eq_right (Nat.le_of_lt hlt)]
    · rw [htotal]
      exact (h.total ▸ hlt).trans_le (leastOf_le ho)
  · refine ⟨?_, h.taken.imp_right ?_⟩
    · rw [leastOf_concat, ← h.total, Nat.min_eq_left hle]
    · rintro ⟨before, after, rfl, hexact, hdearer⟩
      exact ⟨before, after ++ [order.toList], by simp, hexact, hdearer⟩

/-- **The orders are offered one after the other**: the search breaks off at the first that leaps. -/
lemma surveyed_foldl (hne : regions ≠ []) {os : List (Array Nat)}
    (hos : ∀ o ∈ os, o.toList.Perm (List.range regions.length)) :
    let found := os.foldl (fun best o => best.bind (Best.offer (costMatrix table regions.toArray) o))
      (some ⟨boundTotal, Array.range regions.length⟩)
    (found = none ↔ ∃ before order after, os.map Array.toList = before ++ order :: after ∧
      Leaps (leastOf table regions before) (table.steps (inOrder regions order))) ∧
    ∀ b, found = some b → Surveyed table regions (os.map Array.toList) b := by
  induction os using List.reverseRecOn with
  | nil =>
      refine ⟨by simp, fun b hb => ?_⟩
      cases hb
      exact ⟨rfl, Or.inl rfl⟩
  | append_singleton os o ih =>
      obtain ⟨hnone, hsome⟩ := ih fun o ho => hos o (List.mem_append_left _ ho)
      have horder := hos o (List.mem_append_right _ (List.mem_singleton_self o))
      intro found
      -- the first that leaps is one of the orders before the last, or the last
      rw [List.map_append, List.map_singleton, exists_split_concat, ← hnone]
      simp only [found, List.foldl_append, List.foldl_cons, List.foldl_nil]
      cases hfound : os.foldl _ _ with
      | none => simp
      | some b =>
          have hsurvey := hsome b hfound
          rw [Option.bind_some, offer_eq_none_iff horder, hsurvey.total]
          exact ⟨by simp, fun b' hb' => hsurvey.offer hne horder hb'⟩

end Survey

/-! ## The result of the search -/

/-- **What the search comes to.** -/
lemma surveyed_cheapestOrder (table : Latency) {regions : List Region} (hne : regions ≠ []) :
    (cheapestOrder table regions = none ↔ Overflows table regions) ∧
      ∀ order, cheapestOrder table regions = some order →
        ∃ b : Best, b.order.toList = order ∧ Surveyed table regions (ordersOf regions) b := by
  have hvisited : ∀ o ∈ visited (Array.range regions.length),
      o.toList.Perm (List.range regions.length) := fun o ho => by simpa using mem_visited_iff.1 ho
  obtain ⟨hnone, hsome⟩ := @surveyed_foldl table regions hne _ hvisited
  have hfound : cheapestOrder table regions = ((visited (Array.range regions.length)).foldl
      (fun best o => best.bind (Best.offer (costMatrix table regions.toArray) o))
      (some ⟨boundTotal, Array.range regions.length⟩)).map fun b => b.order.toList := by
    rw [cheapestOrder, permute_eq, visited_eq]
    simp
  rw [hfound, Option.map_eq_none_iff]
  refine ⟨hnone, fun order horder => ?_⟩
  obtain ⟨b, hb, rfl⟩ := Option.map_eq_some_iff.1 horder
  exact ⟨b, rfl, hsome b hb⟩

/-- Only an order whose cost is no word can break the search off. -/
lemma size_le_of_overflows {table : Latency} {regions : List Region} (h : Overflows table regions) :
    ∃ order : List Nat, order.Perm (List.range regions.length) ∧
      UInt32.size ≤ exactCost table regions order := by
  obtain ⟨before, order, after, hsplit, hleaps⟩ := h
  exact ⟨order, mem_ordersOf.1 (hsplit ▸ by simp), hleaps.size_le⟩

/-- **When the search finds the cheapest order**: if and only if no order leaps, and so whenever the cost of
every order is a word; and it never finds another. -/
theorem firstCheapest_cheapestOrder_iff (table : Latency) {regions : List Region}
    (hne : regions ≠ []) (hcheap : ∃ order : List Nat, order.Perm (List.range regions.length) ∧
      exactCost table regions order < UInt32.size - 1) :
    ((∃ order, cheapestOrder table regions = some order ∧ FirstCheapest table regions order) ↔
      ¬ Overflows table regions) ∧
    (∀ order, cheapestOrder table regions = some order → FirstCheapest table regions order) ∧
    (Overflows table regions → ∃ order : List Nat, order.Perm (List.range regions.length) ∧
      UInt32.size ≤ exactCost table regions order) := by
  obtain ⟨hnone, hsome⟩ := surveyed_cheapestOrder table hne
  have hfirst : ∀ order, cheapestOrder table regions = some order →
      FirstCheapest table regions order := by
    intro order horder
    obtain ⟨b, rfl, hsurvey⟩ := hsome order horder
    obtain ⟨cheap, hcheap, hcost⟩ := hcheap
    have hleast (o : List Nat) (ho : o.Perm (List.range regions.length)) :
        b.total.toNat ≤ exactCost table regions o := hsurvey.total ▸ leastOf_le (mem_ordersOf.2 ho)
    rcases hsurvey.taken with hbound | ⟨before, after, hsplit, hexact, hdearer⟩
    · -- some order is cheap, so one was taken
      have hbelow := hleast cheap hcheap
      have hlargest : boundTotal.toNat = UInt32.size - 1 := by decide
      rw [hbound] at hbelow
      omega
    · exact ⟨cheapestOrder_perm horder, fun other hother => hexact ▸ hleast other hother, before, after,
        hsplit, fun other hother => hexact ▸ hdearer other hother⟩
  refine ⟨⟨?_, fun hfits => ?_⟩, hfirst, size_le_of_overflows⟩
  · rintro ⟨order, horder, -⟩ hover
    cases (hnone.2 hover).symm.trans horder
  · obtain ⟨order, horder⟩ := Option.ne_none_iff_exists'.1 (mt hnone.1 hfits)
    exact ⟨order, horder, hfirst order horder⟩

/-- Four members with the built-in costs, where no cost comes near a word. -/
theorem firstCheapest_of_four :
    let team := [.asia, .americas, .russia, .westernEurope]
    team ≠ [] ∧ [0, 1, 2, 3].Perm (List.range team.length) ∧
      exactCost .builtIn team [0, 1, 2, 3] < UInt32.size - 1 ∧
      cheapestOrder .builtIn team = some [0, 1, 3, 2] ∧ FirstCheapest .builtIn team [0, 1, 3, 2] := by
  intro team
  have hne : team ≠ [] := by decide
  have hperm : [0, 1, 2, 3].Perm (List.range team.length) := by decide
  have hcost : exactCost .builtIn team [0, 1, 2, 3] < UInt32.size - 1 := by decide +kernel
  have hfound : cheapestOrder .builtIn team = some [0, 1, 3, 2] := by decide +kernel
  exact ⟨hne, hperm, hcost, hfound,
    (firstCheapest_cheapestOrder_iff .builtIn hne ⟨_, hperm, hcost⟩).2.1 _ hfound⟩

/-! ## A cost that is no word -/

/-- Costs between three regions: half of what words can tell one way round, and one more than they can the
other. -/
def tooDear : Latency := ⟨#v[
  #v[0, 2147483648, 2147483647, 0, 0, 0, 0, 0],
  #v[0, 0, 0, 0, 0, 0, 0, 0],
  #v[0, 2147483649, 0, 0, 0, 0, 0, 0],
  #v[0, 0, 0, 0, 0, 0, 0, 0],
  #v[0, 0, 0, 0, 0, 0, 0, 0],
  #v[0, 0, 0, 0, 0, 0, 0, 0],
  #v[0, 0, 0, 0, 0, 0, 0, 0],
  #v[0, 0, 0, 0, 0, 0, 0, 0]]⟩

/-- **The search breaks off** on the dearer way round, though it has found the cheaper one before. -/
theorem not_firstCheapest_of_overflow :
    let team := [.americas, .westernEurope, .centralEurope]
    [0, 1, 2].Perm (List.range team.length) ∧ exactCost tooDear team [0, 1, 2] < UInt32.size - 1 ∧
      exactCost tooDear team [0, 2, 1] = UInt32.size ∧ cheapestOrder tooDear team = none := by
  intro team
  exact ⟨by decide, by decide +kernel, by decide +kernel, by decide +kernel⟩

end Team

end MixRounds
