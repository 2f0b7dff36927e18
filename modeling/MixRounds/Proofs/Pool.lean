import Mathlib.Data.List.Nodup
import Mathlib.Data.List.Perm.Basic
import MixRounds.Pool

/-!
# The waiting pool as a set

Two views of the pool are enough for everything that is proved about a scheduler: which nodes are
in it at all (`v ∈ p`), and that its two lists are sets which have nothing in common
(`Pool.Tidy`).  Every operation is described here by what it does to these two, and nobody opens
the lists again.

The sweep and the return of a swept node also write to the registry.  What they write is stated
beside them: a swept node loses the round it may hold, a restored one keeps its own.
-/

namespace MixRounds

/-! ## Changing several entries of a table -/

/-- A change that has no further effect the second time can be made entry by entry. -/
lemma Table.get?_foldl_modify {κ α : Type} [DecidableEq κ] {f : α → α} (hf : ∀ a, f (f a) = f a)
    (keys : List κ) (t : Table κ α) (j : κ) :
    (keys.foldl (fun t k => t.modify k f) t).get? j
      = if j ∈ keys then (t.get? j).map f else t.get? j := by
  induction keys generalizing t with
  | nil => simp
  | cons k rest ih =>
      rw [List.foldl_cons, ih, Table.get?_modify]
      by_cases hk : j = k
      · subst hk
        by_cases hr : j ∈ rest <;> simp [hr, hf, Function.comp_def]
      · by_cases hr : j ∈ rest <;> simp [hk, hr]

namespace Pool

/-- A node is in the pool if it is in one of its sets. -/
instance : Membership NodeId Pool := ⟨fun p v => v ∈ p.online ∨ v ∈ p.offline⟩

lemma mem_def {p : Pool} {v : NodeId} : v ∈ p ↔ v ∈ p.online ∨ v ∈ p.offline := Iff.rfl

/-- The two lists are sets, and they are disjoint. -/
structure Tidy (p : Pool) : Prop where
  online : p.online.Nodup
  offline : p.offline.Nodup
  apart : ∀ v ∈ p.online, v ∉ p.offline

@[simp] lemma not_mem_empty (v : NodeId) : v ∉ Pool.empty := by simp [mem_def, Pool.empty]

lemma tidy_empty : Pool.empty.Tidy := ⟨List.nodup_nil, List.nodup_nil, by simp [Pool.empty]⟩

lemma nodup_including {v : NodeId} {ids : List NodeId} (h : ids.Nodup) :
    (including v ids).Nodup := by
  rw [including]
  split
  · exact h
  · rename_i hv
    exact List.Nodup.append h (List.nodup_singleton v) (by simpa using hv)

/-! ## One node -/

lemma mem_add {p : Pool} {v j : NodeId} : j ∈ p.add v ↔ j = v ∨ j ∈ p := by
  simp only [mem_def, add, mem_including, mem_without]
  by_cases h : j = v <;> simp [h]

lemma Tidy.add {p : Pool} (h : p.Tidy) (v : NodeId) : (p.add v).Tidy where
  online := nodup_including h.online
  offline := h.offline.filter _
  apart j hj := by
    simp only [Pool.add, mem_including, mem_without] at hj ⊢
    rcases hj with rfl | hj
    · simp
    · exact fun hoff => h.apart j hj hoff.1

lemma mem_remove {p : Pool} {v j : NodeId} : j ∈ (p.remove v).2 ↔ j ∈ p ∧ j ≠ v := by
  simp only [mem_def, remove, mem_without]
  tauto

lemma Tidy.remove {p : Pool} (h : p.Tidy) (v : NodeId) : (p.remove v).2.Tidy where
  online := h.online.filter _
  offline := h.offline.filter _
  apart j hj := by
    simp only [Pool.remove, mem_without] at hj ⊢
    exact fun hoff => h.apart j hj.1 hoff.1

/-! ## Several nodes -/

lemma mem_foldl_including {ids base : List NodeId} {j : NodeId} :
    j ∈ ids.foldl (fun ids v => including v ids) base ↔ j ∈ ids ∨ j ∈ base := by
  induction ids generalizing base with
  | nil => simp
  | cons v rest ih =>
      rw [List.foldl_cons, ih, mem_including, List.mem_cons]
      tauto

lemma mem_foldl_add {ids : List NodeId} {p : Pool} {j : NodeId} :
    j ∈ ids.foldl Pool.add p ↔ j ∈ ids ∨ j ∈ p := by
  induction ids generalizing p with
  | nil => simp
  | cons v rest ih =>
      rw [List.foldl_cons, ih, mem_add, List.mem_cons]
      tauto

/-- Whoever is put back is online. -/
lemma mem_online_foldl_add {ids : List NodeId} {p : Pool} {v : NodeId} :
    v ∈ (ids.foldl add p).online ↔ v ∈ ids ∨ v ∈ p.online := by
  induction ids generalizing p with
  | nil => simp
  | cons u rest ih =>
      rw [List.foldl_cons, ih, List.mem_cons]
      simp only [add, mem_including]
      tauto

/-- The others stay where they are. -/
lemma mem_foldl_add_of_not_mem {ids : List NodeId} {v : NodeId} (hv : v ∉ ids) (p : Pool) :
    (v ∈ (ids.foldl add p).offline ↔ v ∈ p.offline) ∧ (v ∈ (ids.foldl add p).online ↔ v ∈ p.online) := by
  induction ids generalizing p with
  | nil => exact ⟨Iff.rfl, Iff.rfl⟩
  | cons u rest ih =>
      obtain ⟨hne, hrest⟩ := not_or.1 (mt List.mem_cons.2 hv)
      have hone : (v ∈ (p.add u).offline ↔ v ∈ p.offline) ∧ (v ∈ (p.add u).online ↔ v ∈ p.online) := by
        simp [add, mem_without, mem_including, hne]
      obtain ⟨hoffline, honline⟩ := ih hrest (p.add u)
      exact ⟨hoffline.trans hone.1, honline.trans hone.2⟩

lemma nodup_foldl_including {ids base : List NodeId} (h : base.Nodup) :
    (ids.foldl (fun ids v => including v ids) base).Nodup := by
  induction ids generalizing base with
  | nil => exact h
  | cons v rest ih => exact ih (nodup_including h)

/-- Names that are new are listed after the others. -/
lemma foldl_including_of_not_mem {ids base : List NodeId} (hnodup : ids.Nodup)
    (hnew : ∀ v ∈ ids, v ∉ base) : ids.foldl (fun ids v => including v ids) base = base ++ ids := by
  induction ids generalizing base with
  | nil => simp
  | cons v rest ih =>
      obtain ⟨hv, hrest⟩ := List.nodup_cons.1 hnodup
      have hhead : including v base = base ++ [v] := if_neg (hnew v List.mem_cons_self)
      have hlater : ∀ u ∈ rest, u ∉ base ++ [v] := by
        intro u hu hin
        rcases List.mem_append.1 hin with hin | hin
        · exact hnew u (List.mem_cons_of_mem v hu) hin
        · exact hv (List.mem_singleton.1 hin ▸ hu)
      rw [List.foldl_cons, hhead, ih hrest hlater, List.append_assoc, List.singleton_append]

/-- Nodes from outside come online after the others. -/
lemma foldl_add_of_not_mem {ids : List NodeId} {p : Pool} (hnodup : ids.Nodup)
    (hnew : ∀ v ∈ ids, v ∉ p) : ids.foldl Pool.add p = { p with online := p.online ++ ids } := by
  have hsplit : ∀ (ids : List NodeId) (p : Pool), (∀ v ∈ ids, v ∉ p.offline) →
      ids.foldl Pool.add p = ⟨ids.foldl (fun ids v => including v ids) p.online, p.offline⟩ := by
    intro ids
    induction ids with
    | nil => exact fun _ _ => rfl
    | cons v rest ih =>
        intro p hoffline
        have hv : p.add v = ⟨including v p.online, p.offline⟩ := by
          rw [add, without, List.filter_eq_self.2]
          intro u hu
          exact decide_eq_true fun heq => hoffline v List.mem_cons_self (heq ▸ hu)
        rw [List.foldl_cons, List.foldl_cons, hv]
        exact ih _ fun u hu => hoffline u (List.mem_cons_of_mem v hu)
  rw [hsplit ids p fun v hv hin => hnew v hv (Or.inr hin),
    foldl_including_of_not_mem hnodup fun v hv hin => hnew v hv (Or.inl hin)]

/-! ## The pick -/

section Pick

variable {p pool : Pool} {threshold n : Nat} {isDisabled : NodeId → Bool} {chance : Shuffle}
  {picked : List NodeId}

/-- The picked nodes were online, and they alone leave. -/
lemma leaves_of_pick (h : p.pick threshold n isDisabled chance = .ok (picked, pool)) :
    (∀ v ∈ picked, v ∈ p.online) ∧
      pool = { p with online := p.online.filter fun v => v ∉ picked } := by
  simp only [pick] at h
  split at h
  · cases h
  · cases h
    refine ⟨fun v hv => ?_, rfl⟩
    have hmem : v ∈ p.eligible isDisabled :=
      (chance.perm (p.eligible isDisabled)).mem_iff.1 (List.mem_of_mem_take hv)
    exact (List.mem_filter.1 hmem).1

/-- **What a pick is.**  The picked nodes are distinct online nodes, and they alone leave. -/
lemma pick_spec (hp : p.Tidy) (h : p.pick threshold n isDisabled chance = .ok (picked, pool)) :
    picked.Nodup ∧ (∀ v ∈ picked, v ∈ p.online) ∧
      pool = { p with online := p.online.filter fun v => v ∉ picked } := by
  refine ⟨?_, leaves_of_pick h⟩
  simp only [pick] at h
  split at h
  · cases h
  · cases h
    have hnodup : (p.eligible isDisabled).Nodup := hp.online.filter _
    exact (List.take_sublist _ _).nodup ((chance.perm _).nodup_iff.2 hnodup)

/-- As many are picked as were asked for. -/
lemma length_of_pick (h : p.pick threshold n isDisabled chance = .ok (picked, pool)) :
    picked.length = n := by
  simp only [pick] at h
  split at h
  · cases h
  · rename_i hmany
    cases h
    rw [List.length_take, (chance.perm (p.eligible isDisabled)).length_eq]
    omega

/-- Who is picked, and who stays, was in the pool. -/
lemma mem_of_pick (h : p.pick threshold n isDisabled chance = .ok (picked, pool)) {v : NodeId}
    (hv : v ∈ picked ∨ v ∈ pool) : v ∈ p := by
  obtain ⟨honline, rfl⟩ := leaves_of_pick h
  rcases hv with hv | hv | hv
  · exact Or.inl (honline v hv)
  · exact Or.inl (List.mem_filter.1 hv).1
  · exact Or.inr hv

lemma offline_of_pick (h : p.pick threshold n isDisabled chance = .ok (picked, pool)) :
    pool.offline = p.offline := by
  rw [(leaves_of_pick h).2]

end Pick

lemma Tidy.leave {p : Pool} (h : p.Tidy) (picked : List NodeId) :
    ({ p with online := p.online.filter fun v => v ∉ picked } : Pool).Tidy where
  online := h.online.filter _
  offline := h.offline
  apart j hj := h.apart j (List.mem_filter.1 hj).1

lemma mem_leave {p : Pool} (h : p.Tidy) {picked : List NodeId} (hpicked : ∀ v ∈ picked, v ∈ p.online)
    {j : NodeId} :
    j ∈ ({ p with online := p.online.filter fun v => v ∉ picked } : Pool) ↔ j ∈ p ∧ j ∉ picked := by
  simp only [mem_def, List.mem_filter, decide_eq_true_eq]
  constructor
  · rintro (⟨hj, hn⟩ | hj)
    · exact ⟨Or.inl hj, hn⟩
    · exact ⟨Or.inr hj, fun hp => h.apart j (hpicked j hp) hj⟩
  · rintro ⟨hj | hj, hn⟩
    · exact Or.inl ⟨hj, hn⟩
    · exact Or.inr hj

/-! ## The sweep -/

lemma sweptNode_sweptNode (n : Node) : sweptNode (sweptNode n) = sweptNode n := by
  obtain ⟨_, status, _, _, _, _, _, _⟩ := n
  cases status <;> rfl

section Sweep

variable (p : Pool) (nodes : Table NodeId Node) (now : Instant) (timeout seconds : Nat)

/-- The sweep moves nodes from one set to the other; none comes or goes. -/
lemma mem_sweepAfter {j : NodeId} : j ∈ (p.sweepAfter nodes now timeout).2.1 ↔ j ∈ p := by
  simp only [mem_def, sweepAfter, List.mem_filter, decide_eq_true_eq, mem_foldl_including]
  by_cases hm : j ∈ p.staleAfter nodes now timeout
  · have hon : j ∈ p.online := (List.mem_filter.1 hm).1
    simp [hm, hon]
  · simp [hm]

lemma mem_sweep {j : NodeId} : j ∈ (p.sweep nodes now seconds).2.1 ↔ j ∈ p :=
  mem_sweepAfter p nodes now _

variable {p} in
lemma Tidy.sweepAfter (h : p.Tidy) : (p.sweepAfter nodes now timeout).2.1.Tidy where
  online := h.online.filter _
  offline := nodup_foldl_including h.offline
  apart j hj := by
    simp only [Pool.sweepAfter, List.mem_filter, decide_eq_true_eq, mem_foldl_including] at hj ⊢
    exact fun hoff => hoff.elim hj.2 (h.apart j hj.1)

variable {p} in
lemma Tidy.sweep (h : p.Tidy) : (p.sweep nodes now seconds).2.1.Tidy := h.sweepAfter nodes now _

/-- A node that is moved is changed, and no other is. -/
lemma get?_sweepAfter (j : NodeId) : (p.sweepAfter nodes now timeout).2.2.get? j
    = if j ∈ p.staleAfter nodes now timeout then (nodes.get? j).map sweptNode else nodes.get? j :=
  Table.get?_foldl_modify sweptNode_sweptNode _ nodes j

lemma get?_sweep (j : NodeId) : (p.sweep nodes now seconds).2.2.get? j
    = if j ∈ p.stale nodes now seconds then (nodes.get? j).map sweptNode else nodes.get? j :=
  get?_sweepAfter p nodes now _ j

end Sweep

end Pool

/-! ## The tracker -/

namespace Tracker

lemma mem_add {t : Tracker} {id j : RoundId} : j ∈ (t.add id).2 ↔ j = id ∨ j ∈ t := by
  rw [add]
  split
  · rename_i hid
    exact ⟨Or.inr, fun h => h.elim (fun heq => heq ▸ hid) fun hj => hj⟩
  · simp [or_comm]

lemma mem_remove {t : Tracker} {id j : RoundId} : j ∈ (t.remove id).2 ↔ j ∈ t ∧ j ≠ id := by
  rw [remove]
  split
  · simp
  · rename_i hid
    exact ⟨fun hj => ⟨hj, fun heq => hid (heq ▸ hj)⟩, And.left⟩

end Tracker

end MixRounds
