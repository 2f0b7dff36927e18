/-!
# Finite maps kept in order of arrival

The node registry, the round map and the list of teams on their way to the starter are all finite
maps.  What answers show of them never depends on hashing, so a map is the list of its entries in
order of arrival, and no key occurs twice — the proof of that travels with the list.

Everything else reads a table through `Table.get?` and `Table.keys`: the lemmas below say what
each operation does to these two views (`get?_modify`, `get?_insert`, `get?_erase`, and their
companions for `keys`), and after them nobody needs the list again.
-/

namespace MixRounds

/-- A finite map as the list of its entries; no key occurs twice. -/
structure Table (κ α : Type) where
  entries : List (κ × α)
  keys_nodup : (entries.map Prod.fst).Nodup

namespace Table

variable {κ α : Type}

/-- The table without entries. -/
def empty : Table κ α := ⟨[], List.nodup_nil⟩

instance : Inhabited (Table κ α) := ⟨empty⟩

/-- The keys in order of arrival. -/
def keys (t : Table κ α) : List κ := t.entries.map Prod.fst

/-- The number of entries. -/
def size (t : Table κ α) : Nat := t.entries.length

/-- Whether the table has no entry. -/
def isEmpty (t : Table κ α) : Bool := t.entries.isEmpty

theorem nodup_keys (t : Table κ α) : t.keys.Nodup := t.keys_nodup

@[simp] theorem keys_empty : (empty : Table κ α).keys = [] := rfl

@[simp] theorem length_keys (t : Table κ α) : t.keys.length = t.size := by simp [keys, size]

/-! ## Looking up -/

variable [DecidableEq κ]

/-- The value of the first entry under `k`. -/
def lookupIn (k : κ) : List (κ × α) → Option α
  | [] => none
  | (k', a) :: rest => if k' = k then some a else lookupIn k rest

/-- The value stored under `k`. -/
def get? (t : Table κ α) (k : κ) : Option α := lookupIn k t.entries

/-- Whether `k` has a value. -/
def contains (t : Table κ α) (k : κ) : Bool := (t.get? k).isSome

@[simp] theorem get?_empty (k : κ) : (empty : Table κ α).get? k = none := rfl

theorem lookupIn_eq_none_iff {k : κ} {es : List (κ × α)} :
    lookupIn k es = none ↔ k ∉ es.map Prod.fst := by
  induction es with
  | nil => simp [lookupIn]
  | cons e rest ih =>
      obtain ⟨k', a⟩ := e
      by_cases h : k' = k
      · simp [lookupIn, h]
      · simp [lookupIn, h, ih, Ne.symm h]

/-- A key is listed exactly when it can be looked up. -/
theorem mem_keys_iff {t : Table κ α} {k : κ} : k ∈ t.keys ↔ ∃ a, t.get? k = some a := by
  have h : lookupIn k t.entries = none ↔ k ∉ t.entries.map Prod.fst := lookupIn_eq_none_iff
  constructor
  · intro hk
    cases hg : t.get? k with
    | none => exact absurd hk (h.1 hg)
    | some a => exact ⟨a, rfl⟩
  · rintro ⟨a, ha⟩
    refine Classical.byContradiction fun hk => ?_
    have := h.2 hk
    rw [show lookupIn k t.entries = t.get? k from rfl, ha] at this
    cases this

theorem get?_eq_none_iff {t : Table κ α} {k : κ} : t.get? k = none ↔ k ∉ t.keys :=
  lookupIn_eq_none_iff

/-! ## Changing a value -/

/-- The entries with the value under `k` replaced by its image under `f`. -/
def modifyIn (k : κ) (f : α → α) (es : List (κ × α)) : List (κ × α) :=
  es.map fun e => if e.1 = k then (e.1, f e.2) else e

theorem keys_modifyIn (k : κ) (f : α → α) (es : List (κ × α)) :
    (modifyIn k f es).map Prod.fst = es.map Prod.fst := by
  rw [modifyIn, List.map_map]
  refine List.map_congr_left fun e _ => ?_
  simp only [Function.comp]
  split <;> rfl

theorem lookupIn_modifyIn (k j : κ) (f : α → α) (es : List (κ × α)) :
    lookupIn j (modifyIn k f es) =
      if j = k then (lookupIn j es).map f else lookupIn j es := by
  induction es with
  | nil => simp [modifyIn, lookupIn]
  | cons e rest ih =>
      obtain ⟨k', a⟩ := e
      simp only [modifyIn, List.map_cons] at ih ⊢
      by_cases hk : k' = k
      · subst hk
        by_cases hj : k' = j
        · subst hj; simp [lookupIn]
        · simp [lookupIn, hj, Ne.symm hj, ih]
      · by_cases hj : k' = j
        · subst hj; simp [lookupIn, hk]
        · simp [lookupIn, hk, hj, ih]

/-- Apply `f` to the value under `k`; without such a value nothing changes. -/
def modify (t : Table κ α) (k : κ) (f : α → α) : Table κ α :=
  ⟨modifyIn k f t.entries, by rw [keys_modifyIn]; exact t.keys_nodup⟩

@[simp] theorem keys_modify (t : Table κ α) (k : κ) (f : α → α) : (t.modify k f).keys = t.keys :=
  keys_modifyIn k f t.entries

@[simp] theorem size_modify (t : Table κ α) (k : κ) (f : α → α) : (t.modify k f).size = t.size := by
  rw [← length_keys, keys_modify, length_keys]

theorem get?_modify (t : Table κ α) (k j : κ) (f : α → α) :
    (t.modify k f).get? j = if j = k then (t.get? j).map f else t.get? j :=
  lookupIn_modifyIn k j f t.entries

@[simp] theorem get?_modify_self (t : Table κ α) (k : κ) (f : α → α) :
    (t.modify k f).get? k = (t.get? k).map f := by simp [get?_modify]

theorem get?_modify_of_ne (t : Table κ α) {k j : κ} (h : j ≠ k) (f : α → α) :
    (t.modify k f).get? j = t.get? j := by simp [get?_modify, h]

/-! ## Adding and removing -/

theorem lookupIn_append (k : κ) (es fs : List (κ × α)) :
    lookupIn k (es ++ fs) = (lookupIn k es).or (lookupIn k fs) := by
  induction es with
  | nil => simp [lookupIn]
  | cons e rest ih =>
      obtain ⟨k', a⟩ := e
      by_cases h : k' = k <;> simp [lookupIn, h, ih]

/-- Store `a` under `k`: in the place of the old value, or as the last entry. -/
def insert (t : Table κ α) (k : κ) (a : α) : Table κ α :=
  if h : k ∈ t.keys then t.modify k fun _ => a
  else ⟨t.entries ++ [(k, a)], by
    have hk : k ∉ t.entries.map Prod.fst := h
    have hn := t.keys_nodup
    simp only [List.map_append, List.map_cons, List.map_nil, List.nodup_append, hn,
      List.nodup_cons, List.not_mem_nil, not_false_eq_true, List.nodup_nil, List.mem_singleton,
      true_and]
    intro a ha b hb
    exact fun hab => hk (hb ▸ hab ▸ ha)⟩

theorem get?_insert (t : Table κ α) (k j : κ) (a : α) :
    (t.insert k a).get? j = if j = k then some a else t.get? j := by
  unfold insert
  by_cases h : k ∈ t.keys
  · obtain ⟨b, hb⟩ := mem_keys_iff.1 h
    by_cases hj : j = k
    · subst hj; simp [h, hb]
    · simp [h, hj, get?_modify_of_ne]
  · have hn : t.get? k = none := get?_eq_none_iff.2 h
    simp only [h, dite_false, get?, lookupIn_append]
    by_cases hj : j = k
    · subst hj
      rw [show lookupIn j t.entries = none from hn]
      simp [lookupIn]
    · simp [lookupIn, hj, Ne.symm hj]

theorem keys_insert (t : Table κ α) (k : κ) (a : α) :
    (t.insert k a).keys = if k ∈ t.keys then t.keys else t.keys ++ [k] := by
  unfold insert
  by_cases h : k ∈ t.keys
  · simp [h]
  · rw [dif_neg h, if_neg h]
    simp [keys]

theorem mem_keys_insert {t : Table κ α} {k j : κ} {a : α} :
    j ∈ (t.insert k a).keys ↔ j = k ∨ j ∈ t.keys := by
  rw [keys_insert]
  split
  · rename_i h
    constructor
    · exact Or.inr
    · rintro (rfl | hj)
      · exact h
      · exact hj
  · simp [or_comm]

/-- Remove the entry under `k`. -/
def erase (t : Table κ α) (k : κ) : Table κ α :=
  ⟨t.entries.filter fun e => e.1 ≠ k,
    (t.keys_nodup.sublist (List.Sublist.map Prod.fst List.filter_sublist))⟩

theorem lookupIn_filter_ne (k j : κ) (es : List (κ × α)) :
    lookupIn j (es.filter fun e => e.1 ≠ k) = if j = k then none else lookupIn j es := by
  induction es with
  | nil => simp [lookupIn]
  | cons e rest ih =>
      obtain ⟨k', a⟩ := e
      by_cases hk : k' = k
      · subst hk
        by_cases hj : j = k'
        · subst hj; simpa [lookupIn] using ih
        · simpa [lookupIn, hj, Ne.symm hj] using ih
      · by_cases hj : k' = j
        · subst hj; simp [lookupIn, hk]
        · simpa [lookupIn, hk, hj] using ih

theorem get?_erase (t : Table κ α) (k j : κ) :
    (t.erase k).get? j = if j = k then none else t.get? j :=
  lookupIn_filter_ne k j t.entries

theorem mem_keys_erase {t : Table κ α} {k j : κ} : j ∈ (t.erase k).keys ↔ j ≠ k ∧ j ∈ t.keys := by
  rw [mem_keys_iff, mem_keys_iff, get?_erase]
  by_cases h : j = k <;> simp [h]

/-- The entries whose value satisfies `p`, as a count. -/
def count (t : Table κ α) (p : α → Bool) : Nat := t.entries.countP fun e => p e.2

end Table

end MixRounds
