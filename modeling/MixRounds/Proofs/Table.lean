import Mathlib.Data.List.Nodup
import MixRounds.Table

/-!
# How many entries a table has

A table that is looked up says nothing about the number of its entries.  Here it is said how that number
changes with the table, and the number of the entries whose value has some property.

Together with the list of its keys, what is looked up is the whole table (`ext_get?`).
-/

namespace MixRounds.Table

variable {κ α : Type} [DecidableEq κ]

lemma modifyIn_of_not_mem {k : κ} {es : List (κ × α)} (h : k ∉ es.map Prod.fst) (f : α → α) :
    modifyIn k f es = es := by
  refine (List.map_congr_left fun e he => ?_).trans (List.map_id es)
  have hne : e.1 ≠ k := fun heq => h (heq ▸ List.mem_map_of_mem he)
  simp [hne]

/-- Of the entries under different keys one is changed. -/
lemma countP_modifyIn {k : κ} {es : List (κ × α)} (hnodup : (es.map Prod.fst).Nodup) {a : α}
    (h : lookupIn k es = some a) (f : α → α) (p : α → Bool) :
    (modifyIn k f es).countP (fun e => p e.2) + (p a).toNat
      = es.countP (fun e => p e.2) + (p (f a)).toNat := by
  induction es with
  | nil => cases h
  | cons e rest ih =>
      obtain ⟨k', b⟩ := e
      rw [List.map_cons, List.nodup_cons] at hnodup
      rw [lookupIn] at h
      have hcons : modifyIn k f ((k', b) :: rest)
          = (if k' = k then (k', f b) else (k', b)) :: modifyIn k f rest := rfl
      rw [hcons]
      split at h
      · rename_i hk
        subst hk
        cases h
        rw [modifyIn_of_not_mem hnodup.1, if_pos rfl, List.countP_cons, List.countP_cons]
        cases p a <;> cases p (f a) <;> simp
      · rename_i hk
        have hrest := ih hnodup.2 h
        rw [if_neg hk, List.countP_cons, List.countP_cons]
        omega

/-- **A value is changed**, and counts as what it is now. -/
theorem count_modify {t : Table κ α} {k : κ} {a : α} (h : t.get? k = some a) (f : α → α) (p : α → Bool) :
    (t.modify k f).count p + (p a).toNat = t.count p + (p (f a)).toNat :=
  countP_modifyIn t.keys_nodup h f p

lemma entries_insert {t : Table κ α} {k : κ} (h : t.get? k = none) (a : α) :
    (t.insert k a).entries = t.entries ++ [(k, a)] := by
  rw [insert, dif_neg (get?_eq_none_iff.1 h)]

/-- **A new entry** is one more. -/
theorem size_insert {t : Table κ α} {k : κ} (h : t.get? k = none) (a : α) :
    (t.insert k a).size = t.size + 1 := by
  rw [size, entries_insert h, List.length_append]
  rfl

theorem count_insert {t : Table κ α} {k : κ} (h : t.get? k = none) (a : α) (p : α → Bool) :
    (t.insert k a).count p = t.count p + (p a).toNat := by
  rw [count, entries_insert h, List.countP_append, List.countP_singleton]
  cases p a <;> rfl

/-- **An entry that is removed** is one less. -/
theorem size_erase {t : Table κ α} {k : κ} {a : α} (h : t.get? k = some a) :
    (t.erase k).size + 1 = t.size := by
  have hkeys : (t.erase k).keys = t.keys.erase k := by
    rw [t.nodup_keys.erase_eq_filter, keys, erase, keys, List.filter_map]
    refine congrArg (List.map Prod.fst) (List.filter_congr fun e _ => ?_)
    simp [bne, beq_eq_decide]
  have hmem : k ∈ t.keys := mem_keys_iff.2 ⟨a, h⟩
  rw [← length_keys, ← length_keys, hkeys, List.length_erase_of_mem hmem]
  have := List.length_pos_of_mem hmem
  omega

/-- An entry is found under its key. -/
lemma get?_of_mem {t : Table κ α} {e : κ × α} (h : e ∈ t.entries) : t.get? e.1 = some e.2 := by
  have hin : ∀ es : List (κ × α), (es.map Prod.fst).Nodup → e ∈ es → lookupIn e.1 es = some e.2 := by
    intro es hnodup hmem
    induction es with
    | nil => cases hmem
    | cons e' rest ih =>
        rw [List.map_cons, List.nodup_cons] at hnodup
        rcases List.mem_cons.1 hmem with rfl | hmem
        · simp [lookupIn]
        · have hne : e'.1 ≠ e.1 := fun heq => hnodup.1 (heq ▸ List.mem_map_of_mem hmem)
          simp [lookupIn, hne, ih hnodup.2 hmem]
  exact hin t.entries t.keys_nodup h

/-- A table in which nothing is found has no entries. -/
lemma entries_of_forall {t : Table κ α} (h : ∀ k, t.get? k = none) : t.entries = [] := by
  refine List.eq_nil_iff_forall_not_mem.2 fun e he => ?_
  exact get?_eq_none_iff.1 (h e.1) (List.mem_map_of_mem he)

/-- Tables that list the same keys in the same order, with the same values, are one table. -/
lemma ext_get? {t u : Table κ α} (hkeys : t.keys = u.keys)
    (hget : ∀ k, t.get? k = u.get? k) : t = u := by
  have hentries : ∀ es fs : List (κ × α), (es.map Prod.fst).Nodup →
      es.map Prod.fst = fs.map Prod.fst → (∀ k, lookupIn k es = lookupIn k fs) → es = fs := by
    intro es fs hnodup
    induction es generalizing fs with
    | nil => intro hfst _; exact (List.map_eq_nil_iff.1 hfst.symm).symm
    | cons e rest ih =>
        intro hfst hlookup
        obtain ⟨k, a⟩ := e
        cases fs with
        | nil => cases hfst
        | cons f rest' =>
            obtain ⟨k', b⟩ := f
            rw [List.map_cons, List.map_cons, List.cons.injEq] at hfst
            obtain ⟨hk, hrest⟩ := hfst
            obtain rfl : k = k' := hk
            rw [List.map_cons, List.nodup_cons] at hnodup
            have hhead := hlookup k
            simp only [lookupIn, if_true, Option.some.injEq] at hhead
            obtain rfl : a = b := hhead
            refine congrArg _ (ih rest' hnodup.2 hrest fun j => ?_)
            by_cases hj : k = j
            · subst hj
              rw [lookupIn_eq_none_iff.2 hnodup.1, lookupIn_eq_none_iff.2 (hrest ▸ hnodup.1)]
            · simpa [lookupIn, hj] using hlookup j
  obtain ⟨es, hes⟩ := t
  obtain ⟨fs, hfs⟩ := u
  obtain rfl : es = fs := hentries es fs hes hkeys hget
  rfl

/-- Changes that do the same to the value are the same. -/
lemma modify_congr {t : Table κ α} {k : κ} {f g : α → α} (h : ∀ a, t.get? k = some a → f a = g a) :
    t.modify k f = t.modify k g := by
  refine ext_get? ((keys_modify t k f).trans (keys_modify t k g).symm) fun j => ?_
  rw [get?_modify, get?_modify]
  split
  · rename_i hj
    rw [hj]
    exact Option.map_congr fun a ha => h a ha
  · rfl

/-- A value that is written again changes nothing. -/
lemma modify_eq_self {t : Table κ α} {k : κ} {a : α} {f : α → α} (hget : t.get? k = some a) (hf : f a = a) :
    t.modify k f = t := by
  refine ext_get? (keys_modify t k f) fun j => ?_
  rw [get?_modify]
  split
  · rename_i hj
    rw [hj, hget, Option.map_some, hf]
  · rfl

end MixRounds.Table
