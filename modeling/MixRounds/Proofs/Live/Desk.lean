import Mathlib.Data.List.Nodup
import Mathlib.Data.List.Perm.Basic
import MixRounds.Proofs.Live.Scene

/-!
# Who has a node, and what for

A node changes hands: a caller takes it, a notification of it is queued, the loop applies the
notification.  Each of them has a claim on the node (`Claim`), and `Desk` is the picture of all claims,
with what the nodes do, and with the notifications that were made and applied.

`Desk.Sound` is the law of the hand-off.  A node is free exactly if nobody has a claim on it, and nobody
has a claim beside another; so the notification that a claim carries is the only one of its node that is
still to be applied, and until it is applied the node goes on doing what it says.  The changes of a node
that were made are those that were applied, followed by the one that is claimed, if any, and each begins
where the one before has ended.

Every operation on the desk keeps the law: taking a node, making a notification for a claim that has
none, passing a node on, giving it free with nothing to notify, and giving it free with a notification
applied.
-/

namespace MixRounds

namespace Notification

/-- Whether a notification is about a change of what the node `v` does. -/
def changes (v : NodeId) (n : Notification) : Bool := n.node = v ∧ n.fromActivity ≠ n.toActivity

/-- The changes of what the node `v` does. -/
def changesOf (v : NodeId) (ns : List Notification) : List Notification := ns.filter (changes v)

@[simp] lemma changesOf_nil (v : NodeId) : changesOf v [] = [] := rfl

@[simp] lemma changesOf_append (v : NodeId) (ns ms : List Notification) :
    changesOf v (ns ++ ms) = changesOf v ns ++ changesOf v ms := List.filter_append ns ms

lemma changesOf_cons (v : NodeId) (n : Notification) (ns : List Notification) :
    changesOf v (n :: ns) = changesOf v [n] ++ changesOf v ns :=
  changesOf_append v [n] ns

lemma changesOf_eq_nil {v : NodeId} {ns : List Notification} (h : ∀ n ∈ ns, n.node ≠ v) :
    changesOf v ns = [] := by
  refine List.filter_eq_nil_iff.2 fun n hn hchanges => ?_
  have hnode : n.node = v := (of_decide_eq_true hchanges).1
  exact h n hn hnode

/-- After the notifications of other nodes, a notification might as well come before them. -/
lemma changesOf_swap (v : NodeId) {n : Notification} {ns : List Notification}
    (h : ∀ m ∈ ns, m.node ≠ n.node) : changesOf v (ns ++ [n]) = changesOf v (n :: ns) := by
  rw [changesOf_append, changesOf_cons v n ns]
  by_cases hv : n.node = v
  · have hothers : changesOf v ns = [] := changesOf_eq_nil (hv ▸ h)
    rw [hothers, List.append_nil, List.nil_append]
  · have hnone : changesOf v [n] = [] := changesOf_eq_nil (by simpa using hv)
    rw [hnone, List.append_nil, List.nil_append]

/-- The notifications lead from one activity to another, one legal step after the other. -/
def Path : Activity → List Notification → Activity → Prop
  | a, [], b => a = b
  | a, n :: rest, b => n.fromActivity = a ∧ a.mayBecome n.toActivity = true ∧ Path n.toActivity rest b

lemma path_append {a c : Activity} {ns ms : List Notification} :
    Path a (ns ++ ms) c ↔ ∃ b, Path a ns b ∧ Path b ms c := by
  induction ns generalizing a with
  | nil => simp [Path]
  | cons n rest ih => simp only [List.cons_append, Path, ih, exists_and_left, and_assoc]

/-- A notification leads from the one activity it names to the other. -/
lemma path_changesOf {n : Notification}
    (hlegal : n.fromActivity = n.toActivity ∨ n.fromActivity.mayBecome n.toActivity = true) :
    Path n.fromActivity (changesOf n.node [n]) n.toActivity := by
  by_cases hsame : n.fromActivity = n.toActivity
  · have hnone : changesOf n.node [n] = [] := by simp [changesOf, changes, hsame]
    rw [hnone]
    exact hsame
  · have hone : changesOf n.node [n] = [n] := by simp [changesOf, changes, hsame]
    rw [hone]
    exact ⟨rfl, hlegal.resolve_left hsame, rfl⟩

end Notification

namespace Live

open Notification (changesOf Path)

/-- Nodes, and who has them. -/
structure Desk where
  /-- What a node does, and in whose hands it is. -/
  node : NodeId → Option (Activity × Handoff)
  claims : List Claim
  made : List Notification
  applied : List Notification

namespace Desk

/-- The notifications that are still to be applied. -/
def pending (σ : Desk) : List Notification := σ.claims.filterMap Claim.note?

/-- Put a node in a new state. -/
def put (σ : Desk) (v : NodeId) (a : Activity) (h : Handoff) : Desk :=
  { σ with node := fun j => if j = v then some (a, h) else σ.node j }

/-- Pass a node on. -/
def pass (σ : Desk) (v : NodeId) (f : Handoff → Handoff) : Desk :=
  { σ with node := fun j => if j = v then (σ.node j).map fun p => (p.1, f p.2) else σ.node j }

/-- **The law of the hand-off**, for nodes that did what `first` says at first. -/
structure Sound (first : NodeId → Option Activity) (σ : Desk) : Prop where
  released_iff : ∀ v a h, σ.node v = some (a, h) → (h = .released ↔ ∀ c ∈ σ.claims, c.node ≠ v)
  nodup : (σ.claims.map Claim.node).Nodup
  /-- A node does what the notification says that is made of it. -/
  current : ∀ n, .noted n ∈ σ.claims → ∃ h, σ.node n.node = some (n.toActivity, h)
  order : ∀ v, changesOf v σ.made = changesOf v σ.applied ++ changesOf v σ.pending
  path : ∀ v a, first v = some a → ∃ b h, σ.node v = some (b, h) ∧ Path a (changesOf v σ.made) b

variable {first : NodeId → Option Activity} {σ : Desk} {c : Claim} {rest : List Claim}

/-- Nobody is about to notify anything of a node that nobody has a claim on. -/
lemma ne_of_unclaimed {v : NodeId} {claims : List Claim} (h : ∀ c ∈ claims, c.node ≠ v) :
    ∀ n ∈ claims.filterMap Claim.note?, n.node ≠ v := by
  intro n hn
  obtain ⟨c, hc, hnote⟩ := List.mem_filterMap.1 hn
  cases c with
  | bare u => cases hnote
  | noted m =>
      cases hnote
      exact h _ hc

lemma ne_of_nodup {c : Claim} {rest : List Claim} (h : ((c :: rest).map Claim.node).Nodup) :
    ∀ c' ∈ rest, c'.node ≠ c.node := by
  rw [List.map_cons, List.nodup_cons] at h
  exact fun c' hc' heq => h.1 (heq ▸ List.mem_map_of_mem hc')

/-- Of one node at most one notification is claimed. -/
lemma length_changesOf_le {claims : List Claim} (h : (claims.map Claim.node).Nodup) (v : NodeId) :
    (changesOf v (claims.filterMap Claim.note?)).length ≤ 1 := by
  induction claims with
  | nil => simp
  | cons c rest ih =>
      have hrest := ih (List.nodup_cons.1 h).2
      cases c with
      | bare u => exact hrest
      | noted n =>
          show (changesOf v (n :: rest.filterMap Claim.note?)).length ≤ 1
          rw [Notification.changesOf_cons]
          by_cases hv : n.node = v
          · have hothers : changesOf v (rest.filterMap Claim.note?) = [] :=
              Notification.changesOf_eq_nil (ne_of_unclaimed (hv ▸ ne_of_nodup h))
            simp only [hothers, List.append_nil]
            exact List.length_filter_le _ _
          · have hnone : changesOf v [n] = [] := Notification.changesOf_eq_nil (by simpa using hv)
            simpa [hnone] using hrest

lemma eq_of_perm_of_length_le {α : Type} {l l' : List α} (hperm : l.Perm l') (h : l.length ≤ 1) :
    l = l' := by
  match l, h with
  | [], _ => exact (List.nil_perm.1 hperm).symm
  | [x], _ => exact List.singleton_perm.1 hperm

namespace Sound

/-- It does not matter in which order the claims are listed. -/
lemma perm (h : σ.Sound first) {claims : List Claim} (hperm : σ.claims.Perm claims) :
    { σ with claims := claims }.Sound first where
  released_iff v a hands hv := (h.released_iff v a hands hv).trans (by simp [hperm.mem_iff])
  nodup := (hperm.map Claim.node).nodup_iff.1 h.nodup
  current n hn := h.current n (hperm.mem_iff.2 hn)
  path := h.path
  order v := by
    have hsame : changesOf v σ.pending = changesOf v (claims.filterMap Claim.note?) :=
      eq_of_perm_of_length_le ((hperm.filterMap Claim.note?).filter _) (length_changesOf_le h.nodup v)
    rw [h.order v, hsame]
    rfl

/-- **A node is passed on** by someone who has it to someone who has it. -/
lemma pass (h : σ.Sound first) (v : NodeId) {f : Handoff → Handoff}
    (hf : ∀ hands, f hands = .released ↔ hands = .released) : (σ.pass v f).Sound first := by
  refine ⟨fun j a hands hj => ?_, h.nodup, fun n hn => ?_, h.order, fun j a hj => ?_⟩
  · dsimp only [Desk.pass] at hj
    split at hj
    · obtain ⟨⟨b, old⟩, hold, heq⟩ := Option.map_eq_some_iff.1 hj
      cases heq
      exact (hf old).trans (h.released_iff j b old hold)
    · exact h.released_iff j a hands hj
  · obtain ⟨hands, hn⟩ := h.current n hn
    dsimp only [Desk.pass]
    split
    · exact ⟨f hands, by simp [hn]⟩
    · exact ⟨hands, hn⟩
  · obtain ⟨b, hands, hb, hpath⟩ := h.path j a hj
    dsimp only [Desk.pass]
    split
    · exact ⟨b, f hands, by simp [hb], hpath⟩
    · exact ⟨b, hands, hb, hpath⟩

/-- **A free node is taken.** -/
lemma take (h : σ.Sound first) {v : NodeId} {a : Activity} (hfree : σ.node v = some (a, .released)) :
    { σ.put v a .locked with claims := .bare v :: σ.claims }.Sound first := by
  have hnone : ∀ c ∈ σ.claims, c.node ≠ v := (h.released_iff v a _ hfree).1 rfl
  refine ⟨fun j b hands hj => ?_, ?_, fun n hn => ?_, h.order, fun j b hj => ?_⟩
  · dsimp only [Desk.put] at hj
    split at hj
    · rename_i heq
      cases hj
      simp [heq, Claim.node]
    · rename_i hne
      rw [h.released_iff j b hands hj]
      simp [Claim.node, Ne.symm hne]
  · rw [List.map_cons, List.nodup_cons]
    refine ⟨fun hmem => ?_, h.nodup⟩
    obtain ⟨c, hc, heq⟩ := List.mem_map.1 hmem
    exact hnone c hc heq
  · have hn : .noted n ∈ σ.claims := by simpa using hn
    have hne : n.node ≠ v := hnone _ hn
    simpa [Desk.put, hne] using h.current n hn
  · obtain ⟨c, hands, hc, hpath⟩ := h.path j b hj
    dsimp only [Desk.put]
    split
    · rename_i heq
      rw [heq, hfree] at hc
      cases hc
      exact ⟨a, .locked, rfl, hpath⟩
    · exact ⟨c, hands, hc, hpath⟩

/-- **A notification is made** by someone who has the node and has made none; the node does what it says. -/
lemma note (h : σ.Sound first) {n : Notification} (hclaims : σ.claims = .bare n.node :: rest)
    {hands : Handoff} (hnode : σ.node n.node = some (n.fromActivity, hands))
    (hlegal : n.fromActivity = n.toActivity ∨ n.fromActivity.mayBecome n.toActivity = true) :
    { σ.put n.node n.toActivity hands with
      claims := .noted n :: rest, made := σ.made ++ [n] }.Sound first := by
  have hnodup := h.nodup
  rw [hclaims] at hnodup
  have hothers := ne_of_nodup hnodup
  refine ⟨fun j b hands' hj => ?_, hnodup, fun m hm => ?_, fun j => ?_, fun j b hj => ?_⟩
  · have hsame : (∀ c ∈ σ.claims, c.node ≠ j) ↔ ∀ c ∈ Claim.noted n :: rest, c.node ≠ j := by
      simp [hclaims, Claim.node]
    refine Iff.trans ?_ hsame
    dsimp only [Desk.put] at hj
    split at hj
    · rename_i heq
      cases hj
      exact h.released_iff _ _ _ (heq ▸ hnode)
    · exact h.released_iff j b hands' hj
  · rcases List.mem_cons.1 hm with heq | hm
    · cases heq
      exact ⟨hands, by simp [Desk.put]⟩
    · have hne : m.node ≠ n.node := hothers _ hm
      have hm : .noted m ∈ σ.claims := hclaims ▸ List.mem_cons_of_mem _ hm
      simpa [Desk.put, hne] using h.current m hm
  · have hpending : σ.pending = rest.filterMap Claim.note? := by
      rw [Desk.pending, hclaims]
      rfl
    have horder := h.order j
    rw [hpending] at horder
    -- the others who are about to notify something notify it of other nodes
    have hswap := Notification.changesOf_swap j (ne_of_unclaimed hothers)
    show changesOf j (σ.made ++ [n])
      = changesOf j σ.applied ++ changesOf j (n :: rest.filterMap Claim.note?)
    rw [← hswap, Notification.changesOf_append, Notification.changesOf_append, horder,
      List.append_assoc]
  · obtain ⟨c, hands', hc, hpath⟩ := h.path j b hj
    rw [Notification.changesOf_append]
    dsimp only [Desk.put]
    split
    · rename_i heq
      rw [heq, hnode] at hc
      cases hc
      have hlast := heq ▸ Notification.path_changesOf hlegal
      exact ⟨n.toActivity, hands, rfl, Notification.path_append.2 ⟨_, hpath, hlast⟩⟩
    · rename_i hne
      have hnone : changesOf j [n] = [] := Notification.changesOf_eq_nil (by simpa using Ne.symm hne)
      rw [hnone, List.append_nil]
      exact ⟨c, hands', hc, hpath⟩

/-- The node of the first claim is given free, and the claim is gone. -/
lemma free (h : σ.Sound first) (hclaims : σ.claims = c :: rest) {applied : List Notification}
    (happlied : σ.applied ++ c.note?.toList = applied) :
    { σ.pass c.node fun _ => .released with claims := rest, applied := applied }.Sound first := by
  have hnodup := h.nodup
  rw [hclaims] at hnodup
  have hothers := ne_of_nodup hnodup
  refine ⟨fun j b hands hj => ?_, (List.nodup_cons.1 hnodup).2, fun m hm => ?_, fun j => ?_,
    fun j b hj => ?_⟩
  · dsimp only [Desk.pass] at hj
    split at hj
    · rename_i heq
      obtain ⟨p, -, hp⟩ := Option.map_eq_some_iff.1 hj
      cases hp
      simpa [heq] using hothers
    · rename_i hne
      rw [h.released_iff j b hands hj]
      simp [hclaims, Ne.symm hne]
  · have hne : m.node ≠ c.node := hothers _ hm
    have hm : .noted m ∈ σ.claims := hclaims ▸ List.mem_cons_of_mem _ hm
    simpa [Desk.pass, hne] using h.current m hm
  · have horder := h.order j
    have hpending : σ.pending = c.note?.toList ++ rest.filterMap Claim.note? := by
      rw [Desk.pending, hclaims, List.filterMap_cons]
      cases c.note? <;> rfl
    rw [hpending, Notification.changesOf_append, ← List.append_assoc,
      ← Notification.changesOf_append, happlied] at horder
    exact horder
  · obtain ⟨a, hands, ha, hpath⟩ := h.path j b hj
    dsimp only [Desk.pass]
    split
    · exact ⟨a, .released, by simp [ha], hpath⟩
    · exact ⟨a, hands, ha, hpath⟩

end Sound

end Desk

end Live

end MixRounds
