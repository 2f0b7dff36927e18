import Mathlib.Data.List.Nodup
import MixRounds.Live.World

/-!
# What the loop has heard of a node

A node reports to the front, and the loop hears of it later.  In between the node is taken, so that no
node has two notifications on their way, and what the loop has last heard of it is what the
notification on its way says it was before.  `Mail` is this picture alone, `Mail.Heard` what the loop
has heard, and `Mail.Sound` what makes the two fit:

* no two notifications on their way are about one node, and the node of each is taken and has already
  changed as the notification says;
* every notification is a step of the activity cycle, or of a ban;
* as long as the loop runs, its queue is open.

From the side of the loop nothing happens to a node but one legal step after the other.  Every
operation below either leaves what was heard as it was (`Mail.Follows`), or delivers one notification
(`Mail.Delivers`); after the loop has ended, nothing is heard any more.
-/

namespace MixRounds

/-- A notification of an activity is a step of the cycle; one of a ban leaves the activity alone. -/
def Notification.IsLegal (n : Notification) : Prop :=
  if n.toStatus = .banned then n.fromActivity = n.toActivity
  else n.fromActivity.mayBecome n.toActivity = true

namespace Live

/-- The notifications on their way, and the nodes they are about. -/
structure Mail where
  /-- Whether the loop may still hear of anything. -/
  running : Prop
  /-- Whether the queue takes nothing more. -/
  closed : Prop
  messages : List Notification
  /-- What a node does, and who has it. -/
  node : NodeId → Option (Activity × Handoff)

namespace Mail

/-- The loop has last heard that the node `v` does `x`. -/
def Heard (σ : Mail) (v : NodeId) (x : Activity) : Prop :=
  σ.running ∧ ((∃ n ∈ σ.messages, n.node = v ∧ n.fromActivity = x) ∨
    (∀ n ∈ σ.messages, n.node ≠ v) ∧ ∃ h, σ.node v = some (x, h))

/-- What holds of notifications and nodes at all times. -/
structure Sound (σ : Mail) : Prop where
  nodup : (σ.messages.map Notification.node).Nodup
  taken : ∀ n ∈ σ.messages, ∃ h, σ.node n.node = some (n.toActivity, h) ∧ h ≠ .released
  legal : ∀ n ∈ σ.messages, n.IsLegal
  is_open : σ.running → ¬ σ.closed

/-- `τ` is a later picture in which the loop has heard nothing new. -/
structure Follows (σ τ : Mail) : Prop where
  sound : τ.Sound
  heard : ∀ v x, τ.Heard v x → σ.Heard v x

/-- `τ` is a later picture in which the loop has heard of one step, and of nothing else. -/
structure Delivers (σ τ : Mail) (n : Notification) : Prop where
  sound : τ.Sound
  legal : n.IsLegal
  before : σ.running → σ.Heard n.node n.fromActivity
  after : ∀ v x, τ.Heard v x → v = n.node ∧ x = n.toActivity ∨ v ≠ n.node ∧ σ.Heard v x

variable {σ τ ρ : Mail}

lemma Sound.follows (h : σ.Sound) : σ.Follows σ := ⟨h, fun _ _ => id⟩

lemma Follows.trans (h : σ.Follows τ) (h' : τ.Follows ρ) : σ.Follows ρ :=
  ⟨h'.sound, fun v x hx => h.heard v x (h'.heard v x hx)⟩

lemma Delivers.trans_follows {n : Notification} (h : σ.Delivers τ n) (h' : τ.Follows ρ) :
    σ.Delivers ρ n :=
  ⟨h'.sound, h.legal, h.before, fun v x hx => h.after v x (h'.heard v x hx)⟩

namespace Sound

lemma node_ne_of_released (h : σ.Sound) {v : NodeId} {a : Activity}
    (hfree : σ.node v = some (a, .released)) : ∀ n ∈ σ.messages, n.node ≠ v := by
  rintro n hn rfl
  obtain ⟨hands, hnode, htaken⟩ := h.taken n hn
  rw [hfree] at hnode
  cases hnode
  exact htaken rfl

/-- **A free node sends.**  It is taken, and the notification is the last on its way. -/
lemma post (h : σ.Sound) {n : Notification} (hlegal : n.IsLegal)
    (hfree : σ.node n.node = some (n.fromActivity, .released)) (hopen : ¬ σ.closed) :
    σ.Follows { σ with
      messages := σ.messages ++ [n]
      node := fun j => if j = n.node then some (n.toActivity, .locked) else σ.node j } := by
  have hnone := h.node_ne_of_released hfree
  refine ⟨⟨?_, fun m hm => ?_, fun m hm => ?_, fun _ => hopen⟩, ?_⟩
  · rw [List.map_append]
    refine h.nodup.append (List.nodup_singleton _) ?_
    simpa [List.disjoint_singleton] using fun m hm => hnone m hm
  · rcases List.mem_append.1 hm with hm | hm
    · simpa [hnone m hm] using h.taken m hm
    · rw [List.mem_singleton.1 hm]
      exact ⟨.locked, by simp, by decide⟩
  · rcases List.mem_append.1 hm with hm | hm
    · exact h.legal m hm
    · rwa [List.mem_singleton.1 hm]
  · rintro v x ⟨hrunning, hx⟩
    refine ⟨hrunning, ?_⟩
    rcases hx with ⟨m, hm, hv, hx⟩ | ⟨hother, hands, hnode⟩
    · rcases List.mem_append.1 hm with hm | hm
      · exact Or.inl ⟨m, hm, hv, hx⟩
      · -- of the sender the loop had heard what the notification says it was
        rw [List.mem_singleton.1 hm] at hv hx
        subst hv hx
        exact Or.inr ⟨hnone, .released, hfree⟩
    · have hne : v ≠ n.node := fun heq => hother n (by simp) heq.symm
      refine Or.inr ⟨fun m hm => hother m (List.mem_append_left _ hm), hands, ?_⟩
      simpa [hne] using hnode

/-- **A free node finds the loop gone.**  It changes, but nobody hears of it. -/
lemma lose (h : σ.Sound) {v : NodeId} {a b : Activity} (hfree : σ.node v = some (a, .released))
    (hclosed : σ.closed) :
    σ.Follows { σ with node := fun j => if j = v then some (b, .released) else σ.node j } := by
  have hnone := h.node_ne_of_released hfree
  refine ⟨⟨h.nodup, fun m hm => ?_, h.legal, h.is_open⟩, ?_⟩
  · simpa [hnone m hm] using h.taken m hm
  · rintro j x ⟨hrunning, -⟩
    exact absurd hclosed (h.is_open hrunning)

/-- **The loop takes the oldest notification** and gives the node free.  Of this node it has now heard
the step, of the others nothing. -/
lemma deliver (h : σ.Sound) {n : Notification} {rest : List Notification}
    (hmessages : σ.messages = n :: rest)
    (hnode : ∀ j, τ.node j = if j = n.node then (σ.node j).map fun p => (p.1, .released)
      else σ.node j) (hτ : τ.messages = rest) (hrunning : τ.running → σ.running)
    (hclosed : τ.closed → σ.closed) : σ.Delivers τ n := by
  have hn : n ∈ σ.messages := hmessages ▸ List.mem_cons_self
  have hsub : ∀ m ∈ rest, m ∈ σ.messages := fun m hm => hmessages ▸ List.mem_cons_of_mem n hm
  have hnodup := h.nodup
  rw [hmessages, List.map_cons, List.nodup_cons] at hnodup
  have hother : ∀ m ∈ rest, m.node ≠ n.node := fun m hm heq =>
    hnodup.1 (heq ▸ List.mem_map_of_mem hm)
  refine ⟨⟨hτ ▸ hnodup.2, fun m hm => ?_, fun m hm => h.legal m (hsub m (hτ ▸ hm)),
    fun hr hc => h.is_open (hrunning hr) (hclosed hc)⟩, h.legal n hn, fun hr =>
      ⟨hr, Or.inl ⟨n, hn, rfl, rfl⟩⟩, ?_⟩
  · rw [hτ] at hm
    rw [hnode, if_neg (hother m hm)]
    exact h.taken m (hsub m hm)
  · rintro v x ⟨hr, hx⟩
    rw [hτ, hnode] at hx
    by_cases hv : v = n.node
    · subst hv
      refine Or.inl ⟨rfl, ?_⟩
      rcases hx with ⟨m, hm, hv, -⟩ | ⟨-, hands, hx⟩
      · exact absurd hv (hother m hm)
      · obtain ⟨h₀, hstate, -⟩ := h.taken n hn
        simp only [if_true, hstate, Option.map_some, Option.some.injEq, Prod.mk.injEq] at hx
        exact hx.1.symm
    · refine Or.inr ⟨hv, hrunning hr, ?_⟩
      rcases hx with ⟨m, hm, hmv, hx⟩ | ⟨hnone, hands, hx⟩
      · exact Or.inl ⟨m, hsub m hm, hmv, hx⟩
      · refine Or.inr ⟨fun m hm => ?_, hands, by simpa [hv] using hx⟩
        rw [hmessages] at hm
        rcases List.mem_cons.1 hm with rfl | hm
        · exact Ne.symm hv
        · exact hnone m hm

end Sound

lemma follows_of_ended (hmessages : τ.messages = []) (hrunning : ¬ τ.running) : σ.Follows τ where
  sound := ⟨by simp [hmessages], by simp [hmessages], by simp [hmessages], fun h => absurd h hrunning⟩
  heard _ _ hx := absurd hx.1 hrunning

end Mail

end Live

end MixRounds
