import MixRounds.Proofs.Pool

/-!
# Who holds a round, and whose team it is

Of a network two questions are asked again and again: which round does this node hold, and who is on
the team of that round?  `Network.holding` and `Network.team?` answer them, and this file says what
the operations on a network do to the answers.  A team is fixed when its round is allocated, so
nothing but an allocation touches `Network.team?`.

A scheduler begins on a network that is `Network.Idle`: no round was allocated and nobody holds one.
That is how networks are made — empty, then one registration after the other.
-/

namespace MixRounds.Network

/-- The round that a node holds. -/
def holding (net : Network) (v : NodeId) : Option RoundId := (net.nodes.get? v).bind Node.round

/-- The team of a round that was allocated. -/
def team? (net : Network) (id : RoundId) : Option (List NodeId) :=
  (net.rounds.get? id).map Round.topology

/-- The phase of a round that was allocated. -/
def phase? (net : Network) (id : RoundId) : Option Phase := (net.rounds.get? id).map Round.phase

/-- No round was allocated yet, and no node holds one. -/
structure Idle (net : Network) : Prop where
  rounds : ∀ id, net.rounds.get? id = none
  holding : ∀ v, net.holding v = none

lemma idle_empty (key : SigningKey) (first : RoundId) : (empty key first).Idle :=
  ⟨fun _ => rfl, fun _ => rfl⟩

lemma Idle.register {net : Network} (h : net.Idle) (v : NodeId) (region : String) (status : Status)
    (now : Instant) : (net.register v region status now).Idle := by
  rw [Network.register]
  split
  · exact h
  · refine ⟨h.rounds, fun j => ?_⟩
    have hj := h.holding j
    simp only [Network.holding, Table.get?_insert] at hj ⊢
    split
    · rfl
    · exact hj

/-- Nobody has a node yet. -/
def Free (net : Network) : Prop := ∀ v node, net.nodes.get? v = some node → node.handoff = .released

lemma free_empty (key : SigningKey) (first : RoundId) : (empty key first).Free :=
  fun _ _ hnode => by cases hnode

lemma Free.register {net : Network} (h : net.Free) (v : NodeId) (region : String) (status : Status)
    (now : Instant) : (net.register v region status now).Free := by
  intro j node hnode
  rw [Network.register] at hnode
  split at hnode
  · exact h j node hnode
  · simp only [Table.get?_insert] at hnode
    split at hnode
    · cases hnode
      rfl
    · exact h j node hnode

/-! ## Changing a node -/

section Node

variable (net : Network) (v : NodeId)

lemma holding_of_get? {net : Network} {v : NodeId} {node : Node}
    (h : net.nodes.get? v = some node) : net.holding v = node.round := by simp [holding, h]

lemma holding_congr {net net' : Network} (h : net.nodes = net'.nodes) :
    net.holding = net'.holding := by
  funext j
  simp [holding, h]

lemma holding_mapNode {f : Node → Node}
    (hf : ∀ node, net.nodes.get? v = some node → (f node).round = node.round) :
    (net.mapNode v f).holding = net.holding := by
  funext j
  simp only [holding, mapNode, Table.get?_modify]
  split
  · rename_i hj
    subst hj
    cases hnode : net.nodes.get? j with
    | none => rfl
    | some node => exact hf node hnode
  · rfl

lemma map_detach_of_holding_eq_none {net : Network} {v : NodeId} (h : net.holding v = none) :
    (net.nodes.get? v).map Node.detach = net.nodes.get? v := by
  cases hnode : net.nodes.get? v with
  | none => rfl
  | some node =>
      have hround : node.round = none := by rw [← holding_of_get? hnode, h]
      simp [Node.detach, ← hround]

end Node

/-! ## Changing a round -/

section Round

variable (net : Network) (id : RoundId) (r : Round)

@[simp] lemma holding_setRound : (net.setRound id r).holding = net.holding := rfl

lemma get?_setRound (j : RoundId) :
    (net.setRound id r).rounds.get? j
      = if j = id then (net.rounds.get? j).map fun _ => r else net.rounds.get? j :=
  Table.get?_modify _ _ _ _


lemma team?_eq_none_iff {net : Network} {id : RoundId} :
    net.team? id = none ↔ net.rounds.get? id = none := by simp [team?]

end Round

/-! ## Drawing a number -/

lemma reserve_snd (net : Network) :
    net.reserve.2 = { net with counter := ⟨net.counter.next + 1⟩ } := by
  simp only [reserve, RoundCounter.reserve]
  split <;> rfl

/-- A number that is handed out is the counter's, and the counter does not wrap around. -/
lemma reserve_ok {net : Network} {id : RoundId} (h : net.reserve.1 = .ok id) :
    id.toNat = net.counter.next.toNat ∧ (net.counter.next + 1).toNat = net.counter.next.toNat + 1 := by
  simp only [reserve, RoundCounter.reserve] at h
  split at h
  · cases h
  · rename_i hlast
    cases h
    refine ⟨rfl, ?_⟩
    have hbound := net.counter.next.toNat_lt
    have hne : net.counter.next.toNat ≠ 2 ^ 64 - 1 := fun heq =>
      hlast (UInt64.toNat_inj.1 (by simp [heq, UInt64.size]))
    rw [UInt64.toNat_add, UInt64.toNat_one]
    omega

end MixRounds.Network
