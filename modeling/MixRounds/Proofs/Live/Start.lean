import Mathlib.Data.List.Basic
import MixRounds.Live.Start
import MixRounds.Proofs.Network

/-!
# What a start does

A start checks its team before it touches anything, and takes everything back if a member cannot be
attached after all.  Neither matters for a team that the loop has formed: its members are distinct,
registered, and hold no round, and its number is new.  Of such a team `Shared.start_cases` says that

* either a member was banned in the meantime, and then nothing at all has changed,
* or the round is there, precomputing, with nobody counted, and every member holds it.

So the way back is never taken, and `Fault.holdsRound` is never the reason for a refusal.
-/

namespace MixRounds.Live.Shared

/-! ## The check -/

/-- A team passes if none of its registered members holds a round or is banned. -/
lemma refusal?_eq_none_iff {nodes : Table NodeId Node} {team : List NodeId} :
    refusal? nodes team = none ↔ ∀ v ∈ team, ∀ node, nodes.get? v = some node →
      node.round = none ∧ node.status ≠ .banned := by
  induction team with
  | nil => simp [refusal?]
  | cons v rest ih =>
      rw [refusal?, List.forall_mem_cons, ← ih]
      cases hnode : nodes.get? v with
      | none => simp
      | some node =>
          cases hround : node.round with
          | none => by_cases hbanned : node.status = .banned <;> simp [hround, hbanned]
          | some held => simp [hround]

/-- A team without a holder is refused for a ban or not at all. -/
lemma refusal?_of_free {nodes : Table NodeId Node} {team : List NodeId}
    (hfree : ∀ v ∈ team, ∃ node, nodes.get? v = some node ∧ node.round = none) :
    refusal? nodes team = none ∨ ∃ v ∈ team, refusal? nodes team = some (.banned v) := by
  induction team with
  | nil => exact Or.inl rfl
  | cons v rest ih =>
      obtain ⟨node, hnode, hround⟩ := hfree v List.mem_cons_self
      simp only [refusal?, hnode, hround]
      split
      · exact Or.inr ⟨v, List.mem_cons_self, rfl⟩
      · rcases ih fun j hj => hfree j (List.mem_cons_of_mem v hj) with h | ⟨j, hj, h⟩
        · exact Or.inl h
        · exact Or.inr ⟨j, List.mem_cons_of_mem v hj, h⟩

/-! ## Attaching the team -/

/-- Members that hold nothing all get the round, if no registered one is named twice. -/
lemma attachAll_of_free (id : RoundId) {nodes : Table NodeId Node} {team : List NodeId}
    (hnodup : (team.filter nodes.contains).Nodup)
    (hfree : ∀ v ∈ team, ∀ node, nodes.get? v = some node → node.round = none) :
    ∃ after, attachAll id nodes team = (after, .ok ()) ∧
      ∀ j, after.get? j =
        if j ∈ team then (nodes.get? j).map fun n => { n with round := some id }
        else nodes.get? j := by
  induction team generalizing nodes with
  | nil => exact ⟨nodes, rfl, by simp⟩
  | cons v rest ih =>
      cases hnode : nodes.get? v with
      | none =>
          have hcontains : nodes.contains v = false := by simp [Table.contains, hnode]
          rw [List.filter_cons_of_neg (by simp [hcontains])] at hnodup
          obtain ⟨after, hafter, hget⟩ := ih hnodup fun j hj => hfree j (List.mem_cons_of_mem v hj)
          refine ⟨after, by simp [attachAll, hnode, hafter], fun j => ?_⟩
          rw [hget j]
          by_cases hj : j = v
          · subst hj
            simp [hnode]
          · simp [hj]
      | some node =>
          have hround := hfree v List.mem_cons_self node hnode
          have hcontains : nodes.contains v = true := by simp [Table.contains, hnode]
          rw [List.filter_cons_of_pos hcontains, List.nodup_cons, List.mem_filter] at hnodup
          have hv : v ∉ rest := fun hin => hnodup.1 ⟨hin, hcontains⟩
          let attached : Node := { node with round := some id }
          have hattach : node.attach v id = .ok attached := by simp [Node.attach, hround, attached]
          -- the members still to come are untouched by the first
          have hlater : ∀ j ∈ rest, (nodes.modify v fun _ => attached).get? j = nodes.get? j :=
            fun j hj => Table.get?_modify_of_ne _ (by rintro rfl; exact hv hj) _
          have hcontains' : ∀ j ∈ rest,
              (nodes.modify v fun _ => attached).contains j = nodes.contains j :=
            fun j hj => congrArg Option.isSome (hlater j hj)
          have hnodup' : (rest.filter (nodes.modify v fun _ => attached).contains).Nodup := by
            rw [List.filter_congr hcontains']
            exact hnodup.2
          obtain ⟨after, hafter, hget⟩ := ih hnodup' fun j hj => by
            rw [hlater j hj]
            exact hfree j (List.mem_cons_of_mem v hj)
          refine ⟨after, by simp [attachAll, hnode, hattach, hafter], fun j => ?_⟩
          rw [hget j]
          by_cases hj : j = v
          · subst hj
            simp [hv, hnode, attached]
          · simp [Table.get?_modify_of_ne _ hj, hj]

/-! ## The start -/

/-- The round of `p` as it begins. -/
def opening (p : ProtoRound) (now : Instant) : Round :=
  ⟨p.topology, p.batch, .precomputing, 0, Stamps.insert .precomputing now [(.pending, now)]⟩

/-- `s'` is `s` with the round of the team `p` started. -/
structure Started (p : ProtoRound) (s s' : Shared) : Prop where
  nodes : ∀ j, s'.net.nodes.get? j =
    if j ∈ p.topology then (s.net.nodes.get? j).map fun n => { n with round := some p.id }
    else s.net.nodes.get? j
  rounds : ∃ r : Round, r.topology = p.topology ∧ r.phase = .precomputing ∧ r.ready = 0 ∧
    ∀ j, s'.net.rounds.get? j = if j = p.id then some r else s.net.rounds.get? j
  pool : s'.pool = s.pool
  counter : s'.net.counter = s.net.counter

section Start

variable {s : Shared} {p : ProtoRound} (now : Instant) (clock : Nat)

lemma get?_opening (j : RoundId) :
    ((s.net.rounds.insert p.id (.allocate p.topology p.batch now)).modify p.id
      fun _ => opening p now).get? j = if j = p.id then some (opening p now) else s.net.rounds.get? j := by
  rw [Table.get?_modify, Table.get?_insert]
  by_cases hj : j = p.id <;> simp [hj]

/-- What is written when everybody is attached. -/
lemma start_of_attachAll (hcheck : refusal? s.net.nodes p.topology = none)
    (hvacant : s.net.rounds.get? p.id = none) {after : Table NodeId Node}
    (hafter : attachAll p.id s.net.nodes p.topology = (after, .ok ())) :
    s.start now clock p = ({ s with
      net := { s.net with
        nodes := after
        rounds := (s.net.rounds.insert p.id (.allocate p.topology p.batch now)).modify p.id
          fun _ => opening p now
        log := s.net.log.push s.net.key ((opening p now).info p.id) }
      tracker := (s.tracker.add p.id).2
      watchers := s.watchers ++ [⟨p.id, .precomputation, clock + p.precomputationTimeout⟩] },
      .ok ()) := by
  have hcontains : s.net.rounds.contains p.id = false := by simp [Table.contains, hvacant]
  rw [start]
  simp only [hcheck, Network.addRound, hcontains, Bool.false_eq_true, if_false, Round.advance,
    Round.phase_allocate, Phase.mayAdvance, if_true, Network.setRound_nodes, hafter]
  rfl

end Start

/-- **What a start comes to.**  A team of distinct, registered nodes that hold nothing is refused for a
banned member, and then nothing has changed, or its round is started. -/
theorem start_cases (s : Shared) (now : Instant) (clock : Nat) (p : ProtoRound)
    (hnodup : p.topology.Nodup)
    (hfree : ∀ v ∈ p.topology, ∃ node, s.net.nodes.get? v = some node ∧ node.round = none)
    (hnew : s.net.rounds.get? p.id = none) :
    (∃ v ∈ p.topology, s.start now clock p = (s, .error (.banned v))) ∨
      ∃ s', s.start now clock p = (s', .ok ()) ∧ Started p s s' := by
  rcases refusal?_of_free hfree with hcheck | ⟨v, hv, hcheck⟩
  · have hround : ∀ v ∈ p.topology, ∀ node, s.net.nodes.get? v = some node → node.round = none := by
      intro v hv node hnode
      obtain ⟨other, hother, hround⟩ := hfree v hv
      cases hnode.symm.trans hother
      exact hround
    obtain ⟨after, hafter, hget⟩ := attachAll_of_free p.id (hnodup.filter _) hround
    exact Or.inr ⟨_, start_of_attachAll now clock hcheck hnew hafter, hget,
      ⟨opening p now, rfl, rfl, rfl, get?_opening now⟩, rfl, rfl⟩
  · exact Or.inl ⟨v, hv, by simp [start, hcheck]⟩

end MixRounds.Live.Shared
