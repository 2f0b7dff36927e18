import MixRounds.Proofs.Live.History

/-!
# The members of a live round

A member gives a round up by completing it, and otherwise only by what ends the round for everybody.
There is one exception.  The start of a round looks at whether a member is banned or holds a round, but
not at what it is doing; so a member can be in error by then, or beyond, and its first report is that it
waits.  Every report of waiting clears whatever the node holds — the node recovers, goes back to the
pool, and the round goes on without it.

* **`World.live_member`** — a member of a round in precomputing or realtime holds it, and then is in
  no set of the pool and in no other team; or it has completed it; or the one thing it told the loop
  while it held the round is that it waits.
* `World.not_keptByAll_of_recovery` — the third happens.
-/

namespace MixRounds

/-- A round that has started and is not at its end. -/
def Round.IsLive (r : Round) : Prop := r.phase = .precomputing ∨ r.phase = .realtime

namespace Live.World

variable {w : World}

/-- The node holds the round, waits nowhere, and is promised to no other team. -/
structure Keeps (w : World) (v : NodeId) (id : RoundId) : Prop where
  holds : w.shared.net.holding v = some id
  not_online : v ∉ w.shared.pool.online
  not_offline : v ∉ w.shared.pool.offline
  not_elsewhere : ∀ id' team, w.loop.inFlight.get? id' = some team → v ∈ team → id' = id

/-- Whoever holds a round is nowhere else. -/
lemma Keeps.of_holding (h : w.roster.Sound) {v : NodeId} {id : RoundId}
    (hheld : w.shared.net.holding v = some id) : w.Keeps v id where
  holds := hheld
  not_online hv := h.not_mem_pool_of_holding hheld (Or.inl hv)
  not_offline hv := h.not_mem_pool_of_holding hheld (Or.inr hv)
  not_elsewhere id' team hteam hv := (h.flight_own id' team hteam v hv id hheld).symm

/-- **Where the members of a live round are**, in every state that any run from an idle network
reaches. -/
theorem live_member (settings : Settings) (latency : Latency) (isDisabled : NodeId → Bool)
    {net : Network} (wall : Instant) (hidle : net.Idle) (moves : List Move) {id : RoundId} {r : Round}
    (hround : ((create settings latency isDisabled net wall).run moves).shared.net.rounds.get? id
      = some r) (hlive : r.IsLive) {v : NodeId} (hv : v ∈ r.topology) :
    let w := create settings latency isDisabled net wall
    (w.run moves).Keeps v id ∨ (v, .completed) ∈ (w.record moves id).map Telling.pair ∨
      Telling.activitiesOf v (w.record moves id) = [.waiting] := by
  intro w
  have hchronicle := run_chronicle settings latency isDisabled wall hidle moves
  have hphase : r.phase ≠ .failed := by
    rcases hlive with h | h <;> simp [h]
  have hrecorded := hchronicle.recorded id r hround hphase
  by_cases hheld : (w.run moves).shared.net.holding v = some id
  · exact Or.inl (.of_holding hchronicle.roster hheld)
  · rcases hrecorded.parted v hv hheld with ⟨t, ht, rfl, hcompleted⟩ | hwaiting
    · refine Or.inr (Or.inl ?_)
      rw [← hcompleted]
      exact List.mem_map_of_mem ht
    · exact Or.inr (Or.inr hwaiting)

/-- The first round of a team of one, just started. -/
theorem live_member_of_one : (smallNetwork ["a"]).Idle ∧
    ∃ r, ((small ["a"]).run (gather ["a"] ++ kickoff)).shared.net.rounds.get? ⟨1⟩ = some r ∧
      r.IsLive ∧ "a" ∈ r.topology ∧
      (((small ["a"]).run (gather ["a"] ++ kickoff)).Keeps "a" ⟨1⟩ ∨
        ("a", .completed) ∈ ((small ["a"]).record (gather ["a"] ++ kickoff) ⟨1⟩).map Telling.pair ∨
        Telling.activitiesOf "a" ((small ["a"]).record (gather ["a"] ++ kickoff) ⟨1⟩) = [.waiting]) := by
  have hround : (((small ["a"]).run (gather ["a"] ++ kickoff)).shared.net.rounds.get? ⟨1⟩).map
      (fun r => (r.phase, r.topology)) = some (.precomputing, ["a"]) := by decide +kernel
  obtain ⟨r, hr, heq⟩ := Option.map_eq_some_iff.1 hround
  obtain ⟨hphase, hteam⟩ := Prod.mk.inj heq
  have hmember : "a" ∈ r.topology := by simp [hteam]
  exact ⟨idle_smallNetwork _, r, hr, Or.inl hphase, hmember,
    live_member _ _ _ _ (idle_smallNetwork _) _ hr (Or.inl hphase) hmember⟩

/-! ## A member that recovers -/

/-- After the run every member of a live round holds it or has completed it. -/
def KeptByAll (w : World) (moves : List Move) : Prop :=
  ∀ id r, (w.run moves).shared.net.rounds.get? id = some r → r.IsLive → ∀ v ∈ r.topology,
    (w.run moves).shared.net.holding v = some id ∨
      (v, .completed) ∈ (w.record moves id).map Telling.pair

/-- One of two nodes reports an error before their round starts, and waits again after it has. -/
def recovery : List Move :=
  gather ["a", "b"] ++ reporting "a" .error ++ kickoff ++ reporting "a" .waiting

/-- **A recovered member is lost to its round**: the round is precomputing, and the member waits for
another team. -/
theorem not_keptByAll_of_recovery : ¬ (small ["a", "b"]).KeptByAll recovery ∧
    "a" ∈ ((small ["a", "b"]).run recovery).shared.pool.online := by
  have hround : (((small ["a", "b"]).run recovery).shared.net.rounds.get? ⟨1⟩).map
      (fun r => (r.phase, r.topology)) = some (.precomputing, ["a", "b"]) := by decide +kernel
  have hheld : ((small ["a", "b"]).run recovery).shared.net.holding "a" = none := by decide +kernel
  have htold : (small ["a", "b"]).record recovery ⟨1⟩ = [⟨"a", .waiting, false⟩] := by
    decide +kernel
  refine ⟨fun hall => ?_, by decide +kernel⟩
  obtain ⟨r, hr, heq⟩ := Option.map_eq_some_iff.1 hround
  obtain ⟨hphase, hteam⟩ := Prod.mk.inj heq
  rcases hall ⟨1⟩ r hr (Or.inl hphase) "a" (by simp [hteam]) with h | h
  · simp [hheld] at h
  · simp [htold, Telling.pair] at h

end Live.World

end MixRounds
