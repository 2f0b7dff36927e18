import MixRounds.Proofs.Live.History

/-!
# What a round counts

One number counts the members that are ready, whatever they are ready for: a standby and a completion
raise it alike, and when it reaches the size of the team the round moves on.  Members that run ahead of
their round can therefore complete it before the others stand by.

* **`World.standby_iff_of_realtime`** — a round that moves to realtime was told a standby by every
  member exactly if it was told no completion, and nobody told it anything twice.
* `World.not_standbyFirst_of_headlong` — one member alone can take the place of another.
* **`World.run_accounted`** — no report is lost or counted twice for all that: the counted reports make
  up the readiness and a whole team for each move, and a round that ends well was told one standby and
  one completion by everybody, and nobody holds it any more.
-/

namespace MixRounds.Live

/-- What was told once, and was not refused. -/
lemma Recorded.filter_pair {told : List Telling} {holding : NodeId → Option RoundId}
    {heard : NodeId → Activity → Prop} {id : RoundId} {r : Round}
    (h : Recorded told holding heard id r) (hready : r.ready = 0) {v : NodeId} {a : Activity}
    (hmem : (v, a) ∈ told.map Telling.pair) :
    told.filter (fun t => t.pair = (v, a)) = [⟨v, a, false⟩] := by
  have hone : (told.filter fun t => t.pair = (v, a)).length = 1 := by
    have hcount := List.count_eq_one_of_mem h.nodup hmem
    rw [List.count, List.countP_map] at hcount
    rw [← List.countP_eq_length_filter, ← hcount]
    exact List.countP_congr fun t _ => by simp
  obtain ⟨t, ht⟩ := List.length_eq_one_iff.1 hone
  have hmem' : t ∈ told.filter fun t => t.pair = (v, a) := ht ▸ List.mem_singleton_self t
  obtain ⟨htold, hpair⟩ := List.mem_filter.1 hmem'
  obtain ⟨hnode, hactivity⟩ := Prod.mk.inj (of_decide_eq_true hpair)
  have hrefused := h.not_refused hready htold
  rw [ht]
  cases t
  simp_all

namespace World

/-! ## The move to realtime -/

/-- **What lets a round into realtime.**  Every report that was counted is a standby, one from each
member, unless a completion is among them. -/
theorem standby_iff_of_realtime (settings : Settings) (latency : Latency)
    (isDisabled : NodeId → Bool) {net : Network} (wall : Instant) (hidle : net.Idle)
    (moves : List Move) (m : Move) {id : RoundId} {r r' : Round}
    (hround : ((create settings latency isDisabled net wall).run moves).shared.net.rounds.get? id
      = some r) (hbefore : r.phase = .precomputing)
    (hround' : ((create settings latency isDisabled net wall).run (moves ++ [m])).shared.net.rounds.get?
      id = some r') (hafter : r'.phase = .realtime) :
    let told := ((create settings latency isDisabled net wall).record (moves ++ [m]) id).map
      Telling.pair
    told.Nodup ∧ ((∀ v ∈ r'.topology, (v, Activity.standby) ∈ told) ↔
      ∀ v, (v, Activity.completed) ∉ told) := by
  intro told
  have hchronicle := run_chronicle settings latency isDisabled wall hidle (moves ++ [m])
  have hrecorded := hchronicle.recorded id r' hround' (by simp [hafter])
  have hready : r'.ready = 0 := by
    have hsound := (run_chronicle settings latency isDisabled wall hidle moves).roster
    have hchange := step_change hsound m id
    have hr : ((create settings latency isDisabled net wall).run moves).ledger.rounds id = some r :=
      hround
    have hr' : (((create settings latency isDisabled net wall).run moves).step m).ledger.rounds id
        = some r' := by
      rw [run_append] at hround'
      exact hround'
    rw [hr, hr'] at hchange
    exact hchange.ready_of_realtime hbefore hafter
  have hteam : r'.topology.Nodup := by
    refine hchronicle.roster.team_nodup id r'.topology ?_
    simp [roster, Network.team?, hround']
  exact ⟨hrecorded.nodup, hrecorded.standby_iff_of_fresh_realtime hafter hready hteam⟩

/-- The one member of a team of one stands by. -/
theorem standby_iff_of_one :
    let moves := gather ["a"] ++ kickoff ++ reporting "a" .precomputing ++ [.poll 0 "a" .standby]
    let m := Move.iterate .updates fun _ => .still
    (smallNetwork ["a"]).Idle ∧ ∃ r r', ((small ["a"]).run moves).shared.net.rounds.get? ⟨1⟩ = some r ∧
      r.phase = .precomputing ∧
      ((small ["a"]).run (moves ++ [m])).shared.net.rounds.get? ⟨1⟩ = some r' ∧ r'.phase = .realtime ∧
      (((small ["a"]).record (moves ++ [m]) ⟨1⟩).map Telling.pair).Nodup ∧
      ((∀ v ∈ r'.topology,
          (v, Activity.standby) ∈ ((small ["a"]).record (moves ++ [m]) ⟨1⟩).map Telling.pair) ↔
        ∀ v, (v, Activity.completed) ∉ ((small ["a"]).record (moves ++ [m]) ⟨1⟩).map Telling.pair) := by
  intro moves m
  have hround : (((small ["a"]).run moves).shared.net.rounds.get? ⟨1⟩).map Round.phase
      = some .precomputing := by decide +kernel
  have hround' : (((small ["a"]).run (moves ++ [m])).shared.net.rounds.get? ⟨1⟩).map Round.phase
      = some .realtime := by decide +kernel
  obtain ⟨r, hr, hbefore⟩ := Option.map_eq_some_iff.1 hround
  obtain ⟨r', hr', hafter⟩ := Option.map_eq_some_iff.1 hround'
  exact ⟨idle_smallNetwork _, r, r', hr, hbefore, hr', hafter,
    standby_iff_of_realtime _ _ _ _ (idle_smallNetwork _) moves m hr hbefore hr' hafter⟩

/-- If the move after the run takes a round to realtime, every member has stood by. -/
def StandbyFirst (w : World) (moves : List Move) (m : Move) : Prop :=
  ∀ id r r', (w.run moves).shared.net.rounds.get? id = some r → r.phase = .precomputing →
    (w.run (moves ++ [m])).shared.net.rounds.get? id = some r' → r'.phase = .realtime →
      ∀ v ∈ r'.topology, (v, Activity.standby) ∈ (w.record (moves ++ [m]) id).map Telling.pair

/-- One of three members goes all the way while the others wait for the precomputation, and the second
is about to stand by. -/
def headlong : List Move :=
  gather ["a", "b", "c"] ++ kickoff
    ++ [Activity.precomputing, .standby, .realtime, .completed].flatMap (reporting "a")
    ++ reporting "b" .precomputing ++ [.poll 0 "b" .standby]

/-- **A completion stands in for a standby**: the third member has told nothing, and the round moves. -/
theorem not_standbyFirst_of_headlong :
    ¬ (small ["a", "b", "c"]).StandbyFirst headlong (.iterate .updates fun _ => .still) := by
  have hround : (((small ["a", "b", "c"]).run headlong).shared.net.rounds.get? ⟨1⟩).map Round.phase
      = some .precomputing := by decide +kernel
  have hround' : (((small ["a", "b", "c"]).run
      (headlong ++ [.iterate .updates fun _ => .still])).shared.net.rounds.get? ⟨1⟩).map
        (fun r => (r.phase, decide ("c" ∈ r.topology))) = some (.realtime, true) := by decide +kernel
  have htold : ("c", Activity.standby) ∉ ((small ["a", "b", "c"]).record
      (headlong ++ [.iterate .updates fun _ => .still]) ⟨1⟩).map Telling.pair := by decide +kernel
  intro hall
  obtain ⟨r, hr, hbefore⟩ := Option.map_eq_some_iff.1 hround
  obtain ⟨r', hr', heq⟩ := Option.map_eq_some_iff.1 hround'
  obtain ⟨hafter, hmember⟩ := Prod.mk.inj heq
  exact htold (hall ⟨1⟩ r r' hr hbefore hr' hafter "c" (of_decide_eq_true hmember))

/-! ## The account of a round -/

/-- What a run has told a round, and what became of it. -/
structure Accounted (w : World) (moves : List Move) (id : RoundId) (r : Round) : Prop where
  /-- The counted reports are the members ready now, and a whole team for each move. -/
  counted : (w.record moves id).countP Telling.counts
    = r.ready + r.teamSize * (w.entries id .realtime moves + w.entries id .completed moves)
  /-- A completed round was told each of the two once by everybody, and refused neither. -/
  once : r.phase = .completed → ∀ v ∈ r.topology, ∀ a, a = .standby ∨ a = .completed →
    (w.record moves id).filter (fun t => t.pair = (v, a)) = [⟨v, a, false⟩]
  /-- Nobody holds a completed round, then or later. -/
  released : r.phase = .completed → ∀ later v,
    (w.run (moves ++ later)).shared.net.holding v ≠ some id

/-- **The account of a round that has not failed**, in every state that any run from an idle network
reaches. -/
theorem run_accounted (settings : Settings) (latency : Latency) (isDisabled : NodeId → Bool)
    {net : Network} (wall : Instant) (hidle : net.Idle) (moves : List Move) {id : RoundId} {r : Round}
    (hround : ((create settings latency isDisabled net wall).run moves).shared.net.rounds.get? id
      = some r) (hlive : r.phase ≠ .failed) :
    (create settings latency isDisabled net wall).Accounted moves id r := by
  let w := create settings latency isDisabled net wall
  have hchronicle := run_chronicle settings latency isDisabled wall hidle moves
  have hrecorded := hchronicle.recorded id r hround hlive
  have hr : ((w.run moves).ledger.rounds id).map Round.phase = some r.phase :=
    congrArg (Option.map Round.phase) hround
  have hteams : r.phase.teamsCounted = w.entries id .realtime moves + w.entries id .completed moves := by
    have hentries := (entries_add_entries (create_sound settings latency isDisabled wall hidle) id
      moves (by rw [hr]; simpa using hlive)).2
    rw [hr] at hentries
    have hnone : (create settings latency isDisabled net wall).ledger.rounds id = none :=
      hidle.rounds id
    rw [hnone] at hentries
    simpa using hentries
  have hcounted := hteams ▸ hrecorded.tally
  refine ⟨hcounted, fun hphase v hv a ha => ?_, fun hphase later v => ?_⟩
  · exact hrecorded.filter_pair (hrecorded.ready_of_completed hphase)
      (hrecorded.told_of_completed hphase hv ha)
  · have hafter := run_chronicle settings latency isDisabled wall hidle (moves ++ later)
    have hcompleted : ((w.run (moves ++ later)).ledger.rounds id).map Round.phase = some .completed := by
      rw [run_append]
      exact run_completed hchronicle.roster (hr.trans (by rw [hphase])) later
    obtain ⟨r', hr', hphase'⟩ := Option.map_eq_some_iff.1 hcompleted
    exact (hafter.recorded id r' hr' (by simp [hphase'])).not_holding_of_completed hphase'
      (fun v hv => hafter.member hr' hv) v

/-- The round of a team of one that went through it. -/
theorem run_accounted_of_one :
    let moves := gather ["a"] ++ kickoff
      ++ [Activity.precomputing, .standby, .realtime, .completed].flatMap (reporting "a")
    (smallNetwork ["a"]).Idle ∧ ∃ r, ((small ["a"]).run moves).shared.net.rounds.get? ⟨1⟩ = some r ∧
      r.phase = .completed ∧ (small ["a"]).Accounted moves ⟨1⟩ r := by
  intro moves
  have hround : (((small ["a"]).run moves).shared.net.rounds.get? ⟨1⟩).map Round.phase
      = some .completed := by decide +kernel
  obtain ⟨r, hr, hphase⟩ := Option.map_eq_some_iff.1 hround
  exact ⟨idle_smallNetwork _, r, hr, hphase,
    run_accounted _ _ _ _ (idle_smallNetwork _) moves hr (by simp [hphase])⟩

end World

end MixRounds.Live
