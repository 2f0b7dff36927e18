import Mathlib.Data.List.Nodup
import MixRounds.Proofs.Pool
import MixRounds.Team.Proto

/-!
# Where every node stands

A node waits in the pool, or is promised to a team on its way to the starter, or holds a round —
and some nodes do none of it.  Five places of a scheduler write to this picture, in three tasks.
`Roster` is the picture alone, without queues, clocks and counters, and `Roster.Sound` is what all
of them together keep true of it:

* the pool is tidy, and whoever is in it holds no round and is promised to no team;
* the reserved nodes are exactly the members of the teams in flight, and no two of these teams
  share a member;
* a node holds a round only of a team it belongs to, and while its team is in flight no other;
* a team whose start is still to come has no round yet, and every team that is to come, or that
  the starter has answered for, is in flight;
* as long as teams are formed, no number that is in use will be drawn again.

The third and the fourth are what a start and its answer hang on: between the start and the moment
at which the loop hears of it, the members of a team are reserved *and* hold its round.

Each section below is one thing that happens to the picture, with the guard under which it keeps
it sound.
-/

namespace MixRounds.Live

/-- Who waits, who is promised to a team, and who holds a round. -/
structure Roster where
  /-- The registered nodes. -/
  known : NodeId → Prop
  /-- The round that a node holds. -/
  holding : NodeId → Option RoundId
  /-- The team of a round that was allocated. -/
  team : RoundId → Option (List NodeId)
  pool : Pool
  /-- The teams handed to the starter and not yet reported back. -/
  inFlight : RoundId → Option (List NodeId)
  reserved : List NodeId
  /-- The teams whose start is still to come. -/
  pending : List ProtoRound
  /-- The rounds reported as started, of which the loop has not heard yet. -/
  started : List RoundId
  /-- The teams reported as refused, of which the loop has not heard yet. -/
  refused : List ProtoRound
  /-- Whether the loop may still form teams. -/
  admits : Prop
  /-- The number of the next team. -/
  next : Nat

namespace Roster

/-- The rounds of the teams that the loop still has to hear of. -/
def unanswered (σ : Roster) : List RoundId :=
  σ.started ++ (σ.refused ++ σ.pending).map ProtoRound.id

/-- What holds of the picture at all times. -/
structure Sound (σ : Roster) : Prop where
  tidy : σ.pool.Tidy
  pool_known : ∀ v ∈ σ.pool, σ.known v
  pool_free : ∀ v ∈ σ.pool, σ.holding v = none
  pool_unreserved : ∀ v ∈ σ.pool, v ∉ σ.reserved
  reserved_iff : ∀ v, v ∈ σ.reserved ↔ ∃ id team, σ.inFlight id = some team ∧ v ∈ team
  flight_nodup : ∀ id team, σ.inFlight id = some team → team.Nodup
  flight_known : ∀ id team, σ.inFlight id = some team → ∀ v ∈ team, σ.known v
  flight_apart : ∀ id id' team team', σ.inFlight id = some team → σ.inFlight id' = some team' →
    ∀ v ∈ team, v ∈ team' → id = id'
  flight_own : ∀ id team, σ.inFlight id = some team →
    ∀ v ∈ team, ∀ held, σ.holding v = some held → held = id
  team_nodup : ∀ id team, σ.team id = some team → team.Nodup
  held_team : ∀ v id, σ.holding v = some id → ∃ team, σ.team id = some team ∧ v ∈ team
  pending_flight : ∀ p ∈ σ.pending, σ.inFlight p.id = some p.topology
  pending_new : ∀ p ∈ σ.pending, σ.team p.id = none
  started_flight : ∀ id ∈ σ.started, ∃ team, σ.inFlight id = some team
  refused_flight : ∀ p ∈ σ.refused, σ.inFlight p.id = some p.topology
  unanswered_nodup : σ.unanswered.Nodup
  numbers : σ.admits → ∀ id, σ.inFlight id ≠ none ∨ σ.team id ≠ none → id.toNat < σ.next

variable {σ : Roster}

namespace Sound

lemma not_mem_pool_of_holding (h : σ.Sound) {v : NodeId} {id : RoundId}
    (hv : σ.holding v = some id) : v ∉ σ.pool := by
  intro hp
  rw [h.pool_free v hp] at hv
  cases hv

lemma not_mem_pool_of_reserved (h : σ.Sound) {v : NodeId} (hv : v ∈ σ.reserved) : v ∉ σ.pool :=
  fun hp => h.pool_unreserved v hp hv

/-- **A team whose start is still to come is free**: none of its members holds a round. -/
lemma pending_free (h : σ.Sound) {p : ProtoRound} (hp : p ∈ σ.pending) {v : NodeId}
    (hv : v ∈ p.topology) : σ.holding v = none := by
  cases hheld : σ.holding v with
  | none => rfl
  | some held =>
      have hown : held = p.id := h.flight_own _ _ (h.pending_flight p hp) v hv held hheld
      obtain ⟨team, hteam, -⟩ := h.held_team v held hheld
      rw [hown, h.pending_new p hp] at hteam
      cases hteam

/-- A number under which nothing is in flight belongs to no team that the loop has to hear of. -/
lemma not_mem_unanswered (h : σ.Sound) {id : RoundId} (hid : σ.inFlight id = none) :
    id ∉ σ.unanswered := by
  intro hmem
  simp only [unanswered, List.mem_append, List.mem_map] at hmem
  rcases hmem with hs | ⟨p, hp | hp, rfl⟩
  · obtain ⟨team, hteam⟩ := h.started_flight id hs
    simp [hid] at hteam
  · simp [h.refused_flight p hp] at hid
  · simp [h.pending_flight p hp] at hid

/-! ## The pool alone -/

/-- The pool may shrink, and its nodes may change sets. -/
lemma of_pool (h : σ.Sound) {pool : Pool} (htidy : pool.Tidy) (hsub : ∀ v ∈ pool, v ∈ σ.pool) :
    { σ with pool := pool }.Sound :=
  { h with
    tidy := htidy
    pool_known := fun v hv => h.pool_known v (hsub v hv)
    pool_free := fun v hv => h.pool_free v (hsub v hv)
    pool_unreserved := fun v hv => h.pool_unreserved v (hsub v hv) }

/-- A node that holds nothing and is promised to nobody may join the pool. -/
lemma join (h : σ.Sound) {v : NodeId} (hknown : σ.known v) (hfree : σ.holding v = none)
    (hres : v ∉ σ.reserved) : { σ with pool := σ.pool.add v }.Sound :=
  { h with
    tidy := h.tidy.add v
    pool_known := fun j hj => (Pool.mem_add.1 hj).elim (fun e => e ▸ hknown) (h.pool_known j)
    pool_free := fun j hj => (Pool.mem_add.1 hj).elim (fun e => e ▸ hfree) (h.pool_free j)
    pool_unreserved := fun j hj =>
      (Pool.mem_add.1 hj).elim (fun e => e ▸ hres) (h.pool_unreserved j) }

lemma join_all (h : σ.Sound) {ids : List NodeId} (hknown : ∀ v ∈ ids, σ.known v)
    (hfree : ∀ v ∈ ids, σ.holding v = none) (hres : ∀ v ∈ ids, v ∉ σ.reserved) :
    { σ with pool := ids.foldl Pool.add σ.pool }.Sound := by
  induction ids generalizing σ with
  | nil => exact h
  | cons v rest ih =>
      have hv : v ∈ v :: rest := List.mem_cons_self
      have hjoin := h.join (hknown v hv) (hfree v hv) (hres v hv)
      exact ih hjoin (fun j hj => hknown j (List.mem_cons_of_mem v hj))
        (fun j hj => hfree j (List.mem_cons_of_mem v hj))
        (fun j hj => hres j (List.mem_cons_of_mem v hj))

/-! ## A round is let go -/

lemma detach (h : σ.Sound) (v : NodeId) :
    { σ with holding := fun j => if j = v then none else σ.holding j }.Sound :=
  { h with
    pool_free := fun j hj => by
      dsimp only
      split
      · rfl
      · exact h.pool_free j hj
    flight_own := fun id team hteam j hj held hheld => by
      dsimp only at hheld
      split at hheld
      · cases hheld
      · exact h.flight_own id team hteam j hj held hheld
    held_team := fun j id hheld => by
      dsimp only at hheld
      split at hheld
      · cases hheld
      · exact h.held_team j id hheld }

/-! ## A team is formed -/

lemma next_unused (h : σ.Sound) (hadmits : σ.admits) {id : RoundId} (hid : id.toNat = σ.next) :
    σ.inFlight id = none ∧ σ.team id = none := by
  have hnot : ¬ (σ.inFlight id ≠ none ∨ σ.team id ≠ none) :=
    fun hused => absurd (h.numbers hadmits id hused) (by omega)
  simpa [not_or] using hnot

/-- **A formed team is promised.**  It takes the next number, and its members are registered, hold
nothing, and have left the pool; from now on they are reserved. -/
lemma promise (h : σ.Sound) {p : ProtoRound} (reserved : List NodeId) (hnodup : p.topology.Nodup)
    (hknown : ∀ v ∈ p.topology, σ.known v) (hfree : ∀ v ∈ p.topology, σ.holding v = none)
    (hout : ∀ v ∈ p.topology, v ∉ σ.pool) (hres : ∀ v ∈ p.topology, v ∉ σ.reserved)
    (hadmits : σ.admits) (hid : p.id.toNat = σ.next)
    (hreserved : ∀ v, v ∈ reserved ↔ v ∈ p.topology ∨ v ∈ σ.reserved) :
    { σ with
      inFlight := fun id => if id = p.id then some p.topology else σ.inFlight id
      reserved := reserved
      pending := σ.pending ++ [p]
      next := σ.next + 1 }.Sound := by
  obtain ⟨hflight, hteam⟩ := h.next_unused hadmits hid
  have hunanswered : p.id ∉ σ.unanswered := h.not_mem_unanswered hflight
  -- what is in flight under another number was in flight before, and is apart from the new team
  have hold : ∀ id team, (if id = p.id then some p.topology else σ.inFlight id) = some team →
      (id = p.id ∧ team = p.topology) ∨ (id ≠ p.id ∧ σ.inFlight id = some team) := by
    intro id team hid
    split at hid
    · exact Or.inl ⟨‹_›, (Option.some.inj hid).symm⟩
    · exact Or.inr ⟨‹_›, hid⟩
  have hkeep : ∀ id team, σ.inFlight id = some team →
      (if id = p.id then some p.topology else σ.inFlight id) = some team := by
    intro id team hid
    rw [if_neg, hid]
    rintro rfl
    simp [hflight] at hid
  have hsep : ∀ id team, σ.inFlight id = some team → ∀ v ∈ team, v ∉ p.topology :=
    fun id team hid v hv hp => hres v hp ((h.reserved_iff v).2 ⟨id, team, hid, hv⟩)
  refine { h with
    pool_unreserved := fun v hv hr => ?_
    reserved_iff := fun v => ?_
    flight_nodup := fun id team hid => ?_
    flight_known := fun id team hid v hv => ?_
    flight_apart := fun id id' team team' hid hid' v hv hv' => ?_
    flight_own := fun id team hid v hv held hheld => ?_
    pending_flight := fun q hq => ?_
    pending_new := fun q hq => ?_
    started_flight := fun id hid => ?_
    refused_flight := fun q hq => hkeep _ _ (h.refused_flight q hq)
    unanswered_nodup := ?_
    numbers := fun hadmits id hused => ?_ }
  · rcases (hreserved v).1 hr with hv' | hv'
    · exact hout v hv' hv
    · exact h.pool_unreserved v hv hv'
  · rw [hreserved, h.reserved_iff]
    constructor
    · rintro (hv | ⟨id, team, hid, hv⟩)
      · exact ⟨p.id, p.topology, by simp, hv⟩
      · exact ⟨id, team, hkeep id team hid, hv⟩
    · rintro ⟨id, team, hid, hv⟩
      rcases hold id team hid with ⟨-, rfl⟩ | ⟨-, hid⟩
      · exact Or.inl hv
      · exact Or.inr ⟨id, team, hid, hv⟩
  · rcases hold id team hid with ⟨-, rfl⟩ | ⟨-, hid⟩
    · exact hnodup
    · exact h.flight_nodup id team hid
  · rcases hold id team hid with ⟨-, rfl⟩ | ⟨-, hid⟩
    · exact hknown v hv
    · exact h.flight_known id team hid v hv
  · rcases hold id team hid with ⟨rfl, rfl⟩ | ⟨-, hid⟩ <;>
      rcases hold id' team' hid' with ⟨rfl, rfl⟩ | ⟨-, hid'⟩
    · rfl
    · exact absurd hv (hsep id' team' hid' v hv')
    · exact absurd hv' (hsep id team hid v hv)
    · exact h.flight_apart id id' team team' hid hid' v hv hv'
  · rcases hold id team hid with ⟨-, rfl⟩ | ⟨-, hid⟩
    · rw [hfree v hv] at hheld
      cases hheld
    · exact h.flight_own id team hid v hv held hheld
  · rcases List.mem_append.1 hq with hq | hq
    · exact hkeep _ _ (h.pending_flight q hq)
    · rw [List.mem_singleton.1 hq]; simp
  · rcases List.mem_append.1 hq with hq | hq
    · exact h.pending_new q hq
    · rw [List.mem_singleton.1 hq]; exact hteam
  · obtain ⟨team, hid⟩ := h.started_flight id hid
    exact ⟨team, hkeep id team hid⟩
  · have heq : ({ σ with
        inFlight := fun id => if id = p.id then some p.topology else σ.inFlight id
        reserved := reserved
        pending := σ.pending ++ [p]
        next := σ.next + 1 } : Roster).unanswered = σ.unanswered ++ [p.id] := by
      simp [unanswered]
    rw [heq]
    exact h.unanswered_nodup.append (List.nodup_singleton _) (by simpa using hunanswered)
  · by_cases hp : id = p.id
    · rw [hp, hid]
      exact Nat.lt_succ_self _
    · have hbefore : σ.inFlight id ≠ none ∨ σ.team id ≠ none := by simpa [hp] using hused
      exact Nat.lt_succ_of_lt (h.numbers hadmits id hbefore)

/-- Numbers may be skipped, and a loop that gives up needs none. -/
lemma skip (h : σ.Sound) (next : Nat) (admits : Prop) (ha : admits → σ.admits ∧ σ.next ≤ next) :
    { σ with next := next, admits := admits }.Sound :=
  { h with
    numbers := fun hadmits id hused =>
      Nat.lt_of_lt_of_le (h.numbers (ha hadmits).1 id hused) (ha hadmits).2 }

/-! ## The starter answers -/

/-- Answers may be lost, teams may never be started, and the loop may come to its end. -/
lemma forget (h : σ.Sound) {pending refused : List ProtoRound} {started : List RoundId}
    {admits : Prop} (hp : pending.Sublist σ.pending) (hr : refused.Sublist σ.refused)
    (hs : started.Sublist σ.started) (ha : admits → σ.admits) :
    { σ with pending := pending, started := started, refused := refused, admits := admits }.Sound :=
  { h with
    numbers := fun hadmits => h.numbers (ha hadmits)
    pending_flight := fun q hq => h.pending_flight q (hp.subset hq)
    pending_new := fun q hq => h.pending_new q (hp.subset hq)
    started_flight := fun id hid => h.started_flight id (hs.subset hid)
    refused_flight := fun q hq => h.refused_flight q (hr.subset hq)
    unanswered_nodup := (hs.append ((hr.append hp).map _)).nodup h.unanswered_nodup }

/-- **A round is started.**  The first of the teams to come gets its round, every member holds it,
and the answer is on its way. -/
lemma commit (h : σ.Sound) {p : ProtoRound} {rest : List ProtoRound}
    (hpending : σ.pending = p :: rest) :
    { σ with
      holding := fun v => if v ∈ p.topology then some p.id else σ.holding v
      team := fun id => if id = p.id then some p.topology else σ.team id
      pending := rest
      started := σ.started ++ [p.id] }.Sound := by
  have hp : p ∈ σ.pending := hpending ▸ List.mem_cons_self
  have hflight : σ.inFlight p.id = some p.topology := h.pending_flight p hp
  have hrest : ∀ q ∈ rest, q ∈ σ.pending := fun q hq => hpending ▸ List.mem_cons_of_mem p hq
  have hnodup : (σ.started ++ (σ.refused.map ProtoRound.id ++ p.id :: rest.map ProtoRound.id)).Nodup
    := by simpa [unanswered, hpending] using h.unanswered_nodup
  have hmiddle := List.nodup_middle.1 (by simpa using hnodup :
    ((σ.started ++ σ.refused.map ProtoRound.id) ++ p.id :: rest.map ProtoRound.id).Nodup)
  have hlater : ∀ q ∈ rest, q.id ≠ p.id := by
    intro q hq heq
    refine (List.nodup_cons.1 hmiddle).1 (List.mem_append_right _ ?_)
    exact heq ▸ List.mem_map_of_mem hq
  have hmember : ∀ v ∈ p.topology, v ∈ σ.reserved :=
    fun v hv => (h.reserved_iff v).2 ⟨p.id, _, hflight, hv⟩
  refine { h with
    pool_free := fun v hv => ?_
    flight_own := fun id team hid v hv held hheld => ?_
    team_nodup := fun id team hteam => ?_
    held_team := fun v id hheld => ?_
    pending_flight := fun q hq => h.pending_flight q (hrest q hq)
    pending_new := fun q hq => ?_
    started_flight := fun id hid => ?_
    unanswered_nodup := ?_
    numbers := fun hadmits id hused => ?_ }
  · dsimp only
    split
    · exact absurd hv (h.not_mem_pool_of_reserved (hmember v ‹_›))
    · exact h.pool_free v hv
  · dsimp only at hheld
    split at hheld
    · cases hheld
      exact h.flight_apart _ _ _ _ hflight hid v ‹_› hv
    · exact h.flight_own id team hid v hv held hheld
  · dsimp only at hteam
    split at hteam
    · cases hteam
      exact h.flight_nodup _ _ hflight
    · exact h.team_nodup id team hteam
  · dsimp only at hheld ⊢
    split at hheld
    · cases hheld
      exact ⟨p.topology, by simp, ‹_›⟩
    · obtain ⟨team, hteam, hv⟩ := h.held_team v id hheld
      refine ⟨team, ?_, hv⟩
      rw [if_neg, hteam]
      rintro rfl
      simp [h.pending_new p hp] at hteam
  · dsimp only
    rw [if_neg (hlater q hq)]
    exact h.pending_new q (hrest q hq)
  · rcases List.mem_append.1 hid with hid | hid
    · exact h.started_flight id hid
    · rw [List.mem_singleton.1 hid]
      exact ⟨_, hflight⟩
  · refine (List.Perm.nodup_iff ?_).2 hmiddle
    simp only [unanswered, List.map_append, List.append_assoc]
    exact List.perm_middle
  · refine h.numbers hadmits id ?_
    by_cases heq : id = p.id
    · exact Or.inl (by simp [heq, hflight])
    · simpa [heq] using hused

/-- **A start is refused.**  The first of the teams to come stays in flight until the loop hears of
it. -/
lemma decline (h : σ.Sound) {p : ProtoRound} {rest : List ProtoRound}
    (hpending : σ.pending = p :: rest) :
    { σ with pending := rest, refused := σ.refused ++ [p] }.Sound := by
  have hp : p ∈ σ.pending := hpending ▸ List.mem_cons_self
  have hrest : ∀ q ∈ rest, q ∈ σ.pending := fun q hq => hpending ▸ List.mem_cons_of_mem p hq
  refine { h with
    pending_flight := fun q hq => h.pending_flight q (hrest q hq)
    pending_new := fun q hq => h.pending_new q (hrest q hq)
    refused_flight := fun q hq => ?_
    unanswered_nodup := ?_ }
  · rcases List.mem_append.1 hq with hq | hq
    · exact h.refused_flight q hq
    · rw [List.mem_singleton.1 hq]
      exact h.pending_flight p hp
  · have hnodup := h.unanswered_nodup
    rw [unanswered, hpending] at hnodup
    simpa [unanswered] using hnodup

/-! ## The loop hears the answer -/

/-- **A reservation ends.**  Its number leaves the flight, and its members are promised to nobody any
more: no other team has them. -/
lemma unreserve (h : σ.Sound) {id : RoundId} {members : List NodeId} {started : List RoundId}
    {refused : List ProtoRound} (hflight : σ.inFlight id = some members)
    (hs : started.Sublist σ.started) (hr : refused.Sublist σ.refused)
    (hid : id ∉ started ++ (refused ++ σ.pending).map ProtoRound.id) :
    { σ with
      inFlight := fun j => if j = id then none else σ.inFlight j
      reserved := σ.reserved.filter fun v => v ∉ members
      started := started
      refused := refused }.Sound := by
  have hold : ∀ j team, (if j = id then none else σ.inFlight j) = some team →
      j ≠ id ∧ σ.inFlight j = some team := by
    intro j team hj
    split at hj
    · cases hj
    · exact ⟨‹_›, hj⟩
  simp only [List.mem_append, List.mem_map, not_or, not_exists, not_and] at hid
  obtain ⟨hids, hidp⟩ := hid
  refine { h with
    pool_unreserved := fun v hv hres => h.pool_unreserved v hv (List.mem_filter.1 hres).1
    reserved_iff := fun v => ?_
    flight_nodup := fun j team hj => h.flight_nodup j team (hold j team hj).2
    flight_known := fun j team hj => h.flight_known j team (hold j team hj).2
    flight_apart := fun j j' team team' hj hj' =>
      h.flight_apart j j' team team' (hold j team hj).2 (hold j' team' hj').2
    flight_own := fun j team hj => h.flight_own j team (hold j team hj).2
    pending_flight := fun q hq => ?_
    started_flight := fun j hj => ?_
    refused_flight := fun q hq => ?_
    unanswered_nodup := (hs.append ((hr.append (.refl _)).map _)).nodup h.unanswered_nodup
    numbers := fun hadmits j hused => h.numbers hadmits j ?_ }
  · simp only [List.mem_filter, decide_eq_true_eq, h.reserved_iff v]
    constructor
    · rintro ⟨⟨j, team, hj, hv⟩, hmembers⟩
      refine ⟨j, team, ?_, hv⟩
      rw [if_neg, hj]
      rintro rfl
      rw [hflight] at hj
      cases hj
      exact hmembers hv
    · rintro ⟨j, team, hj, hv⟩
      obtain ⟨hne, hj⟩ := hold j team hj
      exact ⟨⟨j, team, hj, hv⟩, fun hm => hne (h.flight_apart j id team members hj hflight v hv hm)⟩
  · dsimp only
    rw [if_neg (hidp q (Or.inr hq))]
    exact h.pending_flight q hq
  · obtain ⟨team, hteam⟩ := h.started_flight j (hs.subset hj)
    refine ⟨team, ?_⟩
    dsimp only
    rw [if_neg, hteam]
    rintro rfl
    exact hids hj
  · dsimp only
    rw [if_neg (hidp q (Or.inl hq))]
    exact h.refused_flight q (hr.subset hq)
  · by_cases heq : j = id
    · exact Or.inl (by simp [heq, hflight])
    · simpa [heq] using hused

end Sound

end Roster

end MixRounds.Live
