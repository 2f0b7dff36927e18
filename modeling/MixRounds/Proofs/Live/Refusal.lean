import MixRounds.Proofs.Live.Delivery

/-!
# What a refused notification leaves behind

A notification is refused for one of seven reasons.  Most of them are found before anything is touched.
Three are not, and should be: a report of completion gives the node's round up and is counted afterwards, and
a report that completes a team is counted even if the round cannot move.  Nothing takes this back.
`Shared.Refused` lists the seven, each with the state that it is met in and the state that it leaves.

* `Shared.apply_eq_error_iff` — the list is complete, and every entry of it occurs.
* `Shared.refused_spares` — a refused notification changes nothing, but for two things: the node of a
  refused completion has lost its round, and a round that could not move has counted one member more.
* **`Shared.unchanged_iff_of_refused`** — it changes nothing at all if and only if it is refused for neither
  of the two.
* `World.not_unchanged_of_overhasty` — both happen at once, when a node runs ahead of its team.

In a run this takes a member that completes while its round is still in precomputing, and is counted there
(`World.unchanged_of_patient`).
-/

namespace MixRounds

/-- The refusal of a member that should be counted. -/
def Fault.isCount : Fault → Bool
  | .readinessOverflow .. | .illegalPhase .. => true
  | _ => false

/-- The refusal of a round that cannot move where it should. -/
def Fault.isStuck : Fault → Bool
  | .illegalPhase .. => true
  | _ => false

namespace Live

namespace Shared

/-- One member more of a round is ready. -/
def counting (s : Shared) (id : RoundId) (r : Round) : Shared :=
  { s with net := s.net.setRound id { r with ready := r.ready + 1 } }

/-- **Why a notification is refused**, and what is left of `s` then. -/
inductive Refused (s : Shared) (n : Notification) : Fault → Shared → Prop where
  | unknownNode (hnode : s.net.nodes.get? n.node = none) : Refused s n (.unknownNode n.node) s
  | unknownRound {id : RoundId} (hheld : s.net.holding n.node = some id)
      (hround : s.net.rounds.get? id = none) : Refused s n (.unknownRound id) s
  | noRound {a : Activity} (hnode : n.node ∈ s.net.nodes.keys) (hheld : s.net.holding n.node = none)
      (hk : s.kindOf n = .activity a) (ha : a = .standby ∨ a = .completed) :
      Refused s n (.noRound n.node a) s
  /-- The team was complete before. -/
  | fullStandby {id : RoundId} {r : Round} (hheld : s.Holds n.node (some (id, r)))
      (hk : s.kindOf n = .activity .standby) (hfull : r.teamSize ≤ r.ready) :
      Refused s n (.readinessOverflow id r.teamSize) s
  | fullCompletion {id : RoundId} {r : Round} (hheld : s.Holds n.node (some (id, r)))
      (hk : s.kindOf n = .activity .completed) (hfull : r.teamSize ≤ r.ready) :
      Refused s n (.readinessOverflow id r.teamSize) (s.mapNode n.node Node.detach)
  /-- The team is complete now, and the round is not where it could move from. -/
  | stuckStandby {id : RoundId} {r : Round} (hheld : s.Holds n.node (some (id, r)))
      (hk : s.kindOf n = .activity .standby) (hlast : r.ready + 1 = r.teamSize)
      (hphase : r.phase.mayAdvance .realtime = false) :
      Refused s n (.illegalPhase id r.phase .realtime) (s.counting id r)
  | stuckCompletion {id : RoundId} {r : Round} (hheld : s.Holds n.node (some (id, r)))
      (hk : s.kindOf n = .activity .completed) (hlast : r.ready + 1 = r.teamSize)
      (hphase : r.phase.mayAdvance .completed = false) :
      Refused s n (.illegalPhase id r.phase .completed)
        ((s.mapNode n.node Node.detach).counting id r)

variable {settings : Settings} {now : Instant} {clock : Nat} {reserved : List NodeId}
  {s s' : Shared} {n : Notification} {fault : Fault}

/-! ## The reasons -/

/-- **A count is refused** for one of two reasons: there is no room, and nothing has happened; or the
round cannot move, and the member is counted. -/
lemma countAndAdvance_eq_error_iff {id : RoundId} {r : Round} {next : Phase} {stamp : Instant}
    {after : Shared → Shared} :
    s.countAndAdvance id r next stamp after = (s', .error fault) ↔
      (r.teamSize ≤ r.ready ∧ .readinessOverflow id r.teamSize = fault ∧ s = s') ∨
      (r.ready + 1 = r.teamSize ∧ r.phase.mayAdvance next = false ∧
        .illegalPhase id r.phase next = fault ∧ s.counting id r = s') := by
  rw [countAndAdvance, Round.countReady]
  by_cases hfull : r.teamSize ≤ r.ready
  · have hlast : r.ready + 1 ≠ r.teamSize := by omega
    simp [hfull, hlast, and_comm]
  · by_cases hlast : r.ready + 1 = r.teamSize
    · cases hmay : r.phase.mayAdvance next with
      | true => simp [hfull, hlast, Round.advance, hmay]
      | false => simp [hfull, hlast, Round.advance, hmay, counting, and_comm]
    · simp [hfull, hlast]

/-- **A report is refused** if it is a standby or a completion and its node holds no round, or if it
cannot be counted. -/
lemma refused_of_applyActivity {node : Node} {held : Option (RoundId × Round)} {a : Activity}
    (hnode : s.net.nodes.get? n.node = some node) (hheld : s.Holds n.node held)
    (hk : s.kindOf n = .activity a)
    (h : s.applyActivity settings now clock reserved n.node node held a = (s', .error fault)) :
    s.Refused n fault s' := by
  have hknown : n.node ∈ s.net.nodes.keys := Table.mem_keys_iff.2 ⟨node, hnode⟩
  cases a with
  | notStarted | precomputing | realtime => cases h
  | waiting =>
      dsimp only [applyActivity] at h
      split at h
      · cases h
      · split at h <;> cases h
  | error =>
      obtain ⟨e, he⟩ := killHeld_ok s now n.node (held.map Prod.fst) .nodeError
      rw [applyActivity] at h
      rw [h] at he
      cases he
  | standby =>
      cases held with
      | none =>
          cases h
          exact .noRound hknown hheld hk (Or.inl rfl)
      | some held =>
          simp only [applyActivity] at h
          rcases countAndAdvance_eq_error_iff.1 h with ⟨hfull, rfl, rfl⟩ | ⟨hlast, hmay, rfl, rfl⟩
          · exact .fullStandby hheld hk hfull
          · exact .stuckStandby hheld hk hlast hmay
  | completed =>
      cases held with
      | none =>
          cases h
          exact .noRound hknown hheld hk (Or.inr rfl)
      | some held =>
          simp only [applyActivity] at h
          rcases countAndAdvance_eq_error_iff.1 h with ⟨hfull, rfl, rfl⟩ | ⟨hlast, hmay, rfl, rfl⟩
          · exact .fullCompletion hheld hk hfull
          · exact .stuckCompletion hheld hk hlast hmay

lemma refused_of_apply (h : s.apply settings now clock reserved n = (s', .error fault)) :
    s.Refused n fault s' := by
  cases hnode : s.net.nodes.get? n.node with
  | none =>
      rw [apply, hnode] at h
      cases h
      exact .unknownNode hnode
  | some node =>
      by_cases hexists : ∀ id, s.net.holding n.node = some id → ∃ r, s.net.rounds.get? id = some r
      · obtain ⟨held, hheld⟩ := exists_holds hexists
        rw [apply_eq hnode hheld] at h
        cases hk : s.kindOf n with
        | alreadyBanned | staleAfterFailure => simp [hk] at h
        | ban =>
            obtain ⟨e, he⟩ := killHeld_ok { s with pool := (s.pool.remove n.node).2 } now n.node
              (s.net.holding n.node) .nodeBanned
            simp only [hk] at h
            rw [h] at he
            cases he
        | activity a =>
            simp only [hk] at h
            exact refused_of_applyActivity hnode hheld hk h
      · -- the node holds a round that is not there
        push Not at hexists
        obtain ⟨id, hid, hnone⟩ := hexists
        have hround : s.net.rounds.get? id = none := Option.eq_none_iff_forall_ne_some.2 hnone
        have hheld : node.round = some id := (Network.holding_of_get? hnode).symm.trans hid
        simp only [apply, hnode, hheld, hround] at h
        cases h
        exact .unknownRound hid hround

/-- A standby is counted. -/
lemma apply_standby {id : RoundId} {r : Round} (hheld : s.Holds n.node (some (id, r)))
    (hk : s.kindOf n = .activity .standby) :
    ∃ stamp after, s.apply settings now clock reserved n
      = s.countAndAdvance id r .realtime stamp after := by
  obtain ⟨node, hnode, -⟩ := Option.bind_eq_some_iff.1 hheld.1
  rw [apply_eq hnode hheld, hk]
  simp only [applyActivity]
  exact ⟨_, _, rfl⟩

/-- A completion is counted after the node has lost its round. -/
lemma apply_completed {id : RoundId} {r : Round} (hheld : s.Holds n.node (some (id, r)))
    (hk : s.kindOf n = .activity .completed) :
    ∃ stamp after, s.apply settings now clock reserved n
      = (s.mapNode n.node Node.detach).countAndAdvance id r .completed stamp after := by
  obtain ⟨node, hnode, -⟩ := Option.bind_eq_some_iff.1 hheld.1
  rw [apply_eq hnode hheld, hk]
  simp only [applyActivity]
  exact ⟨_, _, rfl⟩

/-- **Each of the reasons is met.** -/
lemma Refused.apply (h : s.Refused n fault s') :
    s.apply settings now clock reserved n = (s', .error fault) := by
  cases h with
  | unknownNode hnone => rw [Shared.apply, hnone]
  | unknownRound hheld hround =>
      obtain ⟨node, hget, hround'⟩ := Option.bind_eq_some_iff.1 hheld
      simp only [Shared.apply, hget, hround', hround]
  | noRound hknown hheld hk ha =>
      obtain ⟨node, hget⟩ := Table.mem_keys_iff.1 hknown
      rw [apply_eq hget (show s.Holds n.node none from hheld), hk]
      rcases ha with rfl | rfl <;> rfl
  | fullStandby hheld hk hfull =>
      obtain ⟨stamp, after, heq⟩ := apply_standby hheld hk
      rw [heq]
      exact countAndAdvance_eq_error_iff.2 (Or.inl ⟨hfull, rfl, rfl⟩)
  | fullCompletion hheld hk hfull =>
      obtain ⟨stamp, after, heq⟩ := apply_completed hheld hk
      rw [heq]
      exact countAndAdvance_eq_error_iff.2 (Or.inl ⟨hfull, rfl, rfl⟩)
  | stuckStandby hheld hk hlast hmay =>
      obtain ⟨stamp, after, heq⟩ := apply_standby hheld hk
      rw [heq]
      exact countAndAdvance_eq_error_iff.2 (Or.inr ⟨hlast, hmay, rfl, rfl⟩)
  | stuckCompletion hheld hk hlast hmay =>
      obtain ⟨stamp, after, heq⟩ := apply_completed hheld hk
      rw [heq]
      exact countAndAdvance_eq_error_iff.2 (Or.inr ⟨hlast, hmay, rfl, rfl⟩)

/-- **The reasons are complete, and each of them is met**: a notification is refused exactly if the list
says so, with what the list says. -/
theorem apply_eq_error_iff :
    s.apply settings now clock reserved n = (s', .error fault) ↔ s.Refused n fault s' :=
  ⟨refused_of_apply, Refused.apply⟩

/-! ## What is left -/

/-- **A refusal spares everything** but two things: the node of a completion has lost its round if the
completion was to be counted, and the round that the node held has one member more that is ready if it
could not move. -/
structure Spared (s : Shared) (n : Notification) (fault : Fault) (s' : Shared) : Prop where
  nodes : ∀ v, s'.net.nodes.get? v =
    if v = n.node ∧ s.kindOf n = .activity .completed ∧ fault.isCount = true then
      (s.net.nodes.get? v).map Node.detach
    else s.net.nodes.get? v
  rounds : ∀ id, s'.net.rounds.get? id =
    if s.net.holding n.node = some id ∧ fault.isStuck = true then
      (s.net.rounds.get? id).map fun r => { r with ready := r.ready + 1 }
    else s.net.rounds.get? id
  log : s'.net.log = s.net.log
  counter : s'.net.counter = s.net.counter
  pool : s'.pool = s.pool
  tracker : s'.tracker = s.tracker
  watchers : s'.watchers = s.watchers
  notices : s'.notices = s.notices

/-- Nothing has changed. -/
lemma Spared.refl (hstuck : fault.isStuck = false)
    (hcount : s.kindOf n = .activity .completed → fault.isCount = false) : s.Spared n fault s where
  nodes v := by
    split
    · rename_i hv
      simp [hcount hv.2.1] at hv
    · rfl
  rounds id := by simp [hstuck]
  log := rfl
  counter := rfl
  pool := rfl
  tracker := rfl
  watchers := rfl
  notices := rfl

/-- One member more of the round that the node holds is ready. -/
lemma get?_rounds_counting {v : NodeId} {id : RoundId} {r : Round} (hheld : s.Holds v (some (id, r)))
    (j : RoundId) : (s.counting id r).net.rounds.get? j =
      if s.net.holding v = some j then
        (s.net.rounds.get? j).map fun r => { r with ready := r.ready + 1 }
      else s.net.rounds.get? j := by
  rw [counting, Network.get?_setRound]
  by_cases hj : j = id
  · simp [hj, hheld.1, hheld.2]
  · simp [hj, hheld.1, Ne.symm hj]

/-- **Every refusal of the list spares everything else.** -/
lemma Refused.spares (h : s.Refused n fault s') : s.Spared n fault s' := by
  cases h with
  | unknownNode | unknownRound | noRound => exact .refl rfl fun _ => rfl
  | fullStandby hheld hk => exact .refl rfl fun hk' => by simp [hk] at hk'
  | fullCompletion hheld hk =>
      refine ⟨fun v => ?_, fun id => ?_, rfl, rfl, rfl, rfl, rfl, rfl⟩
      · simp [mapNode, Network.mapNode, Table.get?_modify, hk, Fault.isCount]
      · simp [mapNode, Fault.isStuck]
  | stuckStandby hheld hk =>
      refine ⟨fun v => ?_, fun id => ?_, rfl, rfl, rfl, rfl, rfl, rfl⟩
      · simp [counting, hk]
      · simpa [Fault.isStuck] using get?_rounds_counting hheld id
  | @stuckCompletion id r hheld hk =>
      refine ⟨fun v => ?_, fun j => ?_, rfl, rfl, rfl, rfl, rfl, rfl⟩
      · simp [counting, mapNode, Network.mapNode, Table.get?_modify, hk, Fault.isCount]
      · have hsame : ((s.mapNode n.node Node.detach).counting id r).net.rounds
            = (s.counting id r).net.rounds := rfl
        rw [hsame]
        simpa [Fault.isStuck] using get?_rounds_counting hheld j

/-- **A refused notification changes nothing** but for a round given up and a member counted, in any
state and for any notification. -/
theorem refused_spares
    (h : s.apply settings now clock reserved n = (s', .error fault)) : s.Spared n fault s' :=
  (apply_eq_error_iff.1 h).spares

/-- **Whether anything is left**, for every refusal of the list. -/
lemma Refused.eq_iff (h : s.Refused n fault s') : s' = s ↔
    fault.isStuck = false ∧ (s.kindOf n = .activity .completed → fault.isCount = false) := by
  -- one member more is ready, whatever has become of the node
  have hcounted : ∀ (s₀ : Shared) {id : RoundId} {r : Round}, s₀.net.rounds = s.net.rounds →
      s.net.rounds.get? id = some r → s₀.counting id r ≠ s := by
    intro s₀ id r hrounds hround heq
    have hready : (s₀.counting id r).net.rounds.get? id = some { r with ready := r.ready + 1 } := by
      simp [counting, Network.get?_setRound, hrounds, hround]
    rw [heq, hround, Option.some.injEq] at hready
    have hmore : r.ready = r.ready + 1 := congrArg Round.ready hready
    omega
  cases h with
  | unknownNode | unknownRound | noRound => simp [Fault.isStuck, Fault.isCount]
  | fullStandby hheld hk => simp [Fault.isStuck, hk]
  | fullCompletion hheld hk =>
      have hchanged : s.mapNode n.node Node.detach ≠ s := by
        intro heq
        have hlost : (s.mapNode n.node Node.detach).net.holding n.node = none := by
          cases hnode : s.net.nodes.get? n.node <;>
            simp [mapNode, Network.holding, Network.mapNode, hnode, Node.detach]
        rw [heq, hheld.1] at hlost
        cases hlost
      simp [hchanged, hk, Fault.isCount]
  | stuckStandby hheld => simp [hcounted s rfl hheld.2, Fault.isStuck]
  | stuckCompletion hheld =>
      simp [hcounted (s.mapNode n.node Node.detach) rfl hheld.2, Fault.isStuck]

/-- **When a refused notification changes nothing**, in any state and for any notification: if and only if
the refusal is not that of a round that cannot move, nor, for a completion, that of a team that was complete
before.  Whatever the refusal is, it spares everything but the round of the node and the count of that
round. -/
theorem unchanged_iff_of_refused
    (h : s.apply settings now clock reserved n = (s', .error fault)) :
    s.Spared n fault s' ∧ (s' = s ↔
      fault.isStuck = false ∧ (s.kindOf n = .activity .completed → fault.isCount = false)) :=
  ⟨refused_spares h, (apply_eq_error_iff.1 h).eq_iff⟩

end Shared

namespace World

/-- The first of two members goes all the way while the other has not started, and is about to
complete. -/
def overhasty : List Move :=
  gather ["a", "b"] ++ kickoff
    ++ [Activity.precomputing, .standby, .realtime].flatMap (reporting "a") ++ [.poll 0 "a" .completed]

/-- The completion of that member is such a notification. -/
theorem unchanged_iff_of_overhasty :
    let w := (small ["a", "b"]).run overhasty
    ∃ n s', w.delivered? (.iterate .updates fun _ => .still) = some n ∧
      (w.takenOver n).shared.apply w.settings w.wall w.clock w.loop.reserved n
        = (s', .error (.illegalPhase ⟨1⟩ .precomputing .completed)) ∧
      (w.takenOver n).shared.Spared n (.illegalPhase ⟨1⟩ .precomputing .completed) s' ∧
      s' ≠ (w.takenOver n).shared := by
  intro w
  have hresult : (w.delivered? (.iterate .updates fun _ => .still)).map (fun n =>
      ((w.takenOver n).shared.apply w.settings w.wall w.clock w.loop.reserved n).2)
      = some (.error (.illegalPhase ⟨1⟩ .precomputing .completed)) := by decide +kernel
  obtain ⟨n, hn, hrefused⟩ := Option.map_eq_some_iff.1 hresult
  have happly : (w.takenOver n).shared.apply w.settings w.wall w.clock w.loop.reserved n
      = (((w.takenOver n).shared.apply w.settings w.wall w.clock w.loop.reserved n).1,
        .error (.illegalPhase ⟨1⟩ .precomputing .completed)) := by rw [← hrefused]
  obtain ⟨hspared, hunchanged⟩ := Shared.unchanged_iff_of_refused happly
  exact ⟨n, _, hn, happly, hspared, mt hunchanged.1 (by simp [Fault.isStuck])⟩

/-- **A refused completion leaves traces**: its node has lost the round, and the round has counted it. -/
theorem not_unchanged_of_overhasty :
    let w := (small ["a", "b"]).run overhasty
    ∃ n, w.delivered? (.iterate .updates fun _ => .still) = some n ∧
      let s := (w.takenOver n).shared
      let s' := s.apply w.settings w.wall w.clock w.loop.reserved n
      s'.2 = .error (.illegalPhase ⟨1⟩ .precomputing .completed) ∧
        s.net.holding "a" = some ⟨1⟩ ∧ s'.1.net.holding "a" = none ∧
        (s.net.rounds.get? ⟨1⟩).map Round.ready = some 1 ∧
        (s'.1.net.rounds.get? ⟨1⟩).map Round.ready = some 2 := by
  intro w
  have htraces : (w.delivered? (.iterate .updates fun _ => .still)).map (fun n =>
      let s := (w.takenOver n).shared
      let s' := s.apply w.settings w.wall w.clock w.loop.reserved n
      (s'.2, s.net.holding "a", s'.1.net.holding "a", (s.net.rounds.get? ⟨1⟩).map Round.ready,
        (s'.1.net.rounds.get? ⟨1⟩).map Round.ready))
      = some (.error (.illegalPhase ⟨1⟩ .precomputing .completed), some ⟨1⟩, none, some 1, some 2) := by
    decide +kernel
  obtain ⟨n, hn, htraces⟩ := Option.map_eq_some_iff.1 htraces
  simp only [Prod.mk.injEq] at htraces
  exact ⟨n, hn, htraces⟩

end World

end Live

end MixRounds
