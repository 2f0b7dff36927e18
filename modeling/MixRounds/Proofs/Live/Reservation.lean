import MixRounds.Proofs.Live.Start
import MixRounds.Proofs.Live.Teams

/-!
# The reservation discipline

With the workers — the starter, the watchers, the sweep — every move of a scheduler is accounted for:
each keeps the picture of `Roster` sound (`World.step_sound`), hence every run does
(`World.run_sound`).  The step that matters is the start: the members of its team are reserved before
it, and reserved *and* holding after it, until the loop has heard of it.

**`World.run_disciplined`** is what comes out of it for an operator.  In every state that any run
from an idle network reaches,

* nobody is online and offline, the reserved nodes are exactly the members of the teams in flight, no
  two of these teams share a member, and nobody who is reserved or holds a round is in the pool;
* whoever holds a round is on its team;
* no start of a formed team is refused for a member that holds a round, and no notification meets an
  unknown round.

At the end stands a small scheduler, to try general results on.
-/

namespace MixRounds.Live.World

variable {w : World}

/-! ## The workers -/

lemma takeProto_sound (h : w.roster.Sound) : w.takeProto.roster.Sound := by
  rw [takeProto]
  split
  · rename_i p rest hstarter hprotos
    refine h.forget ?_ (.refl _) (.refl _) id
    simp [roster, pending, hstarter, hprotos]
  · rename_i hstarter hprotos
    split
    · exact h
    · refine h.forget ?_ (.refl _) (.refl _) id
      simp [roster, pending, hstarter, hprotos]
  · exact h

/-- **The starter reports** on the team that it has just dealt with.  If the loop is gone, the teams
still to come are lost with the report. -/
lemma roster_report (w : World) (e : Event) :
    (w.report e).roster = if w.events.closed
      then { w.roster with pending := [] }
      else { w.roster with
        pending := w.protos
        started := w.roster.started ++ e.started?.toList
        refused := w.roster.refused ++ e.refused?.toList } := by
  have hmessages := w.events.messages_send .starter e
  have hrefused := w.events.send_fst_eq_refused_iff .starter e
  have hsingle : ∀ {α : Type} (f : Event → Option α), [e].filterMap f = (f e).toList := by
    intro α f
    cases hf : f e <;> simp [hf]
  rw [report]
  split <;> rename_i ch heq <;> rw [heq] at hmessages hrefused
  · have hopen : w.events.closed = false := by simpa using hrefused
    simp only [hopen, Bool.false_eq_true, if_false] at hmessages ⊢
    simp only [roster, pending, hmessages, List.filterMap_append, hsingle]
    rfl
  · have hopen : w.events.closed = false := by simpa using hrefused
    simp only [hopen, Bool.false_eq_true, if_false] at hmessages ⊢
    simp only [roster, pending, hmessages, List.filterMap_append, hsingle]
    rfl
  · have hclosed : w.events.closed = true := hrefused.1 rfl
    simp only [hclosed, if_true] at hmessages ⊢
    simp only [roster, pending, hmessages]
    rfl

lemma free_of_pending (h : w.roster.Sound) {p : ProtoRound} (hp : p ∈ w.pending) :
    ∀ v ∈ p.topology, ∃ node, w.shared.net.nodes.get? v = some node ∧ node.round = none := by
  intro v hv
  obtain ⟨node, hnode⟩ := Table.mem_keys_iff.1 (h.flight_known _ _ (h.pending_flight p hp) v hv)
  refine ⟨node, hnode, ?_⟩
  rw [← Network.holding_of_get? hnode]
  exact h.pending_free hp hv

lemma start_pending (h : w.roster.Sound) {p : ProtoRound} (hp : p ∈ w.pending) (now : Instant)
    (clock : Nat) :
    (∃ v ∈ p.topology, w.shared.start now clock p = (w.shared, .error (.banned v))) ∨
      ∃ s', w.shared.start now clock p = (s', .ok ()) ∧ Shared.Started p w.shared s' :=
  w.shared.start_cases now clock p (h.flight_nodup _ _ (h.pending_flight p hp))
    (free_of_pending h hp) (Network.team?_eq_none_iff.1 (h.pending_new p hp))

/-- **An attempt at a start**: none is due, or a member of the team is banned, or the round is started; and
the starter reports on it. -/
lemma attempt_cases (h : w.roster.Sound) : w.attempt = w ∨ ∃ p ∈ w.pending,
    (∃ v ∈ p.topology, w.attempt = ({ w with
      shared := w.shared.notify (.startFailed p.id (.banned v)) } : World).report
        (.startFailed p (.banned v))) ∨
    ∃ s, w.shared.start w.wall w.clock p = (s, .ok ()) ∧ Shared.Started p w.shared s ∧
      w.attempt = ({ w with shared := s } : World).report (.started p.id) := by
  rw [attempt]
  split
  · rename_i p due hstarter
    have hp : p ∈ w.pending := by simp [pending, hstarter]
    split
    · exact Or.inl rfl
    · refine Or.inr ⟨p, hp, ?_⟩
      rcases start_pending h hp w.wall w.clock with ⟨v, hv, hstart⟩ | ⟨s, hstart, hstarted⟩
      · exact Or.inl ⟨v, hv, by simp only [hstart]⟩
      · exact Or.inr ⟨s, hstart, hstarted, by simp only [hstart]⟩
  · exact Or.inl rfl

lemma shared_report (w : World) (e : Event) : (w.report e).shared = w.shared := by
  rw [report]
  split <;> rfl

/-- A started round shows up as a team, and as the round that its members hold. -/
lemma roster_started (w : World) {p : ProtoRound} {s' : Shared} (hknown : ∀ v ∈ p.topology,
    ∃ node, w.shared.net.nodes.get? v = some node) (hstarted : Shared.Started p w.shared s') :
    ({ w with shared := s' } : World).roster = { w.roster with
      holding := fun v => if v ∈ p.topology then some p.id else w.roster.holding v
      team := fun id => if id = p.id then some p.topology else w.roster.team id } := by
  have hroster := roster_shared w (s := s')
    (fun j => by rw [hstarted.nodes j]; split <;> simp) hstarted.counter
  have hholding : s'.net.holding
      = fun v => if v ∈ p.topology then some p.id else w.shared.net.holding v := by
    funext v
    simp only [Network.holding, hstarted.nodes v]
    split
    · obtain ⟨node, hnode⟩ := hknown v ‹_›
      simp [hnode]
    · rfl
  have hteam : s'.net.team?
      = fun id => if id = p.id then some p.topology else w.shared.net.team? id := by
    obtain ⟨r, htopology, -, -, hrounds⟩ := hstarted.rounds
    funext id
    simp only [Network.team?, hrounds id]
    split
    · simp [htopology]
    · rfl
  rw [hroster, hholding, hteam, hstarted.pool]
  rfl

/-- **A start keeps the picture sound**, and so does its report. -/
lemma attempt_sound (h : w.roster.Sound) : w.attempt.roster.Sound := by
  rw [attempt]
  split
  · rename_i p due hstarter
    have hpending : w.pending = p :: w.protos := by simp [pending, hstarter]
    have hp : p ∈ w.pending := hpending ▸ List.mem_cons_self
    split
    · exact h
    · rcases start_pending h hp w.wall w.clock with ⟨v, -, hstart⟩ | ⟨s', hstart, hstarted⟩
      · simp only [hstart]
        rw [roster_report]
        split
        · exact h.forget (List.nil_sublist _) (.refl _) (.refl _) id
        · simp only [Event.started?, Event.refused?, Option.toList_none, Option.toList_some,
            List.append_nil]
          exact h.decline hpending
      · simp only [hstart]
        have hknown : ∀ v ∈ p.topology, ∃ node, w.shared.net.nodes.get? v = some node :=
          fun v hv => (free_of_pending h hp v hv).imp fun _ => And.left
        have hcommit := h.commit hpending
        rw [roster_report, roster_started w hknown hstarted]
        split
        · exact hcommit.forget (List.nil_sublist _) (.refl _) (List.sublist_append_left _ _) id
        · simp only [Event.started?, Event.refused?, Option.toList_none, Option.toList_some,
            List.append_nil]
          exact hcommit
  · exact h

lemma admitEvent_sound (h : w.roster.Sound) : w.admitEvent.roster.Sound := by
  have hadmitted : ∀ {sender : Worker} {ch : Channel Worker Event},
      w.events.admit? = some (sender, ch) → ∀ starter,
      ({ w with events := ch, starter := starter } : World).pending.Sublist w.pending →
      ({ w with events := ch, starter := starter } : World).roster.Sound := by
    intro sender ch hadmit starter hpending
    have hmessages := Channel.messages_admit? hadmit
    refine h.forget hpending ?_ ?_ id
    · simp [roster, hmessages]
    · simp [roster, hmessages]
  rw [admitEvent]
  split
  · exact h
  · refine hadmitted ‹_› .idle ?_
    unfold pending
    dsimp only
    split <;> simp
  · exact hadmitted ‹_› w.starter (.refl _)

lemma tell_sound (h : w.roster.Sound) (watcher : Watcher) {e : Event} (hs : e.started? = none)
    (hr : e.refused? = none) : (w.tell watcher e).roster.Sound := by
  have hmessages := w.events.messages_send (.watcher watcher.round watcher.phase) e
  refine h.forget (.refl _) ?_ ?_ id
  all_goals
    simp only [roster, tell, hmessages]
    split
    · exact .refl _
    · simp [hs, hr]

lemma leave_sound (h : w.roster.Sound) (watcher : Watcher) : (w.leave watcher).roster.Sound := by
  rw [leave]
  split
  · dsimp only
    split
    · exact h
    · exact tell_sound h watcher rfl rfl
  · exact h

lemma expire_sound (h : w.roster.Sound) (watcher : Watcher) : (w.expire watcher).roster.Sound := by
  rw [expire]
  split
  · exact tell_sound h watcher rfl rfl
  · exact h

/-- The sweep parts nobody from a round: whom it moves was waiting, and held none. -/
lemma holding_sweepNow (h : w.roster.Sound) :
    w.sweepNow.shared.net.holding = w.shared.net.holding := by
  funext j
  simp only [sweepNow, mapShared, Network.holding, Pool.get?_sweep]
  split
  · rename_i hstale
    have hfree : w.shared.net.holding j = none :=
      h.pool_free j (Or.inl (List.mem_filter.1 hstale).1)
    rw [Network.holding] at hfree
    rw [hfree]
    cases w.shared.net.nodes.get? j <;> rfl
  · rfl

lemma sweepNow_sound (h : w.roster.Sound) : w.sweepNow.roster.Sound := by
  have hroster := roster_shared w (s := w.sweepNow.shared) (fun j => by
      simp only [sweepNow, mapShared, Pool.get?_sweep]
      split <;> simp) rfl
  rw [holding_sweepNow h] at hroster
  have hsound := h.of_pool (h.tidy.sweep w.shared.net.nodes w.wall
    w.settings.offlineTimeoutSecs.toNat) fun j hj => (Pool.mem_sweep _ _ _ _).1 hj
  exact hroster ▸ hsound

lemma sweep_sound (h : w.roster.Sound) : w.sweep.roster.Sound := by
  rw [sweep]
  split
  · exact h
  · split
    · exact h
    · exact sweepNow_sound h

lemma launch_sound (h : w.roster.Sound) : w.launch.roster.Sound := by
  rw [launch]
  split
  · rename_i hstage
    refine h.forget ?_ (.refl _) (.refl _) fun _ => ?_
    · simp only [roster, pending]
      split <;> simp
    · simp [roster, handsOut, hstage]
  · exact h

lemma conclude_sound (h : w.roster.Sound) : w.conclude.roster.Sound := by
  rw [conclude]
  split
  · exact h.forget (.refl _) (.refl _) (.refl _) fun hadmits => by simp [handsOut] at hadmits
  · exact h

lemma drop_sound (h : w.roster.Sound) : w.drop.roster.Sound := by
  have hdropped : ∀ w' : World, w'.roster.Sound →
      ({ w' with loop := { w'.loop with stage := .dropped } } : World).roster.Sound := fun w' h' =>
    h'.forget (.refl _) (.refl _) (.refl _) fun hadmits => by simp [handsOut] at hadmits
  have hclosed : w.closeQueues.roster.Sound := by
    rw [roster_closeQueues]
    exact h.forget (.refl _) (List.nil_sublist _) (List.nil_sublist _) id
  rw [drop]
  refine hdropped _ ?_
  split
  · exact hclosed
  · exact hclosed
  · exact h

/-! ## Every run -/

/-- **Every move keeps the picture sound.** -/
theorem step_sound (h : w.roster.Sound) (m : Move) : (w.step m).roster.Sound := by
  cases m with
  | poll call v a => exact poll_sound h call v a
  | ban call v => exact (roster_ban w call v).symm ▸ h
  | request r => exact (roster_request w r).symm ▸ h
  | resumeBan call => exact (roster_resumeBan w call).symm ▸ h
  | admitUpdate => exact (roster_admitUpdate w).symm ▸ h
  | admitEvent => exact admitEvent_sound h
  | admitRequest => exact (roster_admitRequest w).symm ▸ h
  | iterate source chance => exact iterate_sound h source chance
  | takeProto => exact takeProto_sound h
  | attempt => exact attempt_sound h
  | conclude => exact conclude_sound h
  | leave watcher => exact leave_sound h watcher
  | expire watcher => exact expire_sound h watcher
  | sweep => exact sweep_sound h
  | launch => exact launch_sound h
  | drop => exact drop_sound h
  | pass ms =>
      dsimp only [step, pass]
      split <;> exact h
  | wallPass nanos => exact h

theorem run_sound (h : w.roster.Sound) (moves : List Move) : (w.run moves).roster.Sound := by
  induction moves generalizing w with
  | nil => exact h
  | cons m rest ih => exact ih (step_sound h m)

lemma create_sound (settings : Settings) (latency : Latency) (isDisabled : NodeId → Bool)
    {net : Network} (wall : Instant) (h : net.Idle) :
    (create settings latency isDisabled net wall).roster.Sound where
  tidy := Pool.tidy_empty
  pool_known v hv := absurd hv (Pool.not_mem_empty v)
  pool_free v hv := absurd hv (Pool.not_mem_empty v)
  pool_unreserved v hv := absurd hv (Pool.not_mem_empty v)
  reserved_iff v := by simp [roster, create]
  flight_nodup id team hteam := by cases hteam
  flight_known id team hteam := by cases hteam
  flight_apart id id' team team' hteam := by cases hteam
  flight_own id team hteam := by cases hteam
  team_nodup id team hteam := by simp [roster, create, Network.team?, h.rounds id] at hteam
  held_team v id hv := by simp [roster, create, h.holding v] at hv
  pending_flight p hp := by cases hp
  pending_new p hp := by cases hp
  started_flight id hid := by cases hid
  refused_flight p hp := by cases hp
  unanswered_nodup := List.nodup_nil
  numbers _ id hused := by simp [roster, create, Network.team?, h.rounds id] at hused

/-- What an operator can rely on between two turns of the loop. -/
structure Disciplined (w : World) : Prop where
  /-- Nobody is online and offline. -/
  sets_apart : ∀ v ∈ w.shared.pool.online, v ∉ w.shared.pool.offline
  /-- The reserved nodes are the members of the teams in flight. -/
  reserved_iff : ∀ v, v ∈ w.loop.reserved ↔
    ∃ id team, w.loop.inFlight.get? id = some team ∧ v ∈ team
  /-- Two teams in flight have no member in common. -/
  teams_apart : ∀ id id' team team', w.loop.inFlight.get? id = some team →
    w.loop.inFlight.get? id' = some team' → id ≠ id' → team.Disjoint team'
  /-- Whoever is promised to a team or holds a round does not wait. -/
  not_waiting : ∀ v, v ∈ w.loop.reserved ∨ w.shared.net.holding v ≠ none →
    v ∉ w.shared.pool.online ∧ v ∉ w.shared.pool.offline
  /-- A round that is held exists, and its holder is on its team. -/
  held_team : ∀ v id, w.shared.net.holding v = some id →
    ∃ r, w.shared.net.rounds.get? id = some r ∧ v ∈ r.topology
  /-- No start of a team that is still to come fails for a member that holds a round. -/
  start_ne_holdsRound : ∀ p ∈ w.pending, ∀ now clock v held,
    (w.shared.start now clock p).2 ≠ .error (.holdsRound v held)
  /-- No notification fails for want of a round. -/
  apply_ne_unknownRound : ∀ n id,
    ((w.takenOver n).shared.apply w.settings w.wall w.clock w.loop.reserved n).2
      ≠ .error (.unknownRound id)

lemma Disciplined.of_sound (h : w.roster.Sound) : w.Disciplined where
  sets_apart := h.tidy.apart
  reserved_iff := h.reserved_iff
  teams_apart id id' team team' hid hid' hne v hv hv' :=
    hne (h.flight_apart id id' team team' hid hid' v hv hv')
  not_waiting v hv := by
    have hout : v ∉ w.shared.pool := by
      rcases hv with hv | hv
      · exact h.not_mem_pool_of_reserved hv
      · obtain ⟨id, hid⟩ := Option.ne_none_iff_exists'.1 hv
        exact h.not_mem_pool_of_holding hid
    exact not_or.1 hout
  held_team v id hv := by
    obtain ⟨team, hteam, hmember⟩ := h.held_team v id hv
    obtain ⟨r, hr, rfl⟩ := Option.map_eq_some_iff.1 hteam
    exact ⟨r, hr, hmember⟩
  start_ne_holdsRound p hp now clock v held := by
    rcases start_pending h hp now clock with ⟨j, -, hstart⟩ | ⟨s', hstart, -⟩ <;> simp [hstart]
  apply_ne_unknownRound n id :=
    Shared.apply_ne_unknownRound
      (fun _ hid => exists_round (w := w.takenOver n) ((roster_takenOver w n).symm ▸ h) hid) id

/-- **The reservation discipline**, in every state that any run from an idle network reaches. -/
theorem run_disciplined (settings : Settings) (latency : Latency) (isDisabled : NodeId → Bool)
    {net : Network} (wall : Instant) (h : net.Idle) (moves : List Move) :
    ((create settings latency isDisabled net wall).run moves).Disciplined :=
  .of_sound (run_sound (create_sound settings latency isDisabled wall h) moves)

/-! ## A small scheduler -/

/-- A network of active nodes in one region. -/
def smallNetwork (names : List NodeId) : Network :=
  names.foldl (fun net v => net.register v "Asia" .active ⟨0, 0⟩)
    (.empty ⟨0, [], ⟨default, []⟩⟩ ⟨1⟩)

lemma idle_smallNetwork (names : List NodeId) : (smallNetwork names).Idle := by
  suffices h : ∀ net : Network, net.Idle →
      (names.foldl (fun net v => net.register v "Asia" .active ⟨0, 0⟩) net).Idle from
    h _ (Network.idle_empty _ _)
  induction names with
  | nil => exact fun _ h => h
  | cons v rest ih => exact fun net h => ih _ (h.register v _ _ _)

lemma free_smallNetwork (names : List NodeId) : (smallNetwork names).Free := by
  suffices h : ∀ net : Network, net.Free →
      (names.foldl (fun net v => net.register v "Asia" .active ⟨0, 0⟩) net).Free from
    h _ (Network.free_empty _ _)
  induction names with
  | nil => exact fun _ h => h
  | cons v rest ih => exact fun net h => ih _ (h.register v _ _ _)

/-- A scheduler that makes one team of all of its nodes, as soon as they wait, and starts it without
delay. -/
def small (names : List NodeId) : World :=
  create { Settings.builtIn with
      teamSize := UInt64.ofNat names.length
      poolThreshold := 0
      minDelayMs := 0 }
    .builtIn (fun _ => false) (smallNetwork names) ⟨0, 0⟩

/-- A report and its way through the loop. -/
def reporting (v : NodeId) (a : Activity) : List Move :=
  [.poll 0 v a, .iterate .updates fun _ => .still]

/-- The moves that bring the team of all nodes together, up to its start. -/
def gather (names : List NodeId) : List Move :=
  .launch :: (names.flatMap fun v => reporting v .waiting) ++ [.takeProto]

/-- The moves that start the team, and of which the loop hears. -/
def kickoff : List Move := [.attempt, .iterate .events fun _ => .still]

/-- A team of two is started. -/
theorem run_disciplined_of_two : (smallNetwork ["a", "b"]).Idle ∧
    ((small ["a", "b"]).run (gather ["a", "b"] ++ kickoff)).Disciplined :=
  ⟨idle_smallNetwork _, run_disciplined _ _ _ _ (idle_smallNetwork _) _⟩

end MixRounds.Live.World
