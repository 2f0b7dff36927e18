import MixRounds.Proofs.Live.Delivery
import MixRounds.Proofs.Live.Frame

/-!
# Who is provided for

A node that waits says nothing more than heartbeats, and no heartbeat reaches the loop.  So it must be
found where it is: in the pool, or promised to a team, or with a round in its hands.  `Roster.Provides` is
this, with two restrictions that make it last.  The round is not one of the `old` ones, which the node had
before; and the loop has not yet been told that the team was started — once it hears of that, it promises
the members to nobody any more, whether they hold the round or not.

Every move that is not about the node keeps it (**`World.step_provides`**).  A forming team takes the node
out of the pool and makes it a promise; the start of the team makes the promise a round; the refusal of the
team takes the node back to the pool, and does so because the node still waits.
-/

namespace MixRounds.Live

namespace Roster

/-- The node waits in the pool, holds a round that is not among the `old` ones, or is in a team in flight
that was not reported as started. -/
def Provides (σ : Roster) (v : NodeId) (old : RoundId → Prop) : Prop :=
  v ∈ σ.pool ∨ (∃ id, σ.holding v = some id ∧ ¬ old id) ∨
    ∃ id team, σ.inFlight id = some team ∧ v ∈ team ∧ id ∉ σ.started ∧ σ.holding v = none

namespace Provides

variable {σ τ : Roster} {v : NodeId} {old : RoundId → Prop}

/-- Nodes may join the pool, and answers may be heard or lost. -/
lemma mono (h : σ.Provides v old) (hpool : v ∈ σ.pool → v ∈ τ.pool) (hholding : τ.holding v = σ.holding v)
    (hflight : τ.inFlight = σ.inFlight) (hstarted : ∀ id ∈ τ.started, id ∈ σ.started) :
    τ.Provides v old := by
  rcases h with hin | ⟨id, hheld, hnew⟩ | ⟨id, team, hteam, hv, hunheard, hfree⟩
  · exact Or.inl (hpool hin)
  · exact Or.inr (Or.inl ⟨id, hholding ▸ hheld, hnew⟩)
  · exact Or.inr (Or.inr ⟨id, team, hflight ▸ hteam, hv, fun hid => hunheard (hstarted id hid),
      hholding ▸ hfree⟩)

/-- **A team is formed** under a new number: whoever was picked is promised to it now. -/
lemma promise (h : σ.Provides v old) (hs : σ.Sound) {p : ProtoRound} {picked : List NodeId} {pool : Pool}
    (hnew : σ.inFlight p.id = none) (hperm : p.topology.Perm picked)
    (hpool : ∀ j, j ∈ pool ↔ j ∈ σ.pool ∧ j ∉ picked)
    (hτ : τ.pool = pool ∧ τ.holding = σ.holding ∧ τ.started = σ.started ∧
      τ.inFlight = fun id => if id = p.id then some p.topology else σ.inFlight id) :
    τ.Provides v old := by
  obtain ⟨hτpool, hholding, hstarted, hflight⟩ := hτ
  have hunheard : p.id ∉ τ.started := by
    intro hid
    obtain ⟨team, hteam⟩ := hs.started_flight p.id (hstarted ▸ hid)
    simp [hnew] at hteam
  rcases h with hin | ⟨id, hheld, hfresh⟩ | ⟨id, team, hteam, hv, hid, hfree⟩
  · by_cases hv : v ∈ picked
    · refine Or.inr (Or.inr ⟨p.id, p.topology, by simp [hflight], hperm.mem_iff.2 hv, hunheard, ?_⟩)
      rw [hholding]
      exact hs.pool_free v hin
    · exact Or.inl (hτpool ▸ (hpool v).2 ⟨hin, hv⟩)
  · exact Or.inr (Or.inl ⟨id, hholding ▸ hheld, hfresh⟩)
  · refine Or.inr (Or.inr ⟨id, team, ?_, hv, hstarted ▸ hid, hholding ▸ hfree⟩)
    rw [hflight]
    dsimp only
    rw [if_neg, hteam]
    rintro rfl
    simp [hnew] at hteam

/-- **A round is started**: its members hold it, and it is no old one. -/
lemma commit (h : σ.Provides v old) (hs : σ.Sound) {p : ProtoRound} (hp : p ∈ σ.pending)
    (hold : ¬ old p.id) (hτ : τ.pool = σ.pool ∧ τ.inFlight = σ.inFlight ∧
      τ.holding = (fun j => if j ∈ p.topology then some p.id else σ.holding j) ∧
      ∀ id ∈ τ.started, id ∈ σ.started ∨ id = p.id) : τ.Provides v old := by
  obtain ⟨hpool, hflight, hholding, hstarted⟩ := hτ
  by_cases hv : v ∈ p.topology
  · exact Or.inr (Or.inl ⟨p.id, by simp [hholding, hv], hold⟩)
  · have hsame : τ.holding v = σ.holding v := by simp [hholding, hv]
    rcases h with hin | ⟨id, hheld, hfresh⟩ | ⟨id, team, hteam, hmem, hid, hfree⟩
    · exact Or.inl (hpool ▸ hin)
    · exact Or.inr (Or.inl ⟨id, hsame ▸ hheld, hfresh⟩)
    · refine Or.inr (Or.inr ⟨id, team, hflight ▸ hteam, hmem, fun hin => ?_, hsame ▸ hfree⟩)
      rcases hstarted id hin with hin | rfl
      · exact hid hin
      · -- it is not the team that was started
        rw [hs.pending_flight p hp] at hteam
        cases hteam
        exact hv hmem

/-- **The loop hears of a team**: it is in flight no more, and whoever was still waiting for it is in the
pool. -/
lemma answer (h : σ.Provides v old) (id : RoundId) (hback : id ∉ σ.started →
      ∀ team, σ.inFlight id = some team → v ∈ team → σ.holding v = none → v ∈ τ.pool)
    (hpool : v ∈ σ.pool → v ∈ τ.pool) (hholding : τ.holding = σ.holding)
    (hflight : τ.inFlight = fun j => if j = id then none else σ.inFlight j)
    (hstarted : ∀ j ∈ τ.started, j ∈ σ.started) : τ.Provides v old := by
  rcases h with hin | ⟨held, hheld, hfresh⟩ | ⟨j, team, hteam, hv, hj, hfree⟩
  · exact Or.inl (hpool hin)
  · exact Or.inr (Or.inl ⟨held, hholding ▸ hheld, hfresh⟩)
  · by_cases heq : j = id
    · subst heq
      exact Or.inl (hback hj team hteam hv hfree)
    · refine Or.inr (Or.inr ⟨j, team, ?_, hv, fun hin => hj (hstarted j hin), hholding ▸ hfree⟩)
      rw [hflight]
      simpa [heq] using hteam

end Provides

end Roster

namespace World

variable {w : World} {v : NodeId} {old : RoundId → Prop}

/-- The node waits, and is not banned. -/
def Waits (w : World) (v : NodeId) : Prop :=
  ∃ node, w.shared.net.nodes.get? v = some node ∧ node.activity = .waiting ∧ node.status ≠ .banned

instance (w : World) (v : NodeId) : Decidable (w.Waits v) :=
  inferInstanceAs (Decidable (∃ node ∈ w.shared.net.nodes.get? v,
    node.activity = .waiting ∧ node.status ≠ .banned))

/-! ## The turn -/

lemma provides_assemblyFailed {picked : List NodeId} (fault : Fault)
    (h : w.roster.Provides v old ∨ v ∈ picked) :
    (w.assemblyFailed picked fault).1.roster.Provides v old := by
  rw [roster_assemblyFailed]
  rcases h with h | hv
  · exact h.mono (fun hin => Pool.mem_foldl_add.2 (Or.inr hin)) rfl rfl fun _ hid => hid
  · exact Or.inl (Pool.mem_foldl_add.2 (Or.inl hv))

/-- **An attempt at a team** takes a waiting node nowhere but into the team, unless the loop breaks down in
it. -/
lemma provides_assembleOne (hr : w.roster.Sound) (hrun : w.handsOut = true)
    (h : w.roster.Provides v old) {chance : Shuffle}
    (hfits : (w.assembleOne chance).2 ≠ .fatal .overflow) :
    (w.assembleOne chance).1.roster.Provides v old := by
  rw [assembleOne] at hfits ⊢
  split
  · split <;> exact h
  · rename_i picked pool hpick
    obtain ⟨-, honline, hleft⟩ := Pool.pick_spec hr.tidy hpick
    have hpool : ∀ j, j ∈ pool ↔ j ∈ w.roster.pool ∧ j ∉ picked := by
      intro j
      rw [hleft]
      exact Pool.mem_leave hr.tidy honline
    obtain ⟨hnet, hspec⟩ := formTeam_spec (w.mapShared fun s => { s with pool := pool }) picked
    dsimp only
    split
    · rename_i fault net hform
      rw [hform] at hnet
      dsimp only at hnet
      subst hnet
      refine provides_assemblyFailed fault ?_
      by_cases hv : v ∈ picked
      · exact Or.inr hv
      · exact Or.inl (h.mono (fun hin => (hpool v).2 ⟨hin, hv⟩) rfl rfl fun _ hid => hid)
    · rename_i net hform
      simp [hpick, hform] at hfits
    · rename_i p net hform
      rw [hform] at hnet hspec
      dsimp only at hnet
      subst hnet
      rcases hspec with ⟨fault, heq, -⟩ | ⟨-, hp⟩
      · cases heq
      obtain ⟨hperm, hid⟩ := hp p rfl
      rw [roster_teamFormed]
      refine h.promise hr (hr.next_unused hrun hid).1 hperm hpool ⟨rfl, rfl, rfl, ?_⟩
      exact funext fun j => Table.get?_insert _ _ _ _

lemma provides_assembleFrom (fuel : Nat) (chance : Nat → Shuffle) (hr : w.roster.Sound)
    (hrun : w.handsOut = true) (h : w.roster.Provides v old)
    (hnone : (assembleFrom fuel chance w).2 = none) :
    (assembleFrom fuel chance w).1.roster.Provides v old := by
  induction fuel generalizing w chance with
  | zero => exact h
  | succ fuel ih =>
      obtain ⟨hrun', -, hsound⟩ := assembleOne_sound hr hrun (chance 0)
      have hone := @provides_assembleOne w v old hr hrun h (chance 0)
      rw [assembleFrom] at hnone ⊢
      split <;> rename_i after heq <;> rw [heq] at hrun' hsound hone
      · simp only [heq] at hnone
        exact ih _ (hsound (by simp)) hrun' (hone (by simp)) hnone
      · exact hone (by simp)
      · simp [heq] at hnone

/-- **The end of a turn** keeps a node provided for, unless it is the end of the loop. -/
lemma provides_settleTurn (hr : w.roster.Sound) (hrun : w.handsOut = true)
    (h : w.roster.Provides v old) {chance : Nat → Shuffle}
    (hgoes : (w.settleTurn chance).handsOut = true) : (w.settleTurn chance).roster.Provides v old := by
  rcases w.settleTurn_cases chance with ⟨w', hw', heq⟩ | ⟨setback, heq⟩
  · rcases heq with heq | heq
    · rw [heq]
      rcases hw' with rfl | ⟨rfl, hnone⟩
      · exact h
      · exact provides_assembleFrom _ chance hr hrun h hnone
    · simp [heq, handsOut_finish] at hgoes
  · simp [heq, handsOut_finish] at hgoes

/-- **A notification of another node** leaves a node where it is. -/
lemma provides_processUpdate (hr : w.roster.Sound) {n : Notification} (hne : v ≠ n.node)
    (h : w.roster.Provides v old) : (w.processUpdate n).roster.Provides v old := by
  have happlied := applied_takenOver hr n
  let s := ((w.takenOver n).shared.apply w.settings w.wall w.clock w.loop.reserved n).1
  have hroster := roster_shared w (s := s)
    (fun j => by
      rw [happlied.nodes j]
      simp only [takenOver, mapNode, mapShared, Shared.mapNode, Network.mapNode, Table.get?_modify]
      split <;> split <;> simp [count])
    happlied.counter
  have hholding : s.net.holding v = w.roster.holding v := by
    rw [holding_of_applied happlied, holding_takenOver]
    simp [hne]
    rfl
  have hpool : v ∈ w.roster.pool → v ∈ s.pool := by
    intro hin
    rcases happlied.pool with heq | heq | ⟨heq, -⟩ <;> rw [show s.pool = _ from heq]
    · exact hin
    · exact Pool.mem_remove.2 ⟨hin, hne⟩
    · exact Pool.mem_add.2 (Or.inr hin)
  have hprovided : ({ w with shared := s } : World).roster.Provides v old := by
    rw [hroster]
    exact h.mono hpool hholding rfl fun _ hid => hid
  rw [← roster_release _ n.node] at hprovided
  rw [processUpdate]
  dsimp only
  split <;> exact hprovided

/-- **The loop hears of a team.**  A member that still waits for a refused one goes back to the pool. -/
lemma provides_processEvent (hr : w.roster.Sound) {e : Event} {ch : Channel Worker Event}
    (he : w.events.receive? = some (e, ch)) (hwaits : w.Waits v) (h : w.roster.Provides v old) :
    (({ w with events := ch } : World).processEvent e).roster.Provides v old := by
  have hmessages : w.events.messages = e :: ch.messages := Channel.messages_receive? he
  have hfewer : ∀ id ∈ ch.messages.filterMap Event.started?, id ∈ w.roster.started := by
    intro id hid
    have hcons : w.roster.started = (e :: ch.messages).filterMap Event.started? := by
      rw [← hmessages]; rfl
    rw [hcons]
    exact (List.sublist_cons_self _ _).filterMap _ |>.subset hid
  cases e with
  | timedOut id phase =>
      dsimp only [processEvent]
      rw [roster_processTimeout]
      exact h.mono (fun hin => hin) rfl rfl hfewer
  | started id =>
      have hstarted : id ∈ w.roster.started := by simp [roster, hmessages, Event.started?]
      obtain ⟨members, hflight⟩ := hr.started_flight id hstarted
      have hget : w.loop.inFlight.get? id = some members := hflight
      dsimp only [processEvent]
      rw [roster_count]
      refine h.answer id (fun hnot => absurd hstarted hnot) (fun hin => ?_) ?_ ?_ ?_
      all_goals simp only [unreserve, hget]
      · exact hin
      · rfl
      · exact funext fun j => Table.get?_erase _ _ _
      · exact hfewer
  | startFailed p fault =>
      have hrefused : p ∈ w.roster.refused := by simp [roster, hmessages, Event.refused?]
      have hflight : w.loop.inFlight.get? p.id = some p.topology := hr.refused_flight p hrefused
      dsimp only [processEvent]
      refine h.answer p.id (fun _ team hteam hv hfree => ?_) (fun hin => ?_) ?_ ?_ ?_
      all_goals simp only [unreserve, hflight]
      · obtain ⟨node, hnode, hactivity, hstatus⟩ := hwaits
        have hround : node.round = none := by
          rw [← Network.holding_of_get? hnode]
          exact hfree
        have hreturns : returns w.shared.net.nodes v = true := by
          simp [returns, hnode, hround, hactivity, hstatus]
        obtain rfl : team = p.topology := Option.some.inj (hteam.symm.trans hflight)
        exact Pool.mem_foldl_add.2 (Or.inl (List.mem_filter.2 ⟨hv, hreturns⟩))
      · exact Pool.mem_foldl_add.2 (Or.inr hin)
      · rfl
      · exact funext fun j => Table.get?_erase _ _ _
      · exact hfewer
  | finished id => exact h.mono (fun hin => hin) rfl rfl hfewer

lemma provides_iterate (hr : w.roster.Sound) (h : w.roster.Provides v old) (hwaits : w.Waits v)
    {source : Source} {chance : Nat → Shuffle}
    (hother : ∀ n, w.delivered? (.iterate source chance) = some n → n.node ≠ v)
    (hgoes : (w.iterate source chance).handsOut = true) :
    (w.iterate source chance).roster.Provides v old := by
  rw [iterate] at hgoes ⊢
  split at hgoes
  · rename_i hrunning
    rw [if_pos hrunning]
    split at hgoes
    · exact h
    · rename_i m w' htake
      have hrun : (w'.process m).handsOut = true := by
        rw [handsOut, stage_process, loop_take? htake]
        exact handsOut_of_isRunning hrunning
      refine provides_settleTurn (process_sound hr htake) hrun ?_ hgoes
      cases source <;> simp only [take?, Option.map_eq_some_iff] at htake <;>
        obtain ⟨⟨message, ch⟩, hreceive, heq⟩ := htake <;> cases heq
      · have hne : message.node ≠ v := hother message (by simp [delivered?, hrunning, hreceive])
        exact provides_processUpdate (w := { w with updates := ch }) hr (Ne.symm hne) h
      · exact provides_processEvent hr hreceive hwaits h
      · cases message <;> exact h
  · rename_i hrunning
    rw [if_neg hrunning]
    exact h

/-! ## Everybody else -/

/-- **A start** gives a waiting member the round that it was promised. -/
lemma provides_attempt (hr : w.roster.Sound) (h : w.roster.Provides v old)
    (hold : ∀ id, old id → w.roster.team id ≠ none) : w.attempt.roster.Provides v old := by
  rw [attempt]
  split
  · rename_i p due hstarter
    have hp : p ∈ w.pending := by simp [pending, hstarter]
    split
    · exact h
    · rcases start_pending hr hp w.wall w.clock with ⟨u, -, hstart⟩ | ⟨s', hstart, hstarted⟩
      · simp only [hstart]
        rw [roster_report]
        split
        · exact h.mono (fun hin => hin) rfl rfl fun _ hid => hid
        · refine h.mono (fun hin => hin) rfl rfl fun id hid => ?_
          simp only [Event.started?, Option.toList_none, List.append_nil] at hid
          exact hid
      · simp only [hstart]
        have hnew : ¬ old p.id := fun hin => hold p.id hin (hr.pending_new p hp)
        have hknown : ∀ u ∈ p.topology, ∃ node, w.shared.net.nodes.get? u = some node :=
          fun u hu => (free_of_pending hr hp u hu).imp fun _ => And.left
        rw [roster_report, roster_started w hknown hstarted]
        split
        · exact h.commit hr hp hnew ⟨rfl, rfl, rfl, fun _ hid => Or.inl hid⟩
        · refine h.commit hr hp hnew ⟨rfl, rfl, rfl, fun id hid => ?_⟩
          simpa [Event.started?] using hid
  · exact h

lemma provides_tell (h : w.roster.Provides v old) (x : Watcher) {e : Event} (he : e.started? = none) :
    (w.tell x e).roster.Provides v old := by
  have hmessages := w.events.messages_send (.watcher x.round x.phase) e
  refine h.mono (fun hin => hin) rfl rfl fun id hid => ?_
  simp only [roster, tell, hmessages] at hid
  split at hid
  · exact hid
  · simpa [he, roster] using hid

lemma provides_admitEvent (h : w.roster.Provides v old) : w.admitEvent.roster.Provides v old := by
  have hadmitted : ∀ {sender : Worker} {ch : Channel Worker Event},
      w.events.admit? = some (sender, ch) → ∀ starter,
      ({ w with events := ch, starter := starter } : World).roster.Provides v old := by
    intro sender ch hadmit starter
    refine h.mono (fun hin => hin) rfl rfl fun id hid => ?_
    simpa [roster, Channel.messages_admit? hadmit] using hid
  rw [admitEvent]
  split
  · exact h
  · exact hadmitted ‹_› .idle
  · exact hadmitted ‹_› w.starter

/-- **Every move provides for a node that goes on waiting**, as long as the loop may run. -/
theorem step_provides (hr : w.roster.Sound) (h : w.roster.Provides v old) (hwaits : w.Waits v)
    (hold : ∀ id, old id → w.roster.team id ≠ none) {m : Move}
    (hother : ∀ n, w.delivered? m = some n → n.node ≠ v) (hgoes : (w.step m).handsOut = true) :
    (w.step m).roster.Provides v old := by
  cases m with
  | iterate source chance => exact provides_iterate hr h hwaits hother hgoes
  | attempt => exact provides_attempt hr h hold
  | admitEvent => exact provides_admitEvent h
  | poll call u a =>
      dsimp only [step]
      rcases roster_poll w call u a with heq | ⟨-, heq⟩ <;> rw [heq]
      · exact h
      · exact h.mono (fun hin => Pool.mem_add.2 (Or.inr hin)) rfl rfl fun _ hid => hid
  | ban call u => exact (roster_ban w call u).symm ▸ h
  | request r => exact (roster_request w r).symm ▸ h
  | resumeBan call => exact (roster_resumeBan w call).symm ▸ h
  | admitUpdate => exact (roster_admitUpdate w).symm ▸ h
  | admitRequest => exact (roster_admitRequest w).symm ▸ h
  | leave x =>
      dsimp only [step, leave]
      split
      · split
        · exact h
        · exact provides_tell h x rfl
      · exact h
  | expire x =>
      dsimp only [step, expire]
      split
      · exact provides_tell h x rfl
      · exact h
  | sweep =>
      dsimp only [step, sweep]
      split
      · exact h
      · split
        · exact h
        · refine h.mono (fun hin => (Pool.mem_sweep _ _ _ _).2 hin) ?_ rfl fun _ hid => hid
          exact congrFun (holding_sweepNow hr) v
  | takeProto =>
      dsimp only [step, takeProto]
      split
      · exact h
      · split <;> exact h
      · exact h
  | conclude =>
      dsimp only [step, conclude]
      split <;> exact h
  | launch =>
      dsimp only [step, launch]
      split <;> exact h
  | drop => simp [step, drop, handsOut] at hgoes
  | pass ms =>
      dsimp only [step, pass]
      split <;> exact h
  | wallPass nanos => exact h

end World

end MixRounds.Live
