import Mathlib.Data.List.Induction
import MixRounds.Proofs.Live.Absence
import MixRounds.Proofs.Live.Banishment
import MixRounds.Proofs.Live.Sending
import MixRounds.Proofs.Live.Straying

/-!
# Standing and place

The standing of a node says whether it counts, and the pool says where it is.  The two should tell the same
story (`World.Agrees`): who is online is active, who is offline is inactive, every inactive node is offline,
and a banned node is in the pool only as long as the loop has not heard of its ban.

The standing is written at the front and by the sweep, the place by the loop as well.  Most paths keep the
two together: a sweep writes both, and so does a poll that brings a node back
(`World.status_of_step`, `World.offline_left`, `World.joined_of_step`).  Two do not.

* The loop puts a node online whose report of waiting it applies, and does not look at the standing.  A node
  that a sweep has moved offline while that report was on its way is then online and inactive
  (`World.Roused`).
* A ban writes the standing and leaves the place to the loop.  When the loop is gone, a banned node stays in
  the pool (`World.Forsaken`).

**`World.agrees_iff`** says that there is nothing else: standing and place agree exactly if no node was roused
or forsaken.  `World.not_agrees_of_reveille` shows one of each.
-/

namespace MixRounds

namespace Network

/-- No node is inactive. -/
def Awake (net : Network) : Prop :=
  ∀ v node, net.nodes.get? v = some node → node.status ≠ .inactive

lemma Awake.register {net : Network} (h : net.Awake) (v : NodeId) (region : String) {status : Status}
    (hstatus : status ≠ .inactive) (now : Instant) : (net.register v region status now).Awake := by
  rw [Network.register]
  split
  · exact h
  · intro j node hnode
    rw [Table.get?_insert] at hnode
    split at hnode
    · cases hnode
      exact hstatus
    · exact h j node hnode

end Network

namespace Live

/-- **What a notification does to the pool**: nothing; or it is a ban, and takes its node out; or it is a
report of waiting of a node that is not banned, and puts that online. -/
lemma Shared.pool_apply {s : Shared} (settings : Settings) (now : Instant) (clock : Nat)
    (reserved : List NodeId) {n : Notification}
    (hheld : ∀ id, s.net.holding n.node = some id → ∃ r, s.net.rounds.get? id = some r) :
    let pool := (s.apply settings now clock reserved n).1.pool
    pool = s.pool ∨ (s.kindOf n = .ban ∧ pool = (s.pool.remove n.node).2) ∨
      (s.kindOf n = .activity .waiting ∧ n.node ∉ reserved ∧
        (∃ node, s.net.nodes.get? n.node = some node ∧ node.status ≠ .banned) ∧
        pool = s.pool.add n.node) := by
  intro pool
  cases hnode : s.net.nodes.get? n.node with
  | none => exact Or.inl (by simp [pool, Shared.apply, hnode])
  | some node =>
      obtain ⟨held, hholds⟩ := exists_holds hheld
      simp only [pool]
      rw [apply_pool hnode hholds]
      cases hk : s.kindOf n with
      | alreadyBanned | staleAfterFailure => exact Or.inl rfl
      | ban => exact Or.inr (Or.inl ⟨rfl, rfl⟩)
      | activity a =>
          cases a with
          | waiting =>
              by_cases hout : node.status = .banned ∨ n.node ∈ reserved
              · exact Or.inl (if_pos hout)
              · obtain ⟨hstatus, hreserved⟩ := not_or.1 hout
                exact Or.inr (Or.inr ⟨rfl, hreserved, ⟨node, rfl, hstatus⟩, if_neg hout⟩)
          | notStarted | precomputing | realtime | standby | completed | error => exact Or.inl rfl

namespace World

variable {w : World} {v : NodeId}

/-! ## The standing of a node -/

lemma status_eq (w : World) (v : NodeId) : w.status v = (w.profile v).map Node.status := by
  rw [status, profile, Option.map_map]
  rfl

lemma status_poll (w : World) (call : CallId) (u : NodeId) (a : Activity) :
    (w.poll call u a).status v = w.status v ∨ v = u ∧ (w.poll call u a).status v = some .active := by
  simp only [status_eq]
  cases polled_poll w call u a with
  | unheard hanswers hlegal hpool hprofile => exact Or.inl (by rw [hprofile])
  | refused hnode hheard hanswers hillegal hpool hprofile =>
      simp only [hprofile]
      split
      · rename_i hv
        exact Or.inl (by rw [hv, hnode]; rfl)
      · exact Or.inl rfl
  | accepted hnode hheard hlegal hpool hprofile hactivity hpoll hstatus =>
      simp only [hprofile]
      split
      · exact Or.inr ⟨‹_›, by rw [Option.map_some, hstatus]⟩
      · exact Or.inl rfl

lemma status_of_banning? {m : Move} {u : NodeId} (h : w.banning? m = some u) (hv : v ≠ u) :
    (w.step m).status v = w.status v := by
  obtain ⟨call, node, parked, hnode, -, hstep⟩ := step_of_banning? h
  have hprofile := profile_banFree ({ w with parked := parked } : World) call hnode
  rw [hstep, status_eq, status_eq, hprofile]
  dsimp only
  rw [if_neg hv]
  rfl

lemma status_sweepNow (w : World) (v : NodeId) : w.sweepNow.status v
    = if v ∈ w.stale ∧ w.status v = some .active then some .inactive else w.status v := by
  simp only [status_eq, profile_sweepNow, stale]
  by_cases hstale : v ∈ w.shared.pool.stale w.shared.net.nodes w.wall w.settings.offlineTimeoutSecs.toNat
  · cases hnode : w.profile v with
    | none => simp
    | some node => by_cases hactive : node.status = .active <;> simp [hstale, Pool.sweptNode, hactive]
  · simp [hstale]

/-- **What a move does to the standing of a node**: nothing; or the node is heard, and is active; or it is
banned; or it is swept, and is inactive. -/
theorem status_of_step (hr : w.roster.Sound) (m : Move) :
    (w.step m).status v = w.status v ∨
    (∃ call a, m = .poll call v a) ∧ (w.step m).status v = some .active ∨
    w.banning? m = some v ∧ (w.step m).status v = some .banned ∨
    (m = .sweep ∧ w.SweepDue ∧ v ∈ w.stale) ∧ (w.step m).status v = some .inactive := by
  have hnodes : (w.step m).shared = w.shared → (w.step m).status v = w.status v := fun heq =>
    congrFun (status_of_nodes (by rw [heq])) v
  cases hbanning : w.banning? m with
  | some u =>
      by_cases hv : v = u
      · have hbanned : (w.step m).status v = some .banned := (isBanned_step hr m).2 (Or.inr (hv ▸ hbanning))
        exact Or.inr (Or.inr (Or.inl ⟨hv ▸ rfl, hbanned⟩))
      · exact Or.inl (status_of_banning? hbanning hv)
  | none =>
      cases hrevealing : m.isRevealing with
      | false => exact Or.inl (by rw [status_eq, status_eq, profile_of_step hr hrevealing])
      | true =>
          cases m with
          | poll call u a =>
              rcases status_poll (v := v) w call u a with hsame | ⟨rfl, hactive⟩
              · exact Or.inl hsame
              · exact Or.inr (Or.inl ⟨⟨call, a, rfl⟩, hactive⟩)
          | ban call u =>
              exact Or.inl (hnodes (nodes_of_banning?_eq_none hbanning (Or.inl ⟨_, _, rfl⟩)).1)
          | resumeBan call =>
              exact Or.inl (hnodes (nodes_of_banning?_eq_none hbanning (Or.inr ⟨_, rfl⟩)).1)
          | sweep =>
              rcases w.step_sweep with ⟨hdue, next, heq⟩ | ⟨-, heq⟩
              · have hswept : (w.step .sweep).status v = _ :=
                  (congrFun (congrArg status heq) v).trans (status_sweepNow w v)
                rw [hswept]
                split
                · rename_i hstale
                  exact Or.inr (Or.inr (Or.inr ⟨⟨rfl, hdue, hstale.1⟩, rfl⟩))
                · exact Or.inl rfl
              · exact Or.inl (by rw [heq])
          | _ => cases hrevealing

/-! ## The place of a node -/

/-- **What the loop does to the pool when it applies a notification.** -/
lemma pool_of_update (hr : w.roster.Sound) (n : Notification) :
    let pool := (w.processUpdate n).shared.pool
    pool = w.shared.pool ∨ (n.toStatus = .banned ∧ pool = (w.shared.pool.remove n.node).2) ∨
      (n.toActivity = .waiting ∧ ¬ w.IsBanned n.node ∧ pool = w.shared.pool.add n.node) := by
  intro pool
  have htaken : (w.takenOver n).roster.Sound := (roster_takenOver w n).symm ▸ hr
  have hstatus : (w.takenOver n).status = w.status :=
    status_mapNode _ n.node (f := fun node => node.takeOwnership.2) fun _ _ => rfl
  have hcases := Shared.pool_apply w.settings w.wall w.clock w.loop.reserved (n := n)
    fun id hid => exists_round htaken hid
  rw [← pool_processUpdate, kindOf_takenOver] at hcases
  refine hcases.imp_right (Or.imp (fun h => ⟨of_classify_ban h.1, h.2⟩) ?_)
  rintro ⟨hk, -, ⟨node, hnode, hnot⟩, hpool⟩
  refine ⟨(of_classify_activity hk).2, ?_, hpool⟩
  rw [IsBanned, ← hstatus, status, hnode]
  simpa using hnot

/-- The members of a team that is refused are promised to it. -/
lemma reserved_of_startFailed (hr : w.roster.Sound) {p : ProtoRound} {fault : Fault}
    {ch : Channel Worker Event} (hreceive : w.events.receive? = some (.startFailed p fault, ch))
    (hv : v ∈ p.topology) : v ∈ w.loop.reserved := by
  refine (hr.reserved_iff v).2 ⟨p.id, p.topology, hr.refused_flight p ?_, hv⟩
  refine List.mem_filterMap.2 ⟨.startFailed p fault, ?_, rfl⟩
  rw [Channel.messages_receive? hreceive]
  exact List.mem_cons_self

/-- **Who joins the pool when a message is dealt with** is not banned, and has sent something or is promised
to a team. -/
lemma joined_of_process (hr : w.roster.Sound) {source : Source} {message : Message} {w' : World}
    (htake : w.take? source = some (message, w')) (hout : v ∉ w.shared.pool)
    (hin : v ∈ (w'.process message).shared.pool) :
    ¬ w.IsBanned v ∧ (¬ w.Unsent v ∨ v ∈ w.loop.reserved) := by
  cases taken_of_take? htake with
  | @update n ch hreceive =>
      rw [process] at hin
      rcases pool_of_update (w := { w with updates := ch }) hr n with hpool | ⟨-, hpool⟩ |
        ⟨-, hnot, hpool⟩ <;> rw [hpool] at hin
      · exact absurd hin hout
      · exact absurd (Pool.mem_remove.1 hin).1 hout
      · obtain rfl : v = n.node := (Pool.mem_add.1 hin).resolve_right hout
        refine ⟨hnot, Or.inl fun hunsent => hunsent n ?_ rfl⟩
        rw [Channel.messages_receive? hreceive]
        exact List.mem_cons_self
  | @event e ch hreceive =>
      cases e with
      | timedOut id p =>
          rw [process, processEvent, pool_processTimeout] at hin
          exact absurd hin hout
      | started id =>
          dsimp only [process, processEvent, unreserve] at hin
          split at hin <;> exact absurd hin hout
      | startFailed p fault =>
          have hback : v ∈ (p.topology.filter (returns w.shared.net.nodes)).foldl Pool.add w.shared.pool := by
            dsimp only [process, processEvent, unreserve] at hin
            split at hin <;> exact hin
          obtain ⟨hmember, hreturns⟩ := List.mem_filter.1 ((Pool.mem_foldl_add.1 hback).resolve_right hout)
          refine ⟨fun hbanned => ?_, Or.inr (reserved_of_startFailed hr hreceive hmember)⟩
          obtain ⟨node, hnode, hnow⟩ := node_of_isBanned hbanned
          simp [returns, hnode, hnow] at hreturns
      | finished id => exact absurd hin hout
  | @request r => cases r <;> exact absurd hin hout

/-- **Who joins the pool** is not banned, and has sent something or is promised to a team. -/
lemma joined_of_step (hr : w.roster.Sound) {m : Move} (hout : v ∉ w.shared.pool)
    (hin : v ∈ (w.step m).shared.pool) :
    ¬ (w.step m).IsBanned v ∧ (¬ w.Unsent v ∨ v ∈ w.loop.reserved) := by
  cases hturn : w.isTurn m with
  | true =>
      obtain ⟨source, chance, message, w', -, htake, hstep⟩ := step_of_isTurn hturn
      rw [hstep] at hin
      obtain ⟨hnot, hwhy⟩ := joined_of_process hr htake hout (mem_pool_settleTurn hin)
      refine ⟨fun hbanned => ?_, hwhy⟩
      rcases (isBanned_step hr m).1 hbanned with hbefore | hbanning
      · exact hnot hbefore
      · cases m with
        | ban | resumeBan => cases hturn
        | _ => cases hbanning
  | false => exact absurd (mem_pool_of_step hr hturn hin) hout

/-- Nobody who is offline is picked. -/
lemma offline_of_assembleOne (h : v ∈ w.shared.pool.offline ∧ v ∉ w.shared.pool.online) (chance : Shuffle) :
    v ∈ (w.assembleOne chance).1.shared.pool.offline ∧ v ∉ (w.assembleOne chance).1.shared.pool.online := by
  rcases w.pool_assembleOne chance with hpool | ⟨picked, pool, hpick, hpool⟩
  · rwa [hpool]
  · obtain ⟨honline, rfl⟩ := Pool.leaves_of_pick hpick
    have hstays : v ∉ w.shared.pool.online.filter fun v => v ∉ picked := mt List.mem_of_mem_filter h.2
    rcases hpool with hpool | hpool <;> rw [hpool]
    · exact ⟨h.1, hstays⟩
    · obtain ⟨hoffline, honline⟩ := Pool.mem_foldl_add_of_not_mem (mt (honline v) h.2) _
      exact ⟨hoffline.2 h.1, mt honline.1 hstays⟩

lemma offline_of_settleTurn (h : v ∈ w.shared.pool.offline) (hnot : v ∉ w.shared.pool.online)
    (chance : Nat → Shuffle) : v ∈ (w.settleTurn chance).shared.pool.offline := by
  refine (settleTurn_induction (P := fun w => v ∈ w.shared.pool.offline ∧ v ∉ w.shared.pool.online)
    (fun w chance h => offline_of_assembleOne h chance) (fun w h => ?_) (fun w result h => ?_)
    ⟨h, hnot⟩ chance).1
  · rwa [shared_acknowledge]
  · rwa [show (w.finish result).shared.pool = w.shared.pool from pool_closeQueues w]

/-- Dealing with a message takes nobody from offline, but for the node of a ban or of a report of
waiting. -/
lemma offline_of_process (hr : w.roster.Sound) {source : Source} {message : Message} {w' : World}
    (htake : w.take? source = some (message, w')) (hbefore : v ∈ w.shared.pool.offline)
    (hafter : v ∉ (w'.process message).shared.pool.offline) :
    ∃ n ch, message = .update n ∧ source = .updates ∧ w.updates.receive? = some (n, ch) ∧ n.node = v ∧
      (n.toStatus = .banned ∨ n.toActivity = .waiting) := by
  cases source with
  | updates =>
      simp only [take?, Option.map_eq_some_iff] at htake
      obtain ⟨⟨n, ch⟩, hreceive, heq⟩ := htake
      cases heq
      have hleaves : ∀ ids : List NodeId, ids = w.shared.pool.offline → v ∉ Pool.without n.node ids →
          n.node = v := by
        rintro ids rfl hout
        by_contra hne
        exact hout (Pool.mem_without.2 ⟨hbefore, fun heq => hne heq.symm⟩)
      rw [process] at hafter
      rcases pool_of_update (w := { w with updates := ch }) hr n with hpool | ⟨hwhy, hpool⟩ |
        ⟨hwhy, -, hpool⟩ <;> rw [hpool] at hafter
      · exact absurd hbefore hafter
      · exact ⟨n, ch, rfl, rfl, hreceive, hleaves _ rfl hafter, Or.inl hwhy⟩
      · exact ⟨n, ch, rfl, rfl, hreceive, hleaves _ rfl hafter, Or.inr hwhy⟩
  | events =>
      simp only [take?, Option.map_eq_some_iff] at htake
      obtain ⟨⟨e, ch⟩, hreceive, heq⟩ := htake
      cases heq
      refine absurd ?_ hafter
      cases e with
      | timedOut id p =>
          rw [process, processEvent, pool_processTimeout]
          exact hbefore
      | started id =>
          dsimp only [process, processEvent, unreserve]
          split <;> exact hbefore
      | startFailed p fault =>
          have hmember : v ∉ p.topology := fun hv =>
            hr.not_mem_pool_of_reserved (reserved_of_startFailed hr hreceive hv) (Or.inr hbefore)
          have hstays : v ∈ ((p.topology.filter (returns w.shared.net.nodes)).foldl Pool.add
              w.shared.pool).offline :=
            (Pool.mem_foldl_add_of_not_mem (fun hv => hmember (List.mem_filter.1 hv).1) _).1.2 hbefore
          dsimp only [process, processEvent, unreserve]
          split <;> exact hstays
      | finished id => exact hbefore
  | requests =>
      simp only [take?, Option.map_eq_some_iff] at htake
      obtain ⟨⟨r, ch⟩, hreceive, heq⟩ := htake
      cases heq
      cases r <;> exact absurd hbefore hafter

/-- **Who is no longer offline** was heard and is active, or the loop has applied a ban of it or its report
of waiting. -/
lemma offline_left (hr : w.roster.Sound) {m : Move} (hbefore : v ∈ w.shared.pool.offline)
    (hafter : v ∉ (w.step m).shared.pool.offline) :
    (w.step m).status v = some .active ∨
      ∃ n, w.delivered? m = some n ∧ n.node = v ∧ (n.toStatus = .banned ∨ n.toActivity = .waiting) := by
  cases hturn : w.isTurn m with
  | true =>
      cases m with
      | iterate source chance =>
          simp only [isTurn, Bool.and_eq_true, Option.isSome_iff_exists] at hturn
          obtain ⟨hrunning, ⟨message, w'⟩, htake⟩ := hturn
          have hstep := step_of_take? chance hrunning htake
          have hgone : v ∉ (w'.process message).shared.pool.offline := by
            intro hthere
            rw [hstep] at hafter
            exact hafter (offline_of_settleTurn hthere
              (fun honline => (process_sound hr htake).tidy.apart v honline hthere) chance)
          obtain ⟨n, ch, -, rfl, hreceive, hnode, hwhy⟩ := offline_of_process hr htake hbefore hgone
          exact Or.inr ⟨n, by simp [delivered?, hrunning, hreceive], hnode, hwhy⟩
      | _ => cases hturn
  | false =>
      refine Or.inl ?_
      by_cases hpoll : ∃ call u a, m = .poll call u a
      · obtain ⟨call, u, a, rfl⟩ := hpoll
        dsimp only [step] at hafter ⊢
        cases polled_poll w call u a with
        | unheard hanswers hlegal hpool hprofile => exact absurd (hpool ▸ hbefore) hafter
        | refused hnode hheard hanswers hillegal hpool hprofile => exact absurd (hpool ▸ hbefore) hafter
        | accepted hnode hheard hlegal hpool hprofile hactivity hpoll hstatus =>
            by_cases hv : v = u
            · rw [status_eq, hprofile]
              simp [hv, hstatus]
            · rw [hpool] at hafter
              split at hafter
              · exact absurd (Pool.mem_without.2 ⟨hbefore, hv⟩) hafter
              · exact absurd hbefore hafter
      by_cases hsweep : m = .sweep
      · subst hsweep
        refine absurd ?_ hafter
        rcases w.step_sweep with ⟨-, next, heq⟩ | ⟨-, heq⟩ <;> rw [heq]
        · exact Pool.mem_foldl_including.2 (Or.inr hbefore)
        · exact hbefore
      · rw [pool_of_step hr hturn (fun call u a heq => hpoll ⟨call, u, a, heq⟩) hsweep] at hafter
        exact absurd hbefore hafter

/-! ## Nodes that are not registered -/

/-- The node is in no set of the pool, is promised to no team, and has sent nothing. -/
structure Aloof (w : World) (v : NodeId) : Prop where
  out : v ∉ w.shared.pool
  unpromised : v ∉ w.loop.reserved
  unsent : w.Unsent v

/-- **A node that is not registered stays aloof**, as long as it is not. -/
lemma step_aloof (hr : w.roster.Sound) (h : w.Aloof v) (hbefore : w.status v = some .unregistered)
    {m : Move} (hafter : (w.step m).status v = some .unregistered) : (w.step m).Aloof v := by
  refine ⟨fun hin => ?_, fun hpromised => ?_, unsent_of_step hr h.unsent ?_⟩
  · rcases (joined_of_step hr h.out hin).2 with hsent | hreserved
    · exact hsent h.unsent
    · exact h.unpromised hreserved
  · obtain ⟨id, team, hteam, hv⟩ := ((step_sound hr m).reserved_iff v).1 hpromised
    cases hturn : w.isTurn m with
    | false =>
        have hwas : w.loop.inFlight.get? id = some team := inFlight_of_step hturn ▸ hteam
        exact h.unpromised ((hr.reserved_iff v).2 ⟨id, team, hwas, hv⟩)
    | true =>
        obtain ⟨source, chance, message, w', -, htake, hstep⟩ := step_of_isTurn hturn
        have hthere : (w.step m).loop.inFlight.get? id = some team := hteam
        rw [hstep] at hthere
        rcases (drawn_settleTurn (w'.process message) chance).team id team hthere with hwas | hdrawn
        · have hwas : w'.loop.inFlight.get? id = some team := (processed w' message).inFlight _ _ hwas
          rw [loop_take? htake] at hwas
          exact h.unpromised ((hr.reserved_iff v).2 ⟨id, team, hwas, hv⟩)
        · rcases (joined_of_process hr htake h.out (hdrawn v hv)).2 with hsent | hreserved
          · exact hsent h.unsent
          · exact h.unpromised hreserved
  · rintro (⟨call, a, -, hregistered⟩ | hbanning)
    · exact hregistered hbefore
    · have hbanned : (w.step m).status v = some .banned := (isBanned_step hr m).2 (Or.inr hbanning)
      rw [hafter] at hbanned
      cases hbanned

lemma aloof_of_run (hr : w.roster.Sound) (hstart : w.Aloof v) {moves : List Move}
    (h : (w.run moves).status v = some .unregistered) : (w.run moves).Aloof v := by
  induction moves using List.reverseRecOn with
  | nil => exact hstart
  | append_singleton moves m ih =>
      rw [run_snoc] at h ⊢
      have hbefore : (w.run moves).status v = some .unregistered := by
        rcases status_of_step (v := v) (run_sound hr moves) m with hsame | ⟨-, hnow⟩ | ⟨-, hnow⟩ | ⟨-, hnow⟩
        · rwa [hsame] at h
        all_goals rw [hnow] at h; cases h
      exact step_aloof (run_sound hr moves) (ih hbefore) hbefore h

/-! ## Nodes that were roused -/

/-- The node is inactive, and it is not offline. -/
def Misplaced (w : World) (v : NodeId) : Prop :=
  w.status v = some .inactive ∧ v ∉ w.shared.pool.offline

/-- The loop applied a report of waiting of the node while that was inactive and offline, and ever since the
node has been inactive without being offline. -/
def Roused (w : World) (v : NodeId) (moves : List Move) : Prop :=
  ∃ earlier m later n, moves = earlier ++ m :: later ∧ (w.run earlier).delivered? m = some n ∧
    n.node = v ∧ n.toActivity = .waiting ∧ (w.run earlier).status v = some .inactive ∧
    v ∈ (w.run earlier).shared.pool.offline ∧
    ∀ middle, middle <+: later → (((w.run earlier).step m).run middle).Misplaced v

lemma Roused.misplaced {moves : List Move} (h : w.Roused v moves) : (w.run moves).Misplaced v := by
  obtain ⟨earlier, m, later, n, rfl, -, -, -, -, -, hever⟩ := h
  rw [run_append, run_cons]
  exact hever later (List.prefix_refl later)

lemma Roused.append {moves : List Move} (h : w.Roused v moves) {m : Move}
    (hstill : ((w.run moves).step m).Misplaced v) : w.Roused v (moves ++ [m]) := by
  obtain ⟨earlier, m', later, n, rfl, hn, hnode, hwaits, hinactive, hoffline, hever⟩ := h
  rw [run_append, run_cons] at hstill
  exact ⟨earlier, m', later ++ [m], n, by simp, hn, hnode, hwaits, hinactive, hoffline,
    ever_snoc (P := (Misplaced · v)) hever hstill⟩

/-- **Who is inactive and not offline was roused.** -/
theorem roused_of_misplaced {told : RoundId → List Telling} (hc : Chronicle w told) (hh : w.Heralded)
    (hstart : w.status v ≠ some .inactive) {moves : List Move} (h : (w.run moves).Misplaced v) :
    w.Roused v moves := by
  -- from the end: a node becomes inactive in a sweep only, and that moves it offline
  induction moves using List.reverseRecOn with
  | nil => exact absurd h.1 hstart
  | append_singleton moves m ih =>
      rw [run_snoc] at h
      have hr := (hc.run moves).roster
      rcases status_of_step (v := v) hr m with hsame | ⟨-, hnow⟩ | ⟨-, hnow⟩ | ⟨⟨rfl, hdue, hstale⟩, -⟩
      · have hinactive : (w.run moves).status v = some .inactive := hsame ▸ h.1
        by_cases hoffline : v ∈ (w.run moves).shared.pool.offline
        · rcases offline_left hr hoffline h.2 with hactive | ⟨n, hn, hnode, hbanned | hwaits⟩
          · rw [h.1] at hactive
            cases hactive
          · -- whoever the loop takes for banned is
            have hgoes : (w.run moves).handsOut = true := by
              obtain ⟨-, -, hrunning, -⟩ := step_of_delivered hn
              exact handsOut_of_isRunning hrunning
            have hstatus : (w.run moves).status n.node = some .banned :=
              (run_heralded hc hh hgoes).queued n (mem_of_delivered hn) hbanned
            rw [hnode, hinactive] at hstatus
            cases hstatus
          · exact ⟨moves, m, [], n, rfl, hn, hnode, hwaits, hinactive, hoffline,
              ever_nil (P := (Misplaced · v)) h⟩
        · exact (ih ⟨hinactive, hoffline⟩).append h
      · rw [h.1] at hnow
        cases hnow
      · rw [h.1] at hnow
        cases hnow
      · refine absurd ?_ h.2
        rcases (w.run moves).step_sweep with ⟨-, next, heq⟩ | ⟨hnot, -⟩
        · rw [heq]
          exact Pool.mem_foldl_including.2 (Or.inl hstale)
        · exact absurd hdue hnot

/-! ## Nodes that were forsaken -/

/-- The node was banned and has been in the pool ever since, and the loop has come to its end. -/
def Forsaken (w : World) (v : NodeId) (moves : List Move) : Prop :=
  (w.run moves).handsOut = false ∧
    ∃ earlier m later, moves = earlier ++ m :: later ∧ (w.run earlier).banning? m = some v ∧
      ∀ middle, middle <+: later → v ∈ (((w.run earlier).step m).run middle).shared.pool

/-- **Who is banned and in the pool** has been there ever since it was banned. -/
lemma banning_of_mem_pool (hr : w.roster.Sound) (hempty : v ∉ w.shared.pool) {moves : List Move}
    (hbanned : (w.run moves).IsBanned v) (hin : v ∈ (w.run moves).shared.pool) :
    ∃ earlier m later, moves = earlier ++ m :: later ∧ (w.run earlier).banning? m = some v ∧
      ∀ middle, middle <+: later → v ∈ (((w.run earlier).step m).run middle).shared.pool := by
  induction moves using List.reverseRecOn with
  | nil => exact absurd hin hempty
  | append_singleton moves m ih =>
      rw [run_snoc] at hbanned hin
      have hbefore : v ∈ (w.run moves).shared.pool := by
        by_contra hout
        exact (joined_of_step (run_sound hr moves) hout hin).1 hbanned
      rcases (isBanned_step (run_sound hr moves) m).1 hbanned with hwas | hbanning
      · obtain ⟨earlier, m', later, rfl, hbanning, hever⟩ := ih hwas hbefore
        rw [run_append, run_cons] at hin
        exact ⟨earlier, m', later ++ [m], by simp, hbanning, ever_snoc (P := (v ∈ ·.shared.pool)) hever hin⟩
      · exact ⟨moves, m, [], rfl, hbanning, ever_nil (P := (v ∈ ·.shared.pool)) hin⟩

lemma Forsaken.banned (hr : w.roster.Sound) {moves : List Move} (h : w.Forsaken v moves) :
    (w.run moves).IsBanned v ∧ v ∈ (w.run moves).shared.pool := by
  obtain ⟨-, earlier, m, later, rfl, hbanning, hever⟩ := h
  rw [run_append, run_cons]
  have hstep := step_sound (run_sound hr earlier) m
  have hstays : ∀ later, (((w.run earlier).step m).run later).IsBanned v := by
    intro later
    induction later using List.reverseRecOn with
    | nil => exact (isBanned_step (run_sound hr earlier) m).2 (Or.inr hbanning)
    | append_singleton later m' ih =>
        rw [run_snoc]
        exact (isBanned_step (run_sound hstep later) m').2 (Or.inl ih)
  exact ⟨hstays later, hever later (List.prefix_refl later)⟩

/-! ## Every run -/

/-- The loop is about to hear that the node is banned. -/
def BanQueued (w : World) (v : NodeId) : Prop :=
  ∃ n ∈ w.updates.messages, n.node = v ∧ n.toStatus = .banned

/-- **Standing and place agree.** -/
structure Agrees (w : World) : Prop where
  online : ∀ v ∈ w.shared.pool.online,
    w.status v = some .active ∨ w.status v = some .banned ∧ w.BanQueued v
  offline : ∀ v ∈ w.shared.pool.offline,
    w.status v = some .inactive ∨ w.status v = some .banned ∧ w.BanQueued v
  inactive : ∀ v, w.status v = some .inactive → v ∈ w.shared.pool.offline

lemma Forsaken.not_agrees (hr : w.roster.Sound) (hgoes : w.handsOut = true) {moves : List Move}
    (h : w.Forsaken v moves) : ¬ (w.run moves).Agrees := by
  intro hagrees
  obtain ⟨hbanned, hin⟩ := h.banned hr
  have hsilent : (w.run moves).updates.messages = [] := (deaf_of_run hr hgoes h.1).empty
  have hqueued : (w.run moves).BanQueued v := by
    rcases hin with hin | hin
    · rcases hagrees.online v hin with hactive | ⟨-, hqueued⟩
      · rw [hbanned] at hactive
        cases hactive
      · exact hqueued
    · rcases hagrees.offline v hin with hinactive | ⟨-, hqueued⟩
      · rw [hbanned] at hinactive
        cases hinactive
      · exact hqueued
  obtain ⟨n, hn, -⟩ := hqueued
  rw [hsilent] at hn
  cases hn

/-- **Who is in the pool** is active or inactive, or is banned: then the loop is about to hear of that, unless
the node is forsaken. -/
lemma standing_of_mem_pool {told : RoundId → List Telling} (hc : Chronicle w told) (hh : w.Heralded)
    (hstart : w.Aloof v) {moves : List Move} (hin : v ∈ (w.run moves).shared.pool) :
    (w.run moves).status v = some .active ∨ (w.run moves).status v = some .inactive ∨
      (w.run moves).status v = some .banned ∧ ((w.run moves).BanQueued v ∨ w.Forsaken v moves) := by
  obtain ⟨node, hnode⟩ := Table.mem_keys_iff.1 ((hc.run moves).roster.pool_known v hin)
  have hstatus : (w.run moves).status v = some node.status := by rw [status, hnode, Option.map_some]
  rw [hstatus]
  cases hnow : node.status with
  | active => exact Or.inl rfl
  | inactive => exact Or.inr (Or.inl rfl)
  | unregistered => exact absurd hin (aloof_of_run hc.roster hstart (hnow ▸ hstatus)).out
  | banned =>
      have hbanned : (w.run moves).IsBanned v := hstatus.trans (congrArg some hnow)
      refine Or.inr (Or.inr ⟨rfl, ?_⟩)
      cases hgoes : (w.run moves).handsOut with
      | true =>
          rcases (run_heralded hc hh hgoes).banned v hbanned with hout | ⟨n, hn, hnode, hto, -⟩
          · exact absurd hin hout.out
          · exact Or.inl ⟨n, hn, hnode, hto⟩
      | false => exact Or.inr ⟨hgoes, banning_of_mem_pool hc.roster hstart.out hbanned hin⟩

/-- **When standing and place agree.**  After any run from an idle network without inactive nodes they do,
exactly if no node was roused and none was forsaken. -/
theorem agrees_iff (settings : Settings) (latency : Latency) (isDisabled : NodeId → Bool) {net : Network}
    (wall : Instant) (hidle : net.Idle)
    (hawake : net.Awake) (moves : List Move) :
    let w := create settings latency isDisabled net wall
    (w.run moves).Agrees ↔ ∀ v, ¬ w.Roused v moves ∧ ¬ w.Forsaken v moves := by
  intro w
  have hc : Chronicle w fun _ => [] := create_chronicle settings latency isDisabled wall hidle
  have hh : w.Heralded := create_heralded settings latency isDisabled wall hidle
  have hempty : ∀ v, v ∉ w.shared.pool := Pool.not_mem_empty
  have hstart : ∀ v, w.status v ≠ some .inactive := by
    intro v hinactive
    obtain ⟨node, hnode, hstatus⟩ := Option.map_eq_some_iff.1 hinactive
    exact hawake v node hnode hstatus
  have haloof : ∀ v, w.Aloof v := fun v => ⟨hempty v, List.not_mem_nil, fun n hn => by cases hn⟩
  have hr := (hc.run moves).roster
  constructor
  · intro h v
    refine ⟨fun hroused => ?_, fun hforsaken => hforsaken.not_agrees hc.roster rfl h⟩
    obtain ⟨hnow, hnot⟩ := hroused.misplaced
    exact hnot (h.inactive v hnow)
  · intro h
    have hinactive : ∀ v, (w.run moves).status v = some .inactive → v ∈ (w.run moves).shared.pool.offline := by
      intro v hnow
      by_contra hnot
      exact (h v).1 (roused_of_misplaced hc hh (hstart v) ⟨hnow, hnot⟩)
    refine ⟨fun v hv => ?_, fun v hv => ?_, hinactive⟩
    · rcases standing_of_mem_pool hc hh (haloof v) (Or.inl hv) with hactive | hnow | ⟨hbanned, hqueued⟩
      · exact Or.inl hactive
      · exact absurd (hinactive v hnow) (hr.tidy.apart v hv)
      · exact Or.inr ⟨hbanned, hqueued.resolve_right (h v).2⟩
    · rcases standing_of_mem_pool hc hh (haloof v) (Or.inr hv) with hactive | hnow | ⟨hbanned, hqueued⟩
      · -- a node that is offline is away, and so not active
        obtain ⟨node, haway⟩ := away_of_run hc.roster (fun hin => hempty v (Or.inr hin)) hv
        rw [status_eq, haway.known] at hactive
        exact absurd (Option.some.inj hactive) haway.inactive
      · exact Or.inl hnow
      · exact Or.inr ⟨hbanned, hqueued.resolve_right (h v).2⟩

lemma awake_smallNetwork (names : List NodeId) : (smallNetwork names).Awake := by
  suffices h : ∀ net : Network, net.Awake →
      (names.foldl (fun net v => net.register v "Asia" .active ⟨0, 0⟩) net).Awake from
    h _ fun v node hnode => by cases hnode
  induction names with
  | nil => exact fun _ h => h
  | cons v rest ih => exact fun net h => ih _ (h.register v _ (by decide) _)

/-- One of two nodes waits, and is moved offline. -/
theorem agrees_iff_of_two :
    let w := small ["a", "b"]
    let moves := .launch :: reporting "a" .waiting ++ absence
    (smallNetwork ["a", "b"]).Idle ∧
      (smallNetwork ["a", "b"]).Awake ∧
      ((w.run moves).Agrees ↔ ∀ v, ¬ w.Roused v moves ∧ ¬ w.Forsaken v moves) := by
  intro w moves
  exact ⟨idle_smallNetwork _, awake_smallNetwork _,
    agrees_iff _ _ _ _ (idle_smallNetwork _) (awake_smallNetwork _) moves⟩

/-! ## Two nodes that fall out of step -/

/-- A node that has strayed reports that it waits, and is moved offline before the loop applies that. -/
def reveille : List Move :=
  stray ++ [.poll 0 "a" .waiting] ++ absence ++ [.iterate .updates fun _ => .still]

/-- A node waits, and is banned after the scheduler has been destroyed. -/
def desertion : List Move := .launch :: reporting "a" .waiting ++ [.drop, .ban 1 "a"]

/-- **Standing and place may differ**: a node that is online is inactive, though the loop goes on and
nothing is on its way to it; and a node stays online though it is banned. -/
theorem not_agrees_of_reveille :
    let w := (small ["a", "b"]).run reveille
    let w' := (small ["a", "b"]).run desertion
    (¬ w.Agrees ∧ w.shared.pool = ⟨["a"], []⟩ ∧ w.status "a" = some .inactive ∧ w.isRunning = true ∧
      w.updates.messages = []) ∧
    ¬ w'.Agrees ∧ w'.shared.pool = ⟨["a"], []⟩ ∧ w'.status "a" = some .banned := by
  intro w w'
  have hpool : w.shared.pool = ⟨["a"], []⟩ := by decide +kernel
  have hinactive : w.status "a" = some .inactive := by decide +kernel
  have hpool' : w'.shared.pool = ⟨["a"], []⟩ := by decide +kernel
  have hbanned : w'.status "a" = some .banned := by decide +kernel
  have hsilent : w'.updates.messages = [] := by decide +kernel
  refine ⟨⟨fun h => ?_, hpool, hinactive, by decide +kernel, by decide +kernel⟩, fun h => ?_, hpool', hbanned⟩
  · have hoffline := h.inactive "a" hinactive
    rw [hpool] at hoffline
    cases hoffline
  · rcases h.online "a" (by simp [hpool']) with hactive | ⟨-, n, hn, -⟩
    · rw [hbanned] at hactive
      cases hactive
    · rw [hsilent] at hn
      cases hn

end World

end Live

end MixRounds
