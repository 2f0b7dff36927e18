import MixRounds.Proofs.Live.Formation
import MixRounds.Proofs.Live.Standing

/-!
# Banned for good

An outcast is banned, is in neither set of the pool, and holds no round (`World.Outcast`).
**`World.step_outcast`** says that no move takes it back: there are four ways into the pool or to a round,
and each is closed to a banned node.

* A report of waiting parts the node from its round, and then looks at its standing
  (`Shared.not_mem_pool_apply`).
* A team that cannot be formed goes back to the pool it was picked from (`World.mem_pool_assembleFrom`).
* A refused team goes back without its banned members (`World.outcast_processEvent`).
* A team with a banned member is not started (`Shared.not_banned_of_start`).
-/

namespace MixRounds

namespace Live

namespace Shared

variable {s s' : Shared}

/-- **A banned node does not join the pool**, whatever the loop is told of it, and a ban takes it out. -/
lemma not_mem_pool_apply {settings : Settings} {now : Instant} {clock : Nat} {reserved : List NodeId}
    {n : Notification} {node : Node} (hnode : s.net.nodes.get? n.node = some node)
    (hbanned : node.status = .banned)
    (hheld : ∀ id, s.net.holding n.node = some id → ∃ r, s.net.rounds.get? id = some r)
    (hout : n.node ∉ s.pool ∨ s.kindOf n = .ban) :
    n.node ∉ (s.apply settings now clock reserved n).1.pool := by
  obtain ⟨held, hholds⟩ := exists_holds hheld
  rw [apply_pool hnode hholds]
  cases hk : s.kindOf n with
  | alreadyBanned | staleAfterFailure => exact hout.resolve_right (by simp [hk])
  | ban => exact fun hin => (Pool.mem_remove.1 hin).2 rfl
  | activity a =>
      have hout : n.node ∉ s.pool := hout.resolve_right (by simp [hk])
      cases a with
      | waiting => simpa [hbanned] using hout
      | notStarted | precomputing | realtime | standby | completed | error => exact hout

/-- **A team that is started has no banned member.** -/
lemma not_banned_of_start {now : Instant} {clock : Nat} {p : ProtoRound}
    (hstart : s.start now clock p = (s', .ok ())) {v : NodeId} (hv : v ∈ p.topology) {node : Node}
    (hnode : s.net.nodes.get? v = some node) : node.status ≠ .banned := by
  rw [start] at hstart
  split at hstart
  · cases hstart
  · exact (refusal?_eq_none_iff.1 ‹_› v hv node hnode).2

end Shared

namespace World

variable {w : World} {v : NodeId}

/-- The node is banned, does not wait, and holds no round. -/
structure Outcast (w : World) (v : NodeId) : Prop where
  banned : w.IsBanned v
  out : v ∉ w.shared.pool
  free : w.shared.net.holding v = none

lemma Outcast.congr (h : w.Outcast v) {w' : World} (hstatus : w'.status = w.status)
    (hpool : v ∈ w'.shared.pool → v ∈ w.shared.pool)
    (hholding : w'.shared.net.holding v = w.shared.net.holding v) : w'.Outcast v :=
  ⟨(isBanned_congr hstatus).2 h.banned, fun hin => h.out (hpool hin), hholding.trans h.free⟩

lemma node_of_isBanned (h : w.IsBanned v) :
    ∃ node, w.shared.net.nodes.get? v = some node ∧ node.status = .banned :=
  Option.map_eq_some_iff.1 h

/-! ## The turn -/

lemma mem_pool_assembleOne {chance : Shuffle} (hv : v ∈ (w.assembleOne chance).1.shared.pool) :
    v ∈ w.shared.pool := by
  rcases w.pool_assembleOne chance with hpool | ⟨picked, pool, hpick, hpool | hpool⟩ <;>
    rw [hpool] at hv
  · exact hv
  · exact Pool.mem_of_pick hpick (Or.inr hv)
  · exact Pool.mem_of_pick hpick (Pool.mem_foldl_add.1 hv)

/-- Nobody joins the pool while teams are formed. -/
lemma mem_pool_assembleFrom {fuel : Nat} {chance : Nat → Shuffle}
    (hv : v ∈ (assembleFrom fuel chance w).1.shared.pool) : v ∈ w.shared.pool := by
  induction fuel generalizing chance w with
  | zero => exact hv
  | succ fuel ih =>
      have hone : v ∈ (w.assembleOne (chance 0)).1.shared.pool → v ∈ w.shared.pool := mem_pool_assembleOne
      rw [assembleFrom] at hv
      split at hv <;> rename_i heq <;> rw [heq] at hone
      · exact hone (ih hv)
      · exact hone hv
      · exact hone hv

lemma mem_pool_settleTurn {chance : Nat → Shuffle} (hv : v ∈ (w.settleTurn chance).shared.pool) :
    v ∈ w.shared.pool := by
  have hfinished : ∀ (w : World) (result : Except Setback Unit),
      (w.finish result).shared.pool = w.shared.pool := by
    intro w result
    have hclosed : w.closeQueues.roster.pool = w.roster.pool := by rw [roster_closeQueues]
    exact hclosed
  rcases w.settleTurn_cases chance with ⟨w', hw', heq⟩ | ⟨setback, heq⟩
  · have hsame : v ∈ w'.shared.pool → v ∈ w.shared.pool := by
      rcases hw' with rfl | ⟨rfl, -⟩
      · exact id
      · exact mem_pool_assembleFrom
    rcases heq with heq | heq <;> rw [heq] at hv
    · exact hsame hv
    · rw [hfinished, shared_acknowledge] at hv
      exact hsame hv
  · rw [heq, hfinished] at hv
    exact mem_pool_assembleFrom hv

lemma outcast_settleTurn (h : w.Outcast v) (chance : Nat → Shuffle) :
    (w.settleTurn chance).Outcast v :=
  h.congr (status_settleTurn w chance) mem_pool_settleTurn
    (congrFun (congrArg Ledger.holding (ledger_settleTurn w chance)) v)

lemma pool_processUpdate (w : World) (n : Notification) : (w.processUpdate n).shared.pool
    = ((w.takenOver n).shared.apply w.settings w.wall w.clock w.loop.reserved n).1.pool := by
  rw [processUpdate]
  dsimp only
  split <;> rfl

/-- **A banned node that the loop is told of is an outcast after that**, if it was one before or this is its
ban. -/
lemma outcast_processUpdate_self (hr : w.roster.Sound) {n : Notification} (hbanned : w.IsBanned n.node)
    (hout : w.Outcast n.node ∨ w.shared.kindOf n = .ban) : (w.processUpdate n).Outcast n.node := by
  have htaken : (w.takenOver n).roster.Sound := (roster_takenOver w n).symm ▸ hr
  have hstatus : (w.processUpdate n).status = w.status := funext fun j => status_processUpdate hr n j
  refine ⟨(isBanned_congr hstatus).2 hbanned, ?_, ?_⟩
  · have hthere : (w.takenOver n).IsBanned n.node :=
      (isBanned_congr (status_mapNode _ n.node (f := fun node => node.takeOwnership.2)
        fun _ _ => rfl)).2 hbanned
    obtain ⟨node, hnode, hnow⟩ := node_of_isBanned hthere
    rw [pool_processUpdate]
    refine Shared.not_mem_pool_apply hnode hnow (fun id hid => exists_round htaken hid) ?_
    rw [kindOf_takenOver]
    exact hout.imp_left fun h => h.out
  · have hledger := congrFun (congrArg Ledger.holding (ledger_processUpdate hr n)) n.node
    refine hledger.trans ?_
    simp only [Ledger.apply]
    split
    · rfl
    · rename_i hkeeps
      rcases hout with hout | hban
      · exact hout.free
      · simp [hban, Kind.detaches] at hkeeps

lemma outcast_processUpdate (hr : w.roster.Sound) (h : w.Outcast v) (n : Notification) :
    (w.processUpdate n).Outcast v := by
  by_cases hv : n.node = v
  · subst hv
    exact outcast_processUpdate_self hr h.banned (Or.inl h)
  · refine h.congr (funext fun j => status_processUpdate hr n j) (fun hin => ?_) ?_
    · have happlied := applied_takenOver hr n
      rw [pool_processUpdate] at hin
      rcases happlied.pool with heq | heq | ⟨heq, -⟩ <;> rw [heq] at hin
      · exact hin
      · exact (Pool.mem_remove.1 hin).1
      · exact (Pool.mem_add.1 hin).resolve_left (Ne.symm hv)
    · have hledger := congrFun (congrArg Ledger.holding (ledger_processUpdate hr n)) v
      refine hledger.trans ?_
      simp [Ledger.apply, Ne.symm hv, ledger]

lemma outcast_processEvent (h : w.Outcast v) (e : Event) : (w.processEvent e).Outcast v := by
  refine h.congr (status_processEvent w e) (fun hin => ?_) ?_
  · cases e with
    | timedOut id p =>
        have hpool : (w.processTimeout id p).shared.pool = w.shared.pool :=
          congrArg Roster.pool (roster_processTimeout w id p)
        rwa [show (w.processEvent (.timedOut id p)).shared.pool = w.shared.pool from hpool] at hin
    | started id =>
        dsimp only [processEvent, unreserve] at hin
        split at hin <;> exact hin
    | startFailed p fault =>
        have hback : v ∈ (p.topology.filter (returns w.shared.net.nodes)).foldl Pool.add w.shared.pool := by
          dsimp only [processEvent, unreserve] at hin
          split at hin <;> exact hin
        refine (Pool.mem_foldl_add.1 hback).resolve_left fun hreturns => ?_
        -- only members that are not banned go back
        obtain ⟨node, hnode, hbanned⟩ := node_of_isBanned h.banned
        have hreturns := (List.mem_filter.1 hreturns).2
        simp [returns, hnode, hbanned] at hreturns
    | finished id => exact hin
  · rcases ledger_processEvent w e with heq | ⟨id, heq⟩
    · exact congrFun (congrArg Ledger.holding heq) v
    · exact congrFun (congrArg Ledger.holding heq) v

lemma outcast_iterate (hr : w.roster.Sound) (h : w.Outcast v) (source : Source) (chance : Nat → Shuffle) :
    (w.iterate source chance).Outcast v := by
  rw [iterate]
  split
  · split
    · exact h
    · rename_i m w' htake
      refine outcast_settleTurn ?_ chance
      cases source <;> simp only [take?, Option.map_eq_some_iff] at htake <;>
        obtain ⟨⟨message, ch⟩, -, heq⟩ := htake <;> cases heq
      · exact outcast_processUpdate (w := { w with updates := ch }) hr ⟨h.banned, h.out, h.free⟩ message
      · exact outcast_processEvent (w := { w with events := ch }) ⟨h.banned, h.out, h.free⟩ message
      · cases message <;> exact ⟨h.banned, h.out, h.free⟩
  · exact h

/-! ## Everybody else -/

/-- A start leaves a banned node where it is. -/
lemma outcast_attempt (hr : w.roster.Sound) (h : w.Outcast v) : w.attempt.Outcast v := by
  refine h.congr (status_attempt hr) (fun hin => pool_attempt hr ▸ hin) ?_
  have hreported : ∀ (s : Shared) (e : Event),
      (({ w with shared := s } : World).report e).shared.net.holding v = s.net.holding v := by
    intro s e
    rw [report]
    split <;> rfl
  rw [attempt]
  split
  · rename_i p due hstarter
    split
    · rfl
    · have hp : p ∈ w.pending := by simp [pending, hstarter]
      rcases start_pending hr hp w.wall w.clock with ⟨u, -, hstart⟩ | ⟨s', hstart, hstarted⟩
      · simp only [hstart]
        exact hreported _ _
      · simp only [hstart]
        obtain ⟨node, hnode, hbanned⟩ := node_of_isBanned h.banned
        have hv : v ∉ p.topology := fun hv => Shared.not_banned_of_start hstart hv hnode hbanned
        refine (hreported _ _).trans ?_
        simp only [Network.holding, hstarted.nodes v, if_neg hv]
  · rfl

/-- **No move takes an outcast back.** -/
theorem step_outcast (hr : w.roster.Sound) (h : w.Outcast v) (m : Move) : (w.step m).Outcast v := by
  have hbanned : (w.step m).IsBanned v := (isBanned_step hr m).2 (Or.inl h.banned)
  -- the node stays banned in any case; it is left to show where it is
  have hplace : ∀ w' : World, (w'.IsBanned v) → (v ∈ w'.shared.pool → v ∈ w.shared.pool) →
      w'.ledger = w.ledger → w'.Outcast v := fun w' hb hpool hledger =>
    ⟨hb, fun hin => h.out (hpool hin), (congrFun (congrArg Ledger.holding hledger) v).trans h.free⟩
  have hshared : ∀ w' : World, w'.shared = w.shared → w'.IsBanned v → w'.Outcast v :=
    fun w' heq hb => hplace w' hb (by rw [heq]; exact id) (by simp only [ledger, heq])
  cases hprivate : m.isPrivate with
  | true => exact hshared _ (shared_of_isPrivate hprivate) hbanned
  | false =>
      cases m with
      | iterate source chance => exact outcast_iterate hr h source chance
      | attempt => exact outcast_attempt hr h
      | poll call u a =>
          refine hplace _ hbanned (fun hin => ?_) (ledger_poll w call u a)
          rcases roster_poll w call u a with heq | ⟨hu, heq⟩
          · have hpool : (w.poll call u a).shared.pool = w.shared.pool := congrArg Roster.pool heq
            exact hpool ▸ hin
          · have hpool : (w.poll call u a).shared.pool = w.shared.pool.add u := congrArg Roster.pool heq
            rw [show (w.step (.poll call u a)).shared.pool = w.shared.pool.add u from hpool] at hin
            rcases Pool.mem_add.1 hin with rfl | hin
            · exact hu
            · exact hin
      | ban call u =>
          have hpool : (w.ban call u).shared.pool = w.shared.pool :=
            congrArg Roster.pool (roster_ban w call u)
          refine hplace _ hbanned (fun hin => ?_) (ledger_ban w call u)
          rwa [show (w.step (.ban call u)).shared.pool = w.shared.pool from hpool] at hin
      | resumeBan call =>
          have hpool : (w.resumeBan call).shared.pool = w.shared.pool :=
            congrArg Roster.pool (roster_resumeBan w call)
          refine hplace _ hbanned (fun hin => ?_) (ledger_resumeBan w call)
          rwa [show (w.step (.resumeBan call)).shared.pool = w.shared.pool from hpool] at hin
      | drop =>
          have hpool : w.drop.shared.pool = w.shared.pool :=
            pool_of_step hr (m := .drop) rfl (by simp) (by simp)
          exact hplace _ hbanned (fun hin => hpool ▸ hin) (ledger_drop w)
      | leave x =>
          dsimp only [step, leave] at hbanned ⊢
          split at hbanned <;> rename_i hx
          · rw [if_pos hx]
            split at hbanned <;> exact hplace _ hbanned id rfl
          · rw [if_neg hx]
            exact h
      | expire x =>
          dsimp only [step, expire] at hbanned ⊢
          split at hbanned <;> rename_i hx
          · rw [if_pos hx]
            exact hplace _ hbanned id rfl
          · rw [if_neg hx]
            exact h
      | sweep =>
          dsimp only [step, sweep]
          split
          · exact h
          · split
            · exact h
            · exact hplace _ ((isBanned_sweepNow w).2 h.banned) (fun hin => (Pool.mem_sweep ..).1 hin)
                (ledger_sweepNow hr)
      | _ => cases hprivate

lemma run_outcast (hr : w.roster.Sound) (h : w.Outcast v) (moves : List Move) :
    (w.run moves).Outcast v := by
  induction moves generalizing w with
  | nil => exact h
  | cons m rest ih => exact ih (step_sound hr m) (step_outcast hr h m)

end World

end Live

end MixRounds
