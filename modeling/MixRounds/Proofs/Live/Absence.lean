import Mathlib.Data.List.Induction
import MixRounds.Proofs.Live.Clocks
import MixRounds.Proofs.Live.Outcast
import MixRounds.Proofs.Live.Profile

/-!
# Nodes that are away, and nodes that were turned down

The sweep moves a node offline that has not been heard of for too long, and the node comes back in the first
poll that is accepted.  A poll that is refused because the activity cycle has no such step is heard as well:
the node is alive, and its last poll is now.  But it is left offline.

So a node is offline for one of two reasons: it is still missing, or when it was last heard it was turned
down (`World.Away`, **`World.away_of_run`**).  **`World.missing_iff_of_sweep`** says what that makes of a
sweep: no online node is missing after it, and the offline nodes are missing exactly if they have not been
turned down within the timeout before.

`World.not_missing_of_rebuff` is a run in which a node is left offline that has polled a minute before.
-/

namespace MixRounds

namespace Pool

lemma offline_foldl_add (ids : List NodeId) (p : Pool) : (ids.foldl Pool.add p).offline ⊆ p.offline := by
  induction ids generalizing p with
  | nil => exact List.Subset.refl _
  | cons v rest ih => exact fun j hj => (mem_without.1 (ih (p.add v) hj)).1

end Pool

namespace Live

namespace World

variable {w : World} {v : NodeId}

/-! ## Who comes to be offline -/

lemma offline_assembleOne (w : World) (chance : Shuffle) :
    (w.assembleOne chance).1.shared.pool.offline ⊆ w.shared.pool.offline := by
  rcases w.pool_assembleOne chance with hpool | ⟨picked, pool, hpick, hpool | hpool⟩ <;> rw [hpool]
  · exact List.Subset.refl _
  · exact fun v hv => Pool.offline_of_pick hpick ▸ hv
  · rw [← Pool.offline_of_pick hpick]
    exact Pool.offline_foldl_add picked pool

lemma offline_settleTurn (w : World) (chance : Nat → Shuffle) :
    (w.settleTurn chance).shared.pool.offline ⊆ w.shared.pool.offline := by
  refine settleTurn_induction (P := fun w' => w'.shared.pool.offline ⊆ w.shared.pool.offline)
    (fun w' chance h => List.Subset.trans (offline_assembleOne w' chance) h) (fun w' h => ?_)
    (fun w' result h => ?_) (List.Subset.refl _) chance
  · rwa [shared_acknowledge]
  · rwa [show (w'.finish result).shared.pool = w'.shared.pool from pool_closeQueues w']

lemma offline_processUpdate (hr : w.roster.Sound) (n : Notification) :
    (w.processUpdate n).shared.pool.offline ⊆ w.shared.pool.offline := by
  rw [pool_processUpdate]
  intro j hj
  rcases (applied_takenOver hr n).pool with heq | heq | ⟨heq, -⟩ <;> rw [heq] at hj
  · exact hj
  · exact (Pool.mem_without.1 hj).1
  · exact (Pool.mem_without.1 hj).1

lemma offline_processEvent (w : World) (e : Event) :
    (w.processEvent e).shared.pool.offline ⊆ w.shared.pool.offline := by
  cases e with
  | timedOut id p => exact fun j hj => pool_processTimeout w id p ▸ hj
  | started id =>
      dsimp only [processEvent, unreserve]
      split <;> exact List.Subset.refl _
  | startFailed p fault =>
      dsimp only [processEvent, unreserve]
      split <;> exact Pool.offline_foldl_add _ _
  | finished id => exact List.Subset.refl _

/-- **The loop puts nobody offline.** -/
lemma offline_iterate (hr : w.roster.Sound) (source : Source) (chance : Nat → Shuffle) :
    (w.iterate source chance).shared.pool.offline ⊆ w.shared.pool.offline := by
  rcases w.iterate_cases source chance with heq | ⟨m, w', htaken, heq⟩ <;> rw [heq]
  · exact List.Subset.refl _
  · refine List.Subset.trans (offline_settleTurn _ chance) ?_
    cases htaken with
    | @update n ch => exact offline_processUpdate (w := { w with updates := ch }) hr n
    | @event e ch => exact offline_processEvent { w with events := ch } e
    | @request r => cases r <;> exact List.Subset.refl _

/-- A sweep is due. -/
def SweepDue (w : World) : Prop := ∃ due, w.nextSweep = some due ∧ due ≤ w.clock

/-- The online nodes that a sweep moves offline. -/
def stale (w : World) : List NodeId :=
  w.shared.pool.stale w.shared.net.nodes w.wall w.settings.offlineTimeoutSecs.toNat

/-- **A sweep** takes place if it is due. -/
lemma step_sweep (w : World) :
    w.SweepDue ∧ (∃ next, w.step .sweep = { w.sweepNow with nextSweep := next }) ∨
      ¬ w.SweepDue ∧ w.step .sweep = w := by
  by_cases hdue : w.SweepDue
  · obtain ⟨due, hnext, hle⟩ := id hdue
    exact Or.inl ⟨hdue, some (due + 1000 * w.settings.cleanupIntervalSecs.toNat),
      by simp [step, sweep, hnext, Nat.not_lt.2 hle]⟩
  · refine Or.inr ⟨hdue, ?_⟩
    cases hnext : w.nextSweep with
    | none => simp [step, sweep, hnext]
    | some due =>
        have hlt : w.clock < due := Nat.lt_of_not_le fun hle => hdue ⟨due, hnext, hle⟩
        simp [step, sweep, hnext, hlt]

/-- **Only the sweep puts nodes offline.** -/
lemma offline_of_step (hr : w.roster.Sound) {m : Move} (hv : v ∈ (w.step m).shared.pool.offline) :
    v ∈ w.shared.pool.offline ∨ m = .sweep ∧ w.SweepDue ∧ v ∈ w.stale := by
  by_cases hsweep : m = .sweep
  · subst hsweep
    rcases w.step_sweep with ⟨hdue, next, heq⟩ | ⟨-, heq⟩ <;> rw [heq] at hv
    · exact (Pool.mem_foldl_including.1 hv).elim (fun hstale => Or.inr ⟨rfl, hdue, hstale⟩) Or.inl
    · exact Or.inl hv
  refine Or.inl ?_
  cases hturn : w.isTurn m with
  | true =>
      cases m with
      | iterate source chance => exact offline_iterate hr source chance hv
      | _ => cases hturn
  | false =>
      by_cases hpoll : ∃ call u a, m = .poll call u a
      · obtain ⟨call, u, a, rfl⟩ := hpoll
        rcases roster_poll w call u a with heq | ⟨-, heq⟩
        · rwa [show (w.step (.poll call u a)).shared.pool = w.shared.pool from
            congrArg Roster.pool heq] at hv
        · rw [show (w.step (.poll call u a)).shared.pool = w.shared.pool.add u from
            congrArg Roster.pool heq] at hv
          exact (Pool.mem_without.1 hv).1
      · rwa [pool_of_step hr hturn (fun call u a heq => hpoll ⟨call, u, a, heq⟩) hsweep] at hv

/-! ## Nodes that are heard and turned down -/

/-- The node polled at the time `t` while it was offline, and was refused because the activity cycle has no
such step. -/
def TurnedDown (w : World) (v : NodeId) (moves : List Move) (t : Instant) : Prop :=
  ∃ earlier call a later o, moves = earlier ++ .poll call v a :: later ∧
    v ∈ (w.run earlier).shared.pool.offline ∧
    ((w.run earlier).step (.poll call v a)).answers = (w.run earlier).answers ++ [(call, o)] ∧
    o.isIllegal = true ∧ (w.run earlier).wall = t

lemma TurnedDown.append {moves : List Move} {t : Instant} (h : w.TurnedDown v moves t) (m : Move) :
    w.TurnedDown v (moves ++ [m]) t := by
  obtain ⟨earlier, call, a, later, o, rfl, hwhen⟩ := h
  exact ⟨earlier, call, a, later ++ [m], o, by simp, hwhen⟩

/-- The last poll of the node was at the time `t` or after it. -/
def HeardSince (w : World) (v : NodeId) (t : Instant) : Prop :=
  ∃ node, w.profile v = some node ∧ t.total ≤ node.lastPoll.total

lemma heardSince_of_step (hr : w.roster.Sound) {t : Instant} (ht : t.total ≤ w.wall.total)
    (h : w.HeardSince v t) (m : Move) : (w.step m).HeardSince v t := by
  obtain ⟨node, hnode, hlast⟩ := h
  by_cases hpoll : ∃ call a, m = .poll call v a
  · obtain ⟨call, a, rfl⟩ := hpoll
    cases polled_poll w call v a with
    | unheard hanswers hlegal hpool hprofile => exact ⟨node, (congrFun hprofile v).trans hnode, hlast⟩
    | refused _ hheard hanswers hillegal hpool hprofile =>
        exact ⟨_, (congrFun hprofile v).trans (if_pos rfl), ht⟩
    | accepted _ hheard hlegal hpool hprofile hactivity hpoll hstatus =>
        exact ⟨_, (congrFun hprofile v).trans (if_pos rfl), hpoll ▸ ht⟩
  · obtain ⟨f, hf, hprofile⟩ := silent_of_step hr fun call a heq => hpoll ⟨call, a, heq⟩
    exact ⟨f node, by rw [hprofile, hnode, Option.map_some], by rwa [hf.lastPoll]⟩

lemma heardSince_of_run (hr : w.roster.Sound) {t : Instant} (ht : t.total ≤ w.wall.total)
    (h : w.HeardSince v t) (moves : List Move) : (w.run moves).HeardSince v t := by
  induction moves generalizing w with
  | nil => exact h
  | cons m rest ih =>
      exact ih (step_sound hr m) (Int.le_trans ht (clocks_of_step w m).2) (heardSince_of_step hr ht h m)

/-- **A node that was turned down** has been heard since. -/
lemma TurnedDown.heardSince (hr : w.roster.Sound) {moves : List Move} {t : Instant}
    (h : w.TurnedDown v moves t) : (w.run moves).HeardSince v t := by
  obtain ⟨earlier, call, a, later, o, rfl, -, hanswered, hillegal, rfl⟩ := h
  have hbefore := run_sound hr earlier
  rw [run_append, run_cons]
  refine heardSince_of_run (step_sound hbefore _) (clocks_of_step _ _).2 ?_ later
  cases polled_poll (w.run earlier) call v a with
  | unheard hanswers hlegal hpool hprofile =>
      obtain rfl : _ = o := by simpa using hanswers.symm.trans hanswered
      simp [hlegal] at hillegal
  | refused hnode hheard hanswers hno hpool hprofile =>
      exact ⟨_, (congrFun hprofile v).trans (if_pos rfl), Int.le_refl _⟩
  | accepted hnode hheard hlegal hpool hprofile hactivity hpoll hstatus =>
      simp [hlegal o hanswered] at hillegal

/-! ## Why a node is offline -/

/-- The node was last heard of longer ago than the timeout allows. -/
def IsLate (w : World) (node : Node) : Prop :=
  (w.settings.offlineTimeoutSecs.toNat : Int) * 1000000000 < w.wall.since node.lastPoll

instance (w : World) (node : Node) : Decidable (w.IsLate node) := inferInstanceAs (Decidable (_ < _))

/-- The node has not been heard of within the timeout. -/
def Missing (w : World) (v : NodeId) : Prop :=
  ∃ node, w.shared.net.nodes.get? v = some node ∧ w.IsLate node

instance (w : World) (v : NodeId) : Decidable (w.Missing v) :=
  decidable_of_iff ((w.shared.net.nodes.get? v).any fun n => decide (w.IsLate n)) (by simp [Missing, Option.any_eq_true])

lemma missing_iff : w.Missing v ↔ ∃ node, w.profile v = some node ∧ w.IsLate node := by
  constructor
  · rintro ⟨node, hnode, hlate⟩
    exact ⟨node.profile, profile_of_get? hnode, hlate⟩
  · rintro ⟨node, hnode, hlate⟩
    obtain ⟨old, hold, rfl⟩ := Option.map_eq_some_iff.1 hnode
    exact ⟨old, hold, hlate⟩

lemma missing_of_mem_stale (h : v ∈ w.stale) : w.Missing v := by
  obtain ⟨node, hnode, hstale⟩ := (Option.any_eq_true _ _).1 (List.mem_filter.1 h).2
  exact ⟨node, hnode, by simpa [IsLate, Node.isStale] using hstale⟩

lemma mem_stale (honline : v ∈ w.shared.pool.online) (h : w.Missing v) : v ∈ w.stale := by
  obtain ⟨node, hnode, hlate⟩ := h
  exact List.mem_filter.2 ⟨honline, by simpa [hnode, IsLate, Node.isStale] using hlate⟩

lemma isLate_of_step {m : Move} {node node' : Node} (h : w.IsLate node)
    (hlast : node'.lastPoll = node.lastPoll) : (w.step m).IsLate node' := by
  have hwall := (clocks_of_step w m).2
  rw [IsLate, settings_of_step, hlast]
  rw [IsLate] at h
  simp only [Instant.since] at h ⊢
  omega

/-- The node is not active, and it is late, or was turned down when it was last heard. -/
structure Away (w : World) (v : NodeId) (moves : List Move) (node : Node) : Prop where
  known : (w.run moves).profile v = some node
  inactive : node.status ≠ .active
  why : (w.run moves).IsLate node ∨ w.TurnedDown v moves node.lastPoll

/-- **A node that is offline stays so for a reason**: it goes on being late, or it is turned down. -/
lemma Away.step (hr : (w.run moves).roster.Sound) {node : Node} (h : w.Away v moves node)
    (hbefore : v ∈ (w.run moves).shared.pool.offline) {m : Move}
    (hafter : v ∈ ((w.run moves).step m).shared.pool.offline) :
    ∃ node', w.Away v (moves ++ [m]) node' := by
  have hrun := w.run_snoc moves m
  by_cases hpoll : ∃ call a, m = .poll call v a
  · obtain ⟨call, a, rfl⟩ := hpoll
    cases polled_poll (w.run moves) call v a with
    | unheard hanswers hlegal hpool hprofile =>
        refine ⟨node, ?_, h.inactive, ?_⟩
        · rw [hrun]
          exact (congrFun hprofile v).trans h.known
        · rw [hrun]
          exact h.why.imp (fun hlate => isLate_of_step hlate rfl) fun hdown => hdown.append _
    | refused hnode hheard hanswers hillegal hpool hprofile =>
        obtain rfl := Option.some.inj (h.known.symm.trans hnode)
        refine ⟨node.hear (w.run moves).wall, ?_, h.inactive, Or.inr ?_⟩
        · rw [hrun]
          exact (congrFun hprofile v).trans (if_pos rfl)
        · exact ⟨moves, call, a, [], _, rfl, hbefore, hanswers, rfl, rfl⟩
    | accepted hnode hheard hlegal hpool hprofile hactivity hpoll hstatus =>
        -- it was inactive and offline, so it is back
        obtain rfl := Option.some.inj (h.known.symm.trans hnode)
        have hinactive : node.status = .inactive := hheard.resolve_left h.inactive
        rw [if_pos ⟨hinactive, hbefore⟩] at hpool
        rw [show ((w.run moves).step (.poll call v a)).shared.pool = _ from hpool] at hafter
        exact absurd rfl (Pool.mem_without.1 hafter).2
  · obtain ⟨f, hf, hprofile⟩ := silent_of_step hr fun call a heq => hpoll ⟨call, a, heq⟩
    refine ⟨f node, ?_, fun hactive => h.inactive (hf.status node hactive), ?_⟩
    · rw [hrun, hprofile, h.known, Option.map_some]
    · rw [hrun, hf.lastPoll]
      exact h.why.imp (fun hlate => isLate_of_step hlate (hf.lastPoll node)) fun hdown => hdown.append _

/-- **A node that is moved offline** is late. -/
lemma away_of_mem_stale (hdue : (w.run moves).SweepDue) (h : v ∈ (w.run moves).stale) :
    ∃ node, w.Away v (moves ++ [.sweep]) node := by
  have hrun := w.run_snoc moves .sweep
  obtain ⟨node, hnode, hlate⟩ := missing_iff.1 (missing_of_mem_stale h)
  refine ⟨Pool.sweptNode node, ?_, ?_, Or.inl (hrun ▸ isLate_of_step hlate rfl)⟩
  · rcases (w.run moves).step_sweep with ⟨-, next, heq⟩ | ⟨hnot, -⟩
    · have hswept : (w.run moves).sweepNow.profile v = ((w.run moves).profile v).map Pool.sweptNode :=
        (congrFun (profile_sweepNow _) v).trans (if_pos h)
      rw [hrun, heq]
      exact hswept.trans (by rw [hnode, Option.map_some])
    · exact absurd hdue hnot
  · cases hstatus : node.status <;> simp [Pool.sweptNode, hstatus]

/-- **Every node that is offline is away.** -/
theorem away_of_run (hr : w.roster.Sound) (hempty : v ∉ w.shared.pool.offline) {moves : List Move}
    (h : v ∈ (w.run moves).shared.pool.offline) : ∃ node, w.Away v moves node := by
  induction moves using List.reverseRecOn with
  | nil => exact absurd h hempty
  | append_singleton moves m ih =>
      have hbefore := run_sound hr moves
      have hafter : v ∈ ((w.run moves).step m).shared.pool.offline := by
        rwa [run_snoc] at h
      rcases offline_of_step hbefore hafter with hwas | ⟨rfl, hdue, hstale⟩
      · obtain ⟨node, haway⟩ := ih hwas
        exact haway.step hbefore hwas hafter
      · exact away_of_mem_stale hdue hstale

/-! ## Every sweep -/

/-- The node was turned down within the timeout. -/
def TurnedDownLately (w : World) (v : NodeId) (moves : List Move) : Prop :=
  ∃ t, w.TurnedDown v moves t ∧
    (w.run moves).wall.since t ≤ ((w.run moves).settings.offlineTimeoutSecs.toNat : Int) * 1000000000

/-- **A node that is offline** is missing, or has been turned down lately. -/
theorem missing_iff_of_offline (hr : w.roster.Sound) (hempty : v ∉ w.shared.pool.offline)
    {moves : List Move} (h : v ∈ (w.run moves).shared.pool.offline) :
    (w.run moves).Missing v ↔ ¬ w.TurnedDownLately v moves := by
  obtain ⟨node, haway⟩ := away_of_run hr hempty h
  rw [missing_iff]
  constructor
  · rintro ⟨node', hnode', hlate⟩ ⟨t, hdown, hlately⟩
    obtain ⟨heard, hheard, hsince⟩ := hdown.heardSince hr
    obtain rfl := Option.some.inj (hnode'.symm.trans hheard)
    rw [IsLate] at hlate
    simp only [Instant.since] at hlate hlately
    omega
  · intro hnot
    refine ⟨node, haway.known, ?_⟩
    by_contra hlate
    have hdown := haway.why.resolve_left hlate
    exact hnot ⟨node.lastPoll, hdown, Int.not_lt.1 hlate⟩

/-- What a sweep leaves behind: the nodes that are offline are those that are missing, but for nodes that
were turned down. -/
structure Swept (w : World) (moves : List Move) : Prop where
  /-- No online node is missing. -/
  online : ∀ v ∈ ((w.run moves).step .sweep).shared.pool.online, ¬ ((w.run moves).step .sweep).Missing v
  /-- A node that is offline is missing, unless it was turned down within the timeout. -/
  offline_iff : ∀ v ∈ ((w.run moves).step .sweep).shared.pool.offline,
    ((w.run moves).step .sweep).Missing v ↔ ¬ w.TurnedDownLately v (moves ++ [.sweep])

/-- **Right after a sweep**, in any run from an idle network: no online node is missing, and the nodes that
are offline are missing exactly if they have not been turned down within the timeout. -/
theorem missing_iff_of_sweep (settings : Settings) (latency : Latency) (isDisabled : NodeId → Bool)
    {net : Network} (wall : Instant) (hidle : net.Idle) (moves : List Move) :
    let w := create settings latency isDisabled net wall
    (w.run moves).SweepDue → w.Swept moves := by
  intro w hdue
  have hr := create_sound settings latency isDisabled wall hidle
  refine ⟨fun v hv hmissing => ?_, fun v hv => ?_⟩
  · rcases (w.run moves).step_sweep with ⟨-, next, heq⟩ | ⟨hnot, -⟩
    · rw [heq] at hv hmissing
      obtain ⟨honline, hkept⟩ := List.mem_filter.1 hv
      have hfresh : v ∉ (w.run moves).stale := of_decide_eq_true hkept
      obtain ⟨node, hnode, hlate⟩ := missing_iff.1 hmissing
      have hsame : (w.run moves).sweepNow.profile v = (w.run moves).profile v :=
        (congrFun (profile_sweepNow _) v).trans (if_neg hfresh)
      exact hfresh (mem_stale honline (missing_iff.2 ⟨node, hsame.symm.trans hnode, hlate⟩))
    · exact absurd hdue hnot
  · have hrun := w.run_snoc moves .sweep
    rw [← hrun] at hv ⊢
    exact missing_iff_of_offline hr List.not_mem_nil hv

/-- One of two nodes waits and stops polling. -/
theorem missing_iff_of_two :
    let w := small ["a", "b"]
    let moves := .launch :: reporting "a" .waiting ++ [.wallPass 181000000000, .pass 60000]
    (smallNetwork ["a", "b"]).Idle ∧ (w.run moves).SweepDue ∧ w.Swept moves := by
  intro w moves
  have hdue : (w.run moves).SweepDue := ⟨60000, by decide +kernel, by decide +kernel⟩
  exact ⟨idle_smallNetwork _, hdue, missing_iff_of_sweep _ _ _ _ (idle_smallNetwork _) moves hdue⟩

/-! ## A node that is turned down -/

/-- One of two nodes waits and is moved offline, and reports a minute before the next sweep that it stands
by. -/
def rebuff : List Move :=
  .launch :: reporting "a" .waiting ++ absence ++
    [.poll 1 "a" .standby, .wallPass 60000000000, .pass 60000]

/-- **The node is left offline** by that sweep, and it is not missing. -/
theorem not_missing_of_rebuff :
    let w := (small ["a", "b"]).run rebuff
    w.SweepDue ∧ "a" ∈ (w.step .sweep).shared.pool.offline ∧ ¬ (w.step .sweep).Missing "a" := by
  intro w
  exact ⟨⟨120000, by decide +kernel, by decide +kernel⟩, by decide +kernel, by decide +kernel⟩

end World

end Live

end MixRounds
