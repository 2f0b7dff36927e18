import MixRounds.Live.Move
import MixRounds.Proofs.Live.Apply
import MixRounds.Proofs.Live.Roster

/-!
# The picture of a scheduler

`World.roster` reads the picture of `Roster` off a scheduler.  Most of what happens to a scheduler does
not show in it, and that is said first.  The rest of this file is about two of the five that write to
it: the callers, through whom a node comes back that was swept offline, and the loop as it applies a
notification (`World.processUpdate_sound`), by which a node lets its round go, leaves the pool, or
joins it.
-/

namespace MixRounds.Live

namespace Event

/-- The round that an event reports as started. -/
def started? : Event → Option RoundId
  | .started id => some id
  | _ => none

/-- The team that an event reports as refused. -/
def refused? : Event → Option ProtoRound
  | .startFailed p _ => some p
  | _ => none

end Event

namespace World

/-- The teams whose start is still to come: the one the starter holds back, and those in its queue. -/
def pending (w : World) : List ProtoRound :=
  match w.starter with
  | .pausing p _ => p :: w.protos
  | _ => w.protos

/-- Where every node stands. -/
def roster (w : World) : Roster where
  known v := v ∈ w.shared.net.nodes.keys
  holding := w.shared.net.holding
  team := w.shared.net.team?
  pool := w.shared.pool
  inFlight := w.loop.inFlight.get?
  reserved := w.loop.reserved
  pending := w.pending
  started := w.events.messages.filterMap Event.started?
  refused := w.events.messages.filterMap Event.refused?
  admits := w.handsOut = true
  next := w.shared.net.counter.next.toNat

variable {w : World}

lemma mem_started {id : RoundId} : id ∈ w.roster.started ↔ .started id ∈ w.events.messages := by
  refine List.mem_filterMap.trans ⟨?_, fun h => ⟨.started id, h, rfl⟩⟩
  rintro ⟨e, he, hid⟩
  cases e <;> cases hid
  exact he

/-! ## What does not touch the picture -/

@[simp] lemma roster_answer (w : World) (call : CallId) (o : Outcome) :
    (w.answer call o).roster = w.roster := rfl

@[simp] lemma roster_count (w : World) (f : Counters → Counters) : (w.count f).roster = w.roster :=
  rfl

@[simp] lemma roster_notify (w : World) (n : Notice) :
    (w.mapShared fun s => s.notify n).roster = w.roster := rfl

/-- As long as no node comes or goes and no number is drawn, what is shared shows up in three places. -/
lemma roster_shared (w : World) {s : Shared}
    (hknown : ∀ j, s.net.nodes.get? j = none ↔ w.shared.net.nodes.get? j = none)
    (hcounter : s.net.counter = w.shared.net.counter) :
    ({ w with shared := s } : World).roster
      = { w.roster with holding := s.net.holding, team := s.net.team?, pool := s.pool } := by
  have hkeys : (fun j => j ∈ s.net.nodes.keys) = fun j => j ∈ w.shared.net.nodes.keys := by
    funext j
    have hj := not_congr (hknown j)
    simpa [Table.get?_eq_none_iff] using hj
  simp only [roster, hkeys, hcounter]
  rfl

lemma roster_mapNode (w : World) (v : NodeId) {f : Node → Node}
    (hf : ∀ node, w.shared.net.nodes.get? v = some node → (f node).round = node.round) :
    (w.mapNode v f).roster = w.roster := by
  have hshared := roster_shared w (s := w.shared.mapNode v f)
    (fun j => by
      simp only [Shared.mapNode, Network.mapNode, Table.get?_modify]
      split <;> simp)
    rfl
  refine hshared.trans ?_
  rw [show (w.shared.mapNode v f).net.holding = w.shared.net.holding from
    Network.holding_mapNode _ _ hf]
  rfl

@[simp] lemma roster_release (w : World) (v : NodeId) :
    (w.mapNode v Node.release).roster = w.roster := roster_mapNode w v fun _ _ => rfl

@[simp] lemma roster_turnAway (w : World) (who : Notifier) : (w.turnAway who).roster = w.roster := by
  simp [turnAway]

@[simp] lemma roster_enqueue (w : World) (who : Notifier) (n : Notification) (sent : Outcome) :
    (w.enqueue who n sent).roster = w.roster := by
  rw [enqueue]
  split
  · rfl
  · rfl
  · rw [roster_turnAway]
    rfl

/-! ## The callers -/

/-- Who comes back is written to the nodes and to the pool, and nowhere else. -/
lemma bringOnline_eq (w : World) (v : NodeId) : w.bringOnline v = w.mapShared fun s =>
    { s with
      pool := (w.bringOnline v).shared.pool
      net := { s.net with nodes := (w.bringOnline v).shared.net.nodes } } := by
  rw [bringOnline]
  split
  · rfl
  · split
    · rfl
    · split <;> rfl

/-- The node that comes back is restored, and no other is changed. -/
lemma get?_bringOnline (w : World) (u j : NodeId) : (w.bringOnline u).shared.net.nodes.get? j
    = if j = u then (w.shared.net.nodes.get? j).map Pool.restoredNode else w.shared.net.nodes.get? j := by
  cases hnode : w.shared.net.nodes.get? u with
  | none =>
      simp only [bringOnline, hnode]
      split
      · rename_i hj
        rw [hj, hnode]
        rfl
      · rfl
  | some node =>
      have hchanged : ∀ f : Node → Node, f node = Pool.restoredNode node →
          (w.shared.net.nodes.modify u f).get? j = if j = u
            then (w.shared.net.nodes.get? j).map Pool.restoredNode else w.shared.net.nodes.get? j := by
        intro f hf
        rw [Table.get?_modify]
        split
        · rename_i hj
          rw [hj, hnode, Option.map_some, Option.map_some, hf]
        · rfl
      simp only [bringOnline, hnode]
      by_cases hinactive : node.status = .inactive
      · rw [if_neg (not_not.2 hinactive), Pool.restore]
        by_cases hoffline : u ∈ w.shared.pool.offline
        · rw [if_pos hoffline]
          exact hchanged Pool.restoredNode rfl
        · rw [if_neg hoffline]
          exact hchanged _ (by simp [Pool.restoredNode, hinactive])
      · rw [if_pos hinactive]
        split
        · rename_i hj
          rw [hj, hnode, Option.map_some, Pool.restoredNode, if_neg hinactive]
        · rfl

/-- A node that comes back changes sets, and nothing else shows. -/
lemma roster_bringOnline (w : World) (v : NodeId) :
    (w.bringOnline v).roster = w.roster ∨
      v ∈ w.roster.pool ∧ (w.bringOnline v).roster = { w.roster with pool := w.roster.pool.add v } := by
  rw [bringOnline]
  split
  · exact Or.inl rfl
  · split
    · exact Or.inl rfl
    · split
      · rename_i pool nodes hrestore
        rw [Pool.restore] at hrestore
        split at hrestore
        · rename_i hoffline
          cases hrestore
          exact Or.inr ⟨Or.inr hoffline, roster_mapNode ({ w with shared := { w.shared with
            pool := w.shared.pool.add v } }) v (f := Pool.restoredNode) fun _ _ => rfl⟩
        · cases hrestore
      · exact Or.inl (roster_mapNode w v (f := fun n => { n with status := .active }) fun _ _ => rfl)

/-- A poll may bring its node back, and does nothing else to the picture. -/
lemma roster_poll (w : World) (call : CallId) (v : NodeId) (a : Activity) :
    (w.poll call v a).roster = w.roster ∨
      v ∈ w.roster.pool ∧ (w.poll call v a).roster = { w.roster with pool := w.roster.pool.add v } := by
  rw [poll]
  split
  · exact Or.inl rfl
  · rename_i node hnode
    split
    · exact Or.inl rfl
    · rename_i taken hacquire
      have htaken : taken.round = node.round := by
        have hsnd : node.tryAcquire.2 = taken := congrArg Prod.snd hacquire
        rw [← hsnd]
        rfl
      -- whatever the report, the node has been seen, and its round is the one it had
      have hseen : ∀ {seen result}, taken.poll v a w.wall = (seen, result) → ∀ f : Node → Node,
          (f seen).round = seen.round → (w.mapNode v fun _ => f seen).roster = w.roster := by
        intro seen result hpoll f hf
        refine roster_mapNode w v fun old hold => ?_
        have hround := taken.poll_round v a w.wall
        rw [hpoll] at hround
        rw [hf, hround, htaken, ← Option.some.inj (hnode.symm.trans hold)]
      split
      · rename_i seen fault hpoll
        exact Or.inl (hseen hpoll Node.release rfl)
      · rename_i seen hpoll
        have honline := roster_bringOnline (w.mapNode v fun _ => seen) v
        have hsame : (w.mapNode v fun _ => seen).roster = w.roster := hseen hpoll id rfl
        rw [hsame] at honline
        simpa using honline
      · rename_i seen n hpoll
        have honline := roster_bringOnline (w.mapNode v fun _ => seen) v
        have hsame : (w.mapNode v fun _ => seen).roster = w.roster := hseen hpoll id rfl
        rw [hsame] at honline
        simpa using honline

lemma poll_sound (h : w.roster.Sound) (call : CallId) (v : NodeId) (a : Activity) :
    (w.poll call v a).roster.Sound := by
  rcases roster_poll w call v a with heq | ⟨hv, heq⟩ <;> rw [heq]
  · exact h
  · exact h.of_pool (h.tidy.add v) fun j hj => (Pool.mem_add.1 hj).elim (fun heq => heq ▸ hv) id

lemma roster_banFree (w : World) (call : CallId) (v : NodeId) {node : Node}
    (hnode : w.shared.net.nodes.get? v = some node) : (w.banFree call v node).roster = w.roster := by
  rw [banFree]
  rw [roster_enqueue]
  refine roster_mapNode w v fun old hold => ?_
  rw [← Option.some.inj (hnode.symm.trans hold)]
  rfl

@[simp] lemma roster_ban (w : World) (call : CallId) (v : NodeId) :
    (w.ban call v).roster = w.roster := by
  rw [ban]
  split
  · rfl
  · split
    · exact roster_banFree w call v ‹_›
    · rfl

@[simp] lemma roster_resumeBan (w : World) (call : CallId) :
    (w.resumeBan call).roster = w.roster := by
  rw [resumeBan]
  split
  · rfl
  · split
    · rfl
    · split
      · exact roster_banFree _ call _ ‹_›
      · rfl

@[simp] lemma roster_request (w : World) (r : Request) : (w.request r).roster = w.roster := by
  rw [request]
  split <;> rfl

@[simp] lemma roster_admitUpdate (w : World) : w.admitUpdate.roster = w.roster := by
  rw [admitUpdate]
  split <;> rfl

@[simp] lemma roster_admitRequest (w : World) : w.admitRequest.roster = w.roster := by
  rw [admitRequest]
  split <;> rfl

/-! ## The loop applies a notification -/

lemma exists_round (h : w.roster.Sound) {v : NodeId} {id : RoundId}
    (hv : w.shared.net.holding v = some id) : ∃ r, w.shared.net.rounds.get? id = some r := by
  obtain ⟨team, hteam, -⟩ := h.held_team v id hv
  obtain ⟨r, hr, -⟩ := Option.map_eq_some_iff.1 hteam
  exact ⟨r, hr⟩

lemma holding_of_applied {settings : Settings} {now : Instant} {reserved : List NodeId} {v : NodeId}
    {k : Kind} {s s' : Shared} (happlied : Shared.Applied settings now reserved v k s s') :
    s'.net.holding = fun j => if j = v ∧ k.detaches = true then none else s.net.holding j := by
  funext j
  simp only [Network.holding, happlied.nodes j]
  split
  · cases s.net.nodes.get? j <;> rfl
  · rfl

lemma team?_of_applied {settings : Settings} {now : Instant} {reserved : List NodeId} {v : NodeId}
    {k : Kind} {s s' : Shared} (happlied : Shared.Applied settings now reserved v k s s') :
    s'.net.team? = s.net.team? := by
  funext j
  simp only [Network.team?, happlied.rounds j]
  split
  · simp [Function.comp_def, Kind.topology_effect]
  · rfl

/-- **A notification keeps the picture sound.**  A node joins the pool only after it has let its round
go, and only if no team was promised it. -/
lemma applied_sound (h : w.roster.Sound) {v : NodeId} {k : Kind} {s' : Shared}
    (happlied : Shared.Applied w.settings w.wall w.loop.reserved v k w.shared s') :
    ({ w with shared := s' } : World).roster.Sound := by
  have hroster := roster_shared w (s := s')
    (fun j => by rw [happlied.nodes j]; split <;> simp) happlied.counter
  rw [hroster, holding_of_applied happlied, team?_of_applied happlied]
  have hparted : { w.roster with holding := fun j =>
      if j = v ∧ k.detaches = true then none else w.roster.holding j }.Sound := by
    by_cases hk : k.detaches = true
    · simpa [hk] using h.detach v
    · simpa [hk] using h
  rcases happlied.pool with hpool | hpool | ⟨hpool, rfl, hres, hknown⟩ <;> rw [hpool]
  · exact hparted
  · exact hparted.of_pool (h.tidy.remove v) fun j hj => (Pool.mem_remove.1 hj).1
  · exact hparted.join (v := v) hknown (by simp [Kind.detaches]) hres

/-- The scheduler at the moment at which the loop applies a notification. -/
def takenOver (w : World) (n : Notification) : World :=
  (w.count fun c => { c with updatesProcessed := c.updatesProcessed + 1 }).mapNode n.node
    fun node => node.takeOwnership.2

@[simp] lemma roster_takenOver (w : World) (n : Notification) :
    (w.takenOver n).roster = w.roster :=
  roster_mapNode _ n.node (f := fun node => node.takeOwnership.2) fun _ _ => rfl

lemma holding_takenOver (w : World) (n : Notification) :
    (w.takenOver n).shared.net.holding = w.shared.net.holding :=
  congrArg Roster.holding (roster_takenOver w n)

lemma kindOf_takenOver (w : World) (n : Notification) :
    (w.takenOver n).shared.kindOf n = w.shared.kindOf n := by
  simp only [Shared.kindOf, holding_takenOver]
  rfl

lemma applied_takenOver (h : w.roster.Sound) (n : Notification) :
    Shared.Applied w.settings w.wall w.loop.reserved n.node (w.shared.kindOf n) (w.takenOver n).shared
      ((w.takenOver n).shared.apply w.settings w.wall w.clock w.loop.reserved n).1 := by
  have htaken : (w.takenOver n).roster.Sound := (roster_takenOver w n).symm ▸ h
  rw [← kindOf_takenOver]
  exact .apply fun id hid => exists_round htaken hid

lemma processUpdate_sound (h : w.roster.Sound) (n : Notification) :
    (w.processUpdate n).roster.Sound := by
  have htaken : (w.takenOver n).roster.Sound := (roster_takenOver w n).symm ▸ h
  have hsound := applied_sound htaken (applied_takenOver h n)
  rw [← roster_release _ n.node] at hsound
  rw [processUpdate]
  dsimp only
  split <;> exact hsound

end World

end MixRounds.Live
