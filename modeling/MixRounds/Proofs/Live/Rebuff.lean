import MixRounds.Proofs.Live.Delivery
import MixRounds.Proofs.Live.Profile
import MixRounds.Proofs.Live.Replies
import MixRounds.Proofs.Table

/-!
# Polls that come to nothing

A poll comes to nothing if somebody else has its node, or if it is refused.  One would have it that nothing
has changed then, and mostly nothing has: the poll is turned away before anything is written.

Two refusals come later.  A report that is no step of the activity cycle is refused after its node was heard:
its last poll is now, and it has polled once more.  And whether the loop is gone shows last of all, when the
notification is to be sent.  By then the node does what it has said and is back online if it was offline;
the caller gives it free, and the rest stays.

`World.fate_poll` says what any poll does, and **`World.rebuffed_of_poll`** what is left of a poll that comes
to nothing, at once or after it has stood in line.  `World.not_untouched_of_rebuff` has one of each kind.
-/

namespace MixRounds

namespace Node

/-- What a report of a change writes down. -/
def record (n : Node) (a : Activity) (now : Instant) : Node :=
  { n.hear now with activity := a, lastUpdate := now }

/-- **A change that is accepted** is a step of the cycle, and it is written down. -/
lemma poll_changed {n seen : Node} {v : NodeId} {a : Activity} {now : Instant} {m : Notification}
    (h : n.poll v a now = (seen, .ok (some m))) :
    n.IsHeard ∧ n.activity.mayBecome a = true ∧ seen = n.record a now := by
  refine ⟨(poll_accepted h).1, ?_⟩
  rw [poll] at h
  split at h
  · cases h
  · cases h
  · dsimp only at h
    split at h
    · cases h
    · split at h
      · rename_i hmay
        cases h
        exact ⟨hmay, rfl⟩
      · cases h

end Node

namespace Live

/-- The call has come to nothing: somebody else has the node, or the call is refused. -/
def Outcome.isRebuff : Outcome → Bool
  | .busy | .refused _ => true
  | _ => false

/-- The call was refused, but something had been written by then. -/
def Outcome.isLate : Outcome → Bool
  | .refused (.illegalActivity ..) | .refused .channelClosed => true
  | _ => false

lemma Outcome.isLate_of_isIllegal {o : Outcome} (h : o.isIllegal = true) : o.isLate = true := by
  unfold isIllegal at h
  split at h
  · rfl
  · cases h

namespace World

variable {w w' : World} {call : CallId} {v : NodeId} {a : Activity} {o : Outcome}

/-- The node, the pool and the queued notifications are as they were. -/
structure Untouched (w : World) (v : NodeId) (w' : World) : Prop where
  node : w'.shared.net.nodes.get? v = w.shared.net.nodes.get? v
  pool : w'.shared.pool = w.shared.pool
  updates : w'.updates = w.updates

/-- The node `v`, which was `node`, does `a` now, and is back from offline if that is where it was; and its
hand-off is `h`. -/
structure Recorded (w : World) (v : NodeId) (a : Activity) (node : Node) (h : Handoff) (w' : World) : Prop where
  before : w.shared.net.nodes.get? v = some node
  heard : node.IsHeard
  mayBecome : node.activity.mayBecome a = true
  after : w'.shared.net.nodes.get? v
    = some { node.record a w.wall with status := .active, handoff := h }
  others : ∀ u, u ≠ v → w'.shared.net.nodes.get? u = w.shared.net.nodes.get? u
  pool : w'.shared.pool = if node.status = .inactive ∧ v ∈ w.shared.pool.offline
    then w.shared.pool.add v else w.shared.pool

/-- What becomes of a poll of the node `v` that reports `a`. -/
inductive Fate (w : World) (call : CallId) (v : NodeId) (a : Activity) (w' : World) : Prop
  /-- It is turned away at once. -/
  | early {o : Outcome} (hrebuff : o.isRebuff = true) (hearly : o.isLate = false) (heq : w' = w.answer call o)
  /-- The node is heard, and its report is refused. -/
  | illegal {node : Node} (hnode : w.shared.net.nodes.get? v = some node)
      (heq : w' = (w.mapNode v fun n => n.hear w.wall).answer call
        (.refused (.illegalActivity v node.activity a)))
  /-- It is served. -/
  | served {o : Outcome} (hserved : o.isRebuff = false)
      (hreception : w'.reception = (w.answer call o).reception) (hrequests : w'.requests = w.requests)
  /-- What the node reports is written down, and the loop is gone. -/
  | closed {node : Node} (hrecorded : w.Recorded v a node .released w') (hupdates : w'.updates = w.updates)
      (hreception : w'.reception = (w.answer call (.refused .channelClosed)).reception)
      (hrequests : w'.requests = w.requests)
  /-- What the node reports is written down, and the caller stands in line. -/
  | waits {node : Node} (hrecorded : w.Recorded v a node .locked w') {n : Notification}
      (hreception : w'.reception
        = { w.reception with waiting := w.updates.waiting ++ [(.poll call v, n)] })
      (hrequests : w'.requests = w.requests)

/-! ## What a poll does -/

lemma mapNode_congr {f g : Node → Node}
    (h : ∀ node, w.shared.net.nodes.get? v = some node → f node = g node) :
    w.mapNode v f = w.mapNode v g := by
  simp only [mapNode, mapShared, Shared.mapNode, Network.mapNode, Table.modify_congr h]

lemma mapNode_eq_self {node : Node} (hnode : w.shared.net.nodes.get? v = some node) {f : Node → Node}
    (hf : f node = node) : w.mapNode v f = w := by
  simp only [mapNode, mapShared, Shared.mapNode, Network.mapNode, Table.modify_eq_self hnode hf]

lemma nodes_mapNode (w : World) (u : NodeId) (f : Node → Node) :
    (w.mapNode u f).shared.net.nodes = w.shared.net.nodes.modify u f := rfl

namespace Recorded

variable {node : Node} {hand : Handoff}

lemma congr (h : w.Recorded v a node hand w') {w'' : World} (hshared : w''.shared = w'.shared) :
    w.Recorded v a node hand w'' where
  before := h.before
  heard := h.heard
  mayBecome := h.mayBecome
  after := hshared ▸ h.after
  others := hshared ▸ h.others
  pool := hshared ▸ h.pool

/-- The caller gives the node free. -/
lemma release (h : w.Recorded v a node hand w') :
    w.Recorded v a node .released (w'.mapNode v Node.release) where
  before := h.before
  heard := h.heard
  mayBecome := h.mayBecome
  after := by rw [nodes_mapNode, Table.get?_modify_self, h.after]; rfl
  others u hu := by rw [nodes_mapNode, Table.get?_modify_of_ne _ hu, h.others u hu]
  pool := h.pool

/-- It has been polled once more. -/
lemma not_untouched (h : w.Recorded v a node hand w') : ¬ w.Untouched v w' := by
  intro huntouched
  have heq := h.after.symm.trans (huntouched.node.trans h.before)
  have hpolls := congrArg Node.polls (Option.some.inj heq)
  simp [Node.record, Node.hear] at hpolls

end Recorded

/-- A node that has something new to say is recorded, while its caller has it. -/
lemma recorded_bringOnline {node : Node} (hnode : w.shared.net.nodes.get? v = some node)
    (hfree : node.handoff = .released) (hheard : node.IsHeard) (hmay : node.activity.mayBecome a = true) :
    w.Recorded v a node .locked
      ((w.mapNode v fun _ => node.tryAcquire.2.record a w.wall).bringOnline v) where
  before := hnode
  heard := hheard
  mayBecome := hmay
  after := by
    rw [get?_bringOnline, if_pos rfl, nodes_mapNode, Table.get?_modify_self, hnode]
    rcases hheard with hstatus | hstatus <;>
      simp [Pool.restoredNode, Node.record, Node.hear, Node.tryAcquire, Handoff.tryAcquire, hstatus, hfree]
  others u hu := by rw [get?_bringOnline, if_neg hu, nodes_mapNode, Table.get?_modify_of_ne _ hu]
  pool := by
    have hseen : (w.mapNode v fun _ => node.tryAcquire.2.record a w.wall).profile v
        = some (node.tryAcquire.2.record a w.wall).profile := by
      rw [profile, nodes_mapNode, Table.get?_modify_self, hnode]
      rfl
    have hpool := pool_bringOnline hseen
    exact hpool

lemma reception_answer (h : w'.reception = w.reception) (call : CallId) (o : Outcome) :
    (w'.answer call o).reception = (w.answer call o).reception :=
  congrArg (fun r => { r with answers := r.answers ++ [(call, o)] }) h

/-- The notification of a change is queued, or waits, or finds the loop gone. -/
lemma fate_enqueue {node : Node} (hrecorded : w.Recorded v a node .locked w')
    (hupdates : w'.updates = w.updates) (hreception : w'.reception = w.reception)
    (hrequests : w'.requests = w.requests) (n : Notification) :
    w.Fate call v a (w'.enqueue (.poll call v) n .enqueued) := by
  rcases w'.updates.send_cases (.poll call v) n with hsend | hsend | hsend <;> simp only [enqueue, hsend]
  · exact .closed (hrecorded.release.congr rfl) hupdates (reception_answer hreception call _) hrequests
  · exact .served rfl (reception_answer hreception call _) hrequests
  · exact .waits (hrecorded.congr rfl)
      (congrArg (fun r => { r with waiting := r.waiting ++ [(Notifier.poll call v, n)] }) hreception)
      hrequests

/-- **Every poll** has one of these fates. -/
theorem fate_poll (w : World) (call : CallId) (v : NodeId) (a : Activity) :
    w.Fate call v a (w.poll call v a) := by
  cases hnode : w.shared.net.nodes.get? v with
  | none =>
      simp only [poll, hnode]
      exact .early rfl rfl rfl
  | some node =>
      rcases hacquire : node.tryAcquire with ⟨free, taken⟩
      cases free with
      | false =>
          simp only [poll, hnode, hacquire]
          exact .early rfl rfl rfl
      | true =>
          have hfree : node.handoff = .released :=
            node.handoff.tryAcquire_fst_iff.1 (congrArg Prod.fst hacquire)
          have htaken : taken = node.tryAcquire.2 := (congrArg Prod.snd hacquire).symm
          -- to take a node and give it free again changes nothing
          have hreleased : taken.release = node := by
            rw [htaken]
            show { node with handoff := .released } = node
            rw [← hfree]
          have hback : ∀ seen : Node, ((w.mapNode v fun _ => seen).bringOnline v).reception = w.reception ∧
              ((w.mapNode v fun _ => seen).bringOnline v).requests = w.requests := fun seen =>
            ⟨reception_bringOnline (w.mapNode v fun _ => seen) v,
              requests_bringOnline (w.mapNode v fun _ => seen) v⟩
          rcases hpoll : taken.poll v a w.wall with ⟨seen, fault | _ | n⟩
          · simp only [poll, hnode, hacquire, hpoll]
            rcases Node.poll_refused hpoll with ⟨rfl, hfault⟩ | ⟨hheard, hne, hmay, rfl, rfl⟩
            · rw [mapNode_eq_self hnode hreleased]
              rcases hfault with rfl | rfl <;> exact .early rfl rfl rfl
            · have hactivity : taken.activity = node.activity := by rw [htaken]; rfl
              have hhear : (w.mapNode v fun _ => (taken.hear w.wall).release)
                  = w.mapNode v fun n => n.hear w.wall := by
                refine mapNode_congr fun n hn => ?_
                rw [← Option.some.inj (hnode.symm.trans hn), ← hreleased]
                rfl
              rw [hhear, hactivity]
              exact .illegal hnode rfl
          · simp only [poll, hnode, hacquire, hpoll]
            exact .served rfl (reception_answer (hback seen).1 call _) (hback seen).2
          · simp only [poll, hnode, hacquire, hpoll]
            obtain ⟨hheard, hmay, rfl⟩ := Node.poll_changed hpoll
            rw [htaken] at hheard hmay ⊢
            exact fate_enqueue (recorded_bringOnline hnode hfree hheard hmay)
              (updates_bringOnline (w.mapNode v fun _ => _) v) (hback _).1 (hback _).2 n

/-! ## What is left of a poll that has come to nothing -/

/-- What the poll of the node `v` that reports `a` has left, if it came to nothing and was told `o`. -/
structure Rebuffed (w : World) (call : CallId) (v : NodeId) (a : Activity) (o : Outcome) : Prop where
  untouched_iff : w.Untouched v (w.poll call v a) ↔ o.isLate = false
  /-- Whoever is turned away early is told so at once, and that is all. -/
  early : o.isLate = false → w.poll call v a = w.answer call o
  /-- A report that is no step of the cycle shows in the last poll of the node and in their number. -/
  illegal : o.isIllegal = true → w.poll call v a = (w.mapNode v fun n => n.hear w.wall).answer call o
  /-- With the loop gone, what the node reports is written down all the same, and the caller gives it free;
  or it stands in line with it, and is turned away there. -/
  closed : o = .refused .channelClosed → ∃ node hand, w.Recorded v a node hand (w.poll call v a) ∧
    (hand = .released ∧ (w.poll call v a).updates = w.updates ∨
      hand = .locked ∧ (w.poll call v a).answers = w.answers)

lemma isUnused_create (settings : Settings) (latency : Latency) (isDisabled : NodeId → Bool) (net : Network)
    (wall : Instant) (call : CallId) : (create settings latency isDisabled net wall).IsUnused call where
  told o ho := by cases ho
  waiting e he := by cases he
  parked p hp := by cases hp
  asked r hr := by cases hr
  acks c hc := by cases hc

/-- Whoever stands in line with a poll is told that its notification was queued, or that the loop is gone. -/
lemma IsUnused.owed_of_waits (hunused : w.IsUnused call) {n : Notification}
    (hreception : w'.reception
      = { w.reception with waiting := w.updates.waiting ++ [(.poll call v, n)] })
    (hrequests : w'.requests = w.requests) :
    w'.Owed call fun o => o = .enqueued ∨ o = .refused .channelClosed where
  told o ho := by
    rw [show w'.answers = w.answers from congrArg Reception.answers hreception] at ho
    exact (hunused.told o ho).elim
  waiting e he hcall := by
    rw [show w'.updates.waiting = w.updates.waiting ++ [(.poll call v, n)]
      from congrArg Reception.waiting hreception] at he
    rcases List.mem_append.1 he with he | he
    · exact (hunused.waiting e he hcall).1.elim
    · rw [List.mem_singleton.1 he]
      exact ⟨Or.inl rfl, Or.inr rfl⟩
  parked := by rw [show w'.parked = w.parked from congrArg Reception.parked hreception]; exact hunused.parked
  asked := hrequests ▸ hunused.asked
  acks := by
    rw [show w'.loop.acks = w.loop.acks from congrArg Reception.acks hreception]
    exact hunused.acks

/-- **What a poll comes to** that is turned away or refused, at once or whatever else happens before it is.
Nothing has changed but that it was told so, exactly if it was not refused late; and what has changed
otherwise was written down before. -/
theorem rebuffed_of_poll {w : World} {call : CallId} (hunused : w.IsUnused call) (v : NodeId) (a : Activity)
    {later : List Move} (hlater : ∀ m ∈ later, m.call? ≠ some call) {o : Outcome}
    (ho : (call, o) ∈ ((w.poll call v a).run later).answers) (hrebuff : o.isRebuff = true) :
    w.Rebuffed call v a o := by
  have htold : ∀ P, (w.poll call v a).Owed call P → P o := fun P hP => (hP.run hlater).told o ho
  have hanswered : ∀ o', (w.answer call o').Owed call (· = o') := fun o' =>
    (hunused.mono fun _ => False.elim).answer fun _ => rfl
  cases w.fate_poll call v a with
  | @early o' _ hearly heq =>
      obtain rfl : o = o' := htold _ (heq ▸ hanswered o')
      refine ⟨iff_of_true (heq ▸ ⟨rfl, rfl, rfl⟩) hearly, fun _ => heq, fun hillegal => ?_, ?_⟩
      · rw [Outcome.isLate_of_isIllegal hillegal] at hearly
        cases hearly
      · rintro rfl
        cases hearly
  | @illegal node hnode heq =>
      have howed : (w.poll call v a).Owed call (· = .refused (.illegalActivity v node.activity a)) := by
        rw [heq]
        exact (hanswered _).congr rfl rfl
      obtain rfl := htold _ howed
      refine ⟨iff_of_false (fun huntouched => ?_) Bool.noConfusion, nofun, fun _ => heq, nofun⟩
      have hheard : (w.poll call v a).shared.net.nodes.get? v = some (node.hear w.wall) := by
        rw [heq]
        exact (Table.get?_modify_self _ _ _).trans (by rw [hnode]; rfl)
      have hsame := Option.some.inj (hheard.symm.trans (huntouched.node.trans hnode))
      simpa [Node.hear] using congrArg Node.polls hsame
  | @served o' hserved hreception hrequests =>
      obtain rfl : o = o' := htold _ ((hanswered o').congr hreception hrequests)
      rw [hserved] at hrebuff
      cases hrebuff
  | @closed node hrecorded hupdates hreception hrequests =>
      obtain rfl : o = .refused .channelClosed := htold _ ((hanswered _).congr hreception hrequests)
      exact ⟨iff_of_false hrecorded.not_untouched Bool.noConfusion, nofun, nofun,
        fun _ => ⟨node, _, hrecorded, Or.inl ⟨rfl, hupdates⟩⟩⟩
  | @waits node hrecorded n hreception hrequests =>
      have howed := hunused.owed_of_waits hreception hrequests
      rcases htold _ howed with rfl | rfl
      · cases hrebuff
      · exact ⟨iff_of_false hrecorded.not_untouched Bool.noConfusion, nofun, nofun,
          fun _ => ⟨node, _, hrecorded, Or.inr ⟨rfl, congrArg Reception.answers hreception⟩⟩⟩

/-- There is room for one notification, and it is taken: the second of two nodes waits for room with its
poll, until the scheduler is dropped. -/
theorem rebuffed_of_full :
    let w := ({ small ["a", "b"] with updates := .withCapacity 1 } : World).run [.poll 0 "a" .waiting]
    w.IsUnused 1 ∧ (w.poll 1 "b" .waiting).answers = w.answers ∧
      (1, .refused .channelClosed) ∈ ((w.poll 1 "b" .waiting).run [.drop]).answers ∧
      w.Rebuffed 1 "b" .waiting (.refused .channelClosed) := by
  intro w
  have hsmall : (small ["a", "b"]).IsUnused 1 := isUnused_create _ _ _ _ _ 1
  have hstart : ({ small ["a", "b"] with updates := .withCapacity 1 } : World).IsUnused 1 :=
    hsmall.congr rfl rfl
  have hunused : w.IsUnused 1 := hstart.run (by decide)
  have htold : (1, .refused .channelClosed) ∈ ((w.poll 1 "b" .waiting).run [.drop]).answers := by
    decide +kernel
  exact ⟨hunused, by decide +kernel, htold, rebuffed_of_poll hunused "b" .waiting (by decide) htold rfl⟩

/-- **A poll that is refused leaves a trace.**  A node that has not begun to wait reports that it stands by,
and is refused; and one that begins to wait after the scheduler was dropped is told that the loop is gone. -/
theorem not_untouched_of_rebuff :
    let w := small ["a"]
    let gone := w.step .drop
    ((0, .refused (.illegalActivity "a" .notStarted .standby)) ∈ (w.poll 0 "a" .standby).answers ∧
      ¬ w.Untouched "a" (w.poll 0 "a" .standby)) ∧
    (0, .refused .channelClosed) ∈ (gone.poll 0 "a" .waiting).answers ∧
      ¬ gone.Untouched "a" (gone.poll 0 "a" .waiting) := by
  intro w gone
  have hpolled : ∀ w w' : World, (w'.shared.net.nodes.get? "a").map Node.polls ≠
      (w.shared.net.nodes.get? "a").map Node.polls → ¬ w.Untouched "a" w' :=
    fun w w' hpolls huntouched => hpolls (congrArg (Option.map Node.polls) huntouched.node)
  exact ⟨⟨by decide +kernel, hpolled _ _ (by decide +kernel)⟩, by decide +kernel,
    hpolled _ _ (by decide +kernel)⟩

end World

end Live

end MixRounds
