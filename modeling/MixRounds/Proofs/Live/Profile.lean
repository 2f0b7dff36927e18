import MixRounds.Proofs.Live.Frame
import MixRounds.Proofs.Live.Reservation

/-!
# What is known of a node

Rounds are attached to nodes and detached from them, and nodes go from hand to hand all the time.  What is
left without these two is `Node.profile`: the standing of the node, what it does, and when it was last heard
of.  Few moves touch that, and **`World.profile_of_step`** says that all others leave it alone.

* A ban changes the standing of its node, and nothing that the node has said (`World.profile_banFree`).
* The sweep makes active nodes inactive, those that it moves offline (`World.profile_sweepNow`).
* A poll is where a node is heard.  `World.Polled` lists what may come of it: it is turned away unheard; or
  it is heard, but what it reports is no step of the activity cycle; or it is accepted, and then a node that
  the sweep has moved offline comes back.  **`World.polled_poll`** says that there is nothing else.

The second of the three is the one to keep in mind: a node that is heard and refused stays where it is.
-/

namespace MixRounds

namespace Node

/-- The node apart from the round that it holds and from whose hands it is in. -/
def profile (n : Node) : Node := { n with round := none, handoff := .released }

@[simp] lemma profile_detach (n : Node) : n.detach.profile = n.profile := rfl

@[simp] lemma profile_release (n : Node) : n.release.profile = n.profile := rfl

@[simp] lemma profile_tryAcquire (n : Node) : n.tryAcquire.2.profile = n.profile := rfl

/-- A node that may be heard: it is neither unregistered nor banned. -/
def IsHeard (n : Node) : Prop := n.status = .active ∨ n.status = .inactive

/-- What being heard does to a node. -/
def hear (n : Node) (now : Instant) : Node := { n with lastPoll := now, polls := n.polls + 1 }

variable {n seen : Node} {v : NodeId} {a : Activity} {now : Instant}

/-- **A refused report** leaves no trace, or the node was heard and its report is no step of the cycle. -/
lemma poll_refused {fault : Fault} (h : n.poll v a now = (seen, .error fault)) :
    seen = n ∧ (fault = .notRegistered v ∨ fault = .banned v) ∨
      n.IsHeard ∧ n.activity ≠ a ∧ n.activity.mayBecome a = false ∧ seen = n.hear now ∧
        fault = .illegalActivity v n.activity a := by
  have hheard : n.status ≠ .unregistered → n.status ≠ .banned → n.IsHeard := by
    cases hstatus : n.status <;> simp [IsHeard, hstatus]
  rw [poll] at h
  split at h
  · cases h
    exact Or.inl ⟨rfl, Or.inl rfl⟩
  · cases h
    exact Or.inl ⟨rfl, Or.inr rfl⟩
  · rename_i hunregistered hbanned
    dsimp only at h
    split at h
    · cases h
    · rename_i hne
      split at h
      · cases h
      · rename_i hmay
        cases h
        exact Or.inr ⟨hheard hunregistered hbanned, hne, by simpa using hmay, rfl, rfl⟩

/-- **A report that is accepted** is of a node that may be heard, and the node does now what it says. -/
lemma poll_accepted {o : Option Notification} (h : n.poll v a now = (seen, .ok o)) :
    n.IsHeard ∧ seen.activity = a ∧ seen.lastPoll = now ∧ seen.status = n.status := by
  have hheard : n.status ≠ .unregistered → n.status ≠ .banned → n.IsHeard := by
    cases hstatus : n.status <;> simp [IsHeard, hstatus]
  rw [poll] at h
  split at h
  · cases h
  · cases h
  · rename_i hunregistered hbanned
    dsimp only at h
    split at h
    · rename_i heq
      cases h
      exact ⟨hheard hunregistered hbanned, heq, rfl, rfl⟩
    · split at h
      · cases h
        exact ⟨hheard hunregistered hbanned, rfl, rfl, rfl⟩
      · cases h

end Node

namespace Live

/-- The call was refused because the activity cycle has no such step. -/
def Outcome.isIllegal : Outcome → Bool
  | .refused (.illegalActivity ..) => true
  | _ => false

/-- A move that may show in the profile of a node. -/
def Move.isRevealing : Move → Bool
  | .poll .. | .ban .. | .resumeBan _ | .sweep => true
  | _ => false

namespace World

variable {w : World} {v : NodeId}

/-- What is known of the nodes. -/
def profile (w : World) (v : NodeId) : Option Node := (w.shared.net.nodes.get? v).map Node.profile

lemma profile_of_get? {node : Node} (h : w.shared.net.nodes.get? v = some node) :
    w.profile v = some node.profile := by simp [profile, h]

lemma profile_of_nodes {w' : World} (h : w'.shared.net.nodes = w.shared.net.nodes) :
    w'.profile = w.profile := by
  funext j
  simp only [profile, h]

/-- A node is changed: its profile shows it, and no other does. -/
lemma profile_mapNode (w : World) (u : NodeId) {f g : Node → Node}
    (h : ∀ node, w.shared.net.nodes.get? u = some node → (f node).profile = g node.profile) :
    (w.mapNode u f).profile = fun j => if j = u then (w.profile j).map g else w.profile j := by
  funext j
  simp only [profile, mapNode, mapShared, Shared.mapNode, Network.mapNode, Table.get?_modify]
  split
  · rename_i hj
    subst hj
    cases hnode : w.shared.net.nodes.get? j with
    | none => rfl
    | some node => simp [h node hnode]
  · rfl

lemma profile_mapNode_same (w : World) (u : NodeId) {f : Node → Node}
    (h : ∀ node, w.shared.net.nodes.get? u = some node → (f node).profile = node.profile) :
    (w.mapNode u f).profile = w.profile := by
  rw [profile_mapNode w u (g := id) h]
  funext j
  split <;> simp

@[simp] lemma profile_release (w : World) (u : NodeId) :
    (w.mapNode u Node.release).profile = w.profile := profile_mapNode_same w u fun _ _ => rfl

/-! ## The turn -/

lemma profile_closeQueues (w : World) : w.closeQueues.profile = w.profile :=
  read_closeQueues profile (fun w who => profile_release w who.node) (fun _ _ => rfl) (fun _ => rfl) w

lemma profile_settleTurn (w : World) (chance : Nat → Shuffle) :
    (w.settleTurn chance).profile = w.profile :=
  read_settleTurn profile (profile_of_nodes (assembleFrom_frame _ chance w).1)
    (fun w => profile_of_nodes (by rw [shared_acknowledge])) fun w _ => profile_closeQueues w

/-- The loop takes a node over and applies its notification. -/
lemma profile_applied (hr : w.roster.Sound) (n : Notification) : ({ w.takenOver n with
    shared := ((w.takenOver n).shared.apply w.settings w.wall w.clock w.loop.reserved n).1 } : World).profile
      = w.profile := by
  have htaken : (w.takenOver n).profile = w.profile :=
    profile_mapNode_same _ n.node (f := fun node => node.takeOwnership.2) fun _ _ => rfl
  rw [← htaken]
  funext j
  simp only [profile, (applied_takenOver hr n).nodes j]
  split
  · simp [Function.comp_def]
  · rfl

lemma profile_processUpdate (hr : w.roster.Sound) (n : Notification) :
    (w.processUpdate n).profile = w.profile := by
  have hreleased := (profile_release _ n.node).trans (profile_applied hr n)
  rw [processUpdate]
  dsimp only
  split <;> exact hreleased

lemma profile_processEvent (w : World) (e : Event) : (w.processEvent e).profile = w.profile := by
  refine profile_of_nodes ?_
  cases e with
  | timedOut id p =>
      dsimp only [processEvent]
      obtain ⟨s, f, heq, rfl | ⟨cause, rfl⟩⟩ := processTimeout_cases w id p <;> rw [heq]
      · rfl
      · exact Shared.kill_nodes ..
  | started id | startFailed p fault =>
      dsimp only [processEvent, unreserve]
      split <;> rfl
  | finished id => rfl

lemma profile_iterate (hr : w.roster.Sound) (source : Source) (chance : Nat → Shuffle) :
    (w.iterate source chance).profile = w.profile := by
  rcases w.iterate_cases source chance with heq | ⟨m, w', htaken, heq⟩ <;> rw [heq]
  rw [profile_settleTurn]
  cases htaken with
  | @update n ch => exact profile_processUpdate (w := { w with updates := ch }) hr n
  | @event e ch => exact profile_processEvent { w with events := ch } e
  | @request r => cases r <;> rfl

lemma profile_attempt (hr : w.roster.Sound) : w.attempt.profile = w.profile := by
  rcases attempt_cases hr with heq | ⟨p, -, ⟨v, -, heq⟩ | ⟨s, -, hstarted, heq⟩⟩ <;> rw [heq]
  · funext j
    simp only [profile, shared_report, Shared.notify]
  · funext j
    simp only [profile, shared_report, hstarted.nodes j]
    split
    · rw [Option.map_map]
      rfl
    · rfl

/-- **Few moves reveal anything**: polls, bans and sweeps. -/
theorem profile_of_step (hr : w.roster.Sound) {m : Move} (h : m.isRevealing = false) :
    (w.step m).profile = w.profile := by
  cases hprivate : m.isPrivate with
  | true => exact profile_of_nodes (by rw [shared_of_isPrivate hprivate])
  | false =>
      cases m with
      | iterate source chance => exact profile_iterate hr source chance
      | attempt => exact profile_attempt hr
      | leave x =>
          dsimp only [step, leave]
          split
          · split <;> rfl
          · rfl
      | expire x =>
          dsimp only [step, expire]
          split <;> rfl
      | drop =>
          dsimp only [step, drop]
          split
          · exact profile_closeQueues w
          · exact profile_closeQueues w
          · rfl
      | poll call u a | ban call u | resumeBan call | sweep => cases h
      | _ => cases hprivate

/-! ## Bans and sweeps -/

lemma profile_enqueue (w : World) (who : Notifier) (n : Notification) (sent : Outcome) :
    (w.enqueue who n sent).profile = w.profile := by
  rw [enqueue]
  split
  · rfl
  · rfl
  · exact profile_release { w with updates := _ } who.node

/-- **A ban** changes the standing of its node. -/
lemma profile_banFree (w : World) (call : CallId) {u : NodeId} {node : Node}
    (hnode : w.shared.net.nodes.get? u = some node) : (w.banFree call u node).profile
      = fun j => if j = u then (w.profile j).map (fun n => (n.ban u w.wall).1) else w.profile j := by
  rw [banFree, profile_enqueue]
  refine profile_mapNode w u fun old hold => ?_
  rw [← Option.some.inj (hnode.symm.trans hold)]
  rfl

/-- **The sweep** makes the nodes that it moves inactive, unless they are not even active. -/
lemma profile_sweepNow (w : World) : w.sweepNow.profile = fun j =>
    if j ∈ w.shared.pool.stale w.shared.net.nodes w.wall w.settings.offlineTimeoutSecs.toNat
    then (w.profile j).map Pool.sweptNode else w.profile j := by
  funext j
  simp only [profile, sweepNow, mapShared, Pool.get?_sweep]
  split
  · cases w.shared.net.nodes.get? j <;> rfl
  · rfl

/-! ## Polls -/

/-- What becomes of a poll of the node `v` that reports `a`. -/
inductive Polled (w : World) (call : CallId) (v : NodeId) (a : Activity) (w' : World) : Prop
  /-- The poll is turned away. -/
  | unheard {o : Outcome} (hanswers : w'.answers = w.answers ++ [(call, o)])
      (hlegal : o.isIllegal = false) (hpool : w'.shared.pool = w.shared.pool)
      (hprofile : w'.profile = w.profile)
  /-- The node is heard, and its report is refused. -/
  | refused {node : Node} (hnode : w.profile v = some node) (hheard : node.IsHeard)
      (hanswers : w'.answers = w.answers ++ [(call, .refused (.illegalActivity v node.activity a))])
      (hillegal : node.activity ≠ a ∧ node.activity.mayBecome a = false)
      (hpool : w'.shared.pool = w.shared.pool)
      (hprofile : w'.profile = fun j => if j = v then some (node.hear w.wall) else w.profile j)
  /-- The node is heard, and if the sweep has moved it offline it comes back. -/
  | accepted {node after : Node} (hnode : w.profile v = some node) (hheard : node.IsHeard)
      (hlegal : ∀ o, w'.answers = w.answers ++ [(call, o)] → o.isIllegal = false)
      (hpool : w'.shared.pool = if node.status = .inactive ∧ v ∈ w.shared.pool.offline
        then w.shared.pool.add v else w.shared.pool)
      (hprofile : w'.profile = fun j => if j = v then some after else w.profile j)
      (hactivity : after.activity = a) (hpoll : after.lastPoll = w.wall)
      (hstatus : after.status = .active)

lemma profile_bringOnline (w : World) (u : NodeId) : (w.bringOnline u).profile
    = fun j => if j = u then (w.profile j).map Pool.restoredNode else w.profile j := by
  funext j
  simp only [profile, get?_bringOnline]
  split
  · rw [Option.map_map, Option.map_map]
    rfl
  · rfl

/-- A node comes back from offline if it is inactive. -/
lemma pool_bringOnline {u : NodeId} {node : Node} (hnode : w.profile u = some node) :
    (w.bringOnline u).shared.pool = if node.status = .inactive ∧ u ∈ w.shared.pool.offline
      then w.shared.pool.add u else w.shared.pool := by
  obtain ⟨old, hold, rfl⟩ := Option.map_eq_some_iff.1 hnode
  have hstatus : old.profile.status = old.status := rfl
  rw [bringOnline, hold, hstatus]
  dsimp only
  by_cases hinactive : old.status = .inactive
  · rw [if_neg (not_not.2 hinactive), Pool.restore]
    by_cases hoffline : u ∈ w.shared.pool.offline
    · simp only [hoffline, if_true, hinactive, and_self]
      rfl
    · simp only [hoffline, if_false, and_false]
      rfl
  · simp [hinactive]

lemma answers_bringOnline (w : World) (u : NodeId) : (w.bringOnline u).answers = w.answers := by
  rw [bringOnline_eq]
  rfl

/-- A notification that is sent is queued, or waits, or is turned away. -/
lemma answers_enqueue (w : World) (who : Notifier) (n : Notification) (sent : Outcome) :
    (w.enqueue who n sent).answers = w.answers ∨
      ∃ o, (w.enqueue who n sent).answers = w.answers ++ [(who.call, o)] ∧
        (o = sent ∨ o = .refused .channelClosed) := by
  rw [enqueue]
  split
  · exact Or.inr ⟨sent, rfl, Or.inl rfl⟩
  · exact Or.inl rfl
  · exact Or.inr ⟨_, rfl, Or.inr rfl⟩

/-- **A poll** is turned away, or its node is heard; and then its report is refused or accepted. -/
theorem polled_poll (w : World) (call : CallId) (v : NodeId) (a : Activity) :
    w.Polled call v a (w.poll call v a) := by
  cases hnode : w.shared.net.nodes.get? v with
  | none =>
      simp only [poll, hnode]
      exact .unheard rfl rfl rfl rfl
  | some node =>
      rcases hacquire : node.tryAcquire with ⟨free, taken⟩
      have htaken : taken.profile = node.profile := by
        have hsnd : node.tryAcquire.2 = taken := congrArg Prod.snd hacquire
        rw [← hsnd, Node.profile_tryAcquire]
      have hknown : w.profile v = some taken.profile := by rw [profile_of_get? hnode, htaken]
      -- whatever was put in its place, of the other nodes the same is known as before
      have hset : ∀ seen : Node, (w.mapNode v fun _ => seen).profile
          = fun j => if j = v then some seen.profile else w.profile j := by
        intro seen
        rw [profile_mapNode w v (g := fun _ => seen.profile) fun _ _ => rfl]
        funext j
        split
        · rename_i hj
          simp [hj, hknown]
        · rfl
      cases free with
      | false =>
          simp only [poll, hnode, hacquire]
          exact .unheard rfl rfl rfl rfl
      | true =>
          rcases hpoll : taken.poll v a w.wall with ⟨seen, fault | o⟩
          · simp only [poll, hnode, hacquire, hpoll]
            rcases Node.poll_refused hpoll with ⟨rfl, hfault⟩ | ⟨hheard, hne, hmay, rfl, rfl⟩
            · refine .unheard rfl ?_ rfl ((hset seen.release).trans ?_)
              · rcases hfault with rfl | rfl <;> rfl
              · funext j
                split
                · rename_i hj
                  simp [hj, hknown]
                · rfl
            · exact .refused hknown hheard rfl ⟨hne, hmay⟩ rfl (hset _)
          · obtain ⟨hheard, hactivity, hlast, hstatus⟩ := Node.poll_accepted hpoll
            have hseen : (w.mapNode v fun _ => seen).profile v = some seen.profile := by
              simp [hset]
            have hpool := pool_bringOnline hseen
            have hprofile : ((w.mapNode v fun _ => seen).bringOnline v).profile
                = fun j => if j = v then some (Pool.restoredNode seen.profile) else w.profile j := by
              rw [profile_bringOnline, hset]
              funext j
              dsimp only
              split <;> rfl
            have haccepted : ∀ w' : World,
                (∀ o, w'.answers = w.answers ++ [(call, o)] → o.isIllegal = false) →
                w'.shared.pool = ((w.mapNode v fun _ => seen).bringOnline v).shared.pool →
                w'.profile = ((w.mapNode v fun _ => seen).bringOnline v).profile →
                w.Polled call v a w' := by
              intro w' hlegal hpool' hprofile'
              refine .accepted hknown hheard hlegal ?_ (hprofile'.trans hprofile) hactivity hlast ?_
              · rw [hpool', hpool, show seen.profile.status = taken.profile.status from hstatus]
                rfl
              · rcases hheard with hactive | hinactive
                · simp [Pool.restoredNode, Node.profile, hstatus, hactive]
                · simp [Pool.restoredNode, Node.profile, hstatus, hinactive]
            cases o with
            | none =>
                simp only [poll, hnode, hacquire, hpoll]
                refine haccepted _ (fun o ho => ?_) rfl (profile_release _ v)
                dsimp only [answer, mapNode, mapShared] at ho
                rw [answers_bringOnline] at ho
                obtain rfl : Outcome.unchanged = o := by simpa using ho
                rfl
            | some n =>
                simp only [poll, hnode, hacquire, hpoll]
                refine haccepted _ (fun o ho => ?_) (congrArg Roster.pool (roster_enqueue _ _ _ _))
                  (profile_enqueue _ _ _ _)
                rcases answers_enqueue ((w.mapNode v fun _ => seen).bringOnline v) (.poll call v) n
                  .enqueued with hsame | ⟨o', hanswered, ho'⟩
                · rw [hsame, answers_bringOnline] at ho
                  simp [mapNode, mapShared] at ho
                · rw [hanswered, answers_bringOnline] at ho
                  obtain ⟨-, rfl⟩ : call = call ∧ o' = o := by
                    simpa [mapNode, mapShared, Notifier.call] using ho
                  rcases ho' with rfl | rfl <;> rfl

/-! ## What a node has no part in -/

/-- A change that leaves alone what a node has said and when, and does not make it active. -/
structure Silent (f : Node → Node) : Prop where
  activity : ∀ n, (f n).activity = n.activity
  lastPoll : ∀ n, (f n).lastPoll = n.lastPoll
  status : ∀ n, (f n).status = .active → n.status = .active

lemma silent_id : Silent id := ⟨fun _ => rfl, fun _ => rfl, fun _ => id⟩

lemma silent_ban (u : NodeId) (now : Instant) : Silent fun n => (n.ban u now).1 :=
  ⟨fun _ => rfl, fun _ => rfl, fun _ h => by cases h⟩

lemma silent_sweptNode : Silent Pool.sweptNode := by
  refine ⟨fun _ => rfl, fun _ => rfl, fun n h => ?_⟩
  simp only [Pool.sweptNode] at h
  split at h
  · cases h
  · exact h

lemma silent_banFree (w : World) (call : CallId) {u : NodeId} {node : Node}
    (hnode : w.shared.net.nodes.get? u = some node) :
    ∃ f, Silent f ∧ (w.banFree call u node).profile v = (w.profile v).map f := by
  rw [profile_banFree w call hnode]
  by_cases hv : v = u
  · exact ⟨_, silent_ban u w.wall, if_pos hv⟩
  · exact ⟨id, silent_id, by simp [hv]⟩

/-- **A node speaks in its own polls only**, and in no other move it becomes active. -/
theorem silent_of_step (hr : w.roster.Sound) {m : Move} (h : ∀ call a, m ≠ .poll call v a) :
    ∃ f, Silent f ∧ (w.step m).profile v = (w.profile v).map f := by
  have hsame : ∀ w' : World, w'.profile v = w.profile v →
      ∃ f, Silent f ∧ w'.profile v = (w.profile v).map f :=
    fun w' heq => ⟨id, silent_id, by simp [heq]⟩
  cases hrevealing : m.isRevealing with
  | false => exact hsame _ (congrFun (profile_of_step hr hrevealing) v)
  | true =>
      cases m with
      | poll call u a =>
          have hne : v ≠ u := fun heq => h call a (heq ▸ rfl)
          refine hsame _ ?_
          dsimp only [step]
          cases polled_poll w call u a with
          | unheard hanswers hlegal hpool hprofile => rw [hprofile]
          | refused hnode hheard hanswers hillegal hpool hprofile => simp [hprofile, hne]
          | accepted hnode hheard hlegal hpool hprofile hactivity hpoll hstatus => simp [hprofile, hne]
      | ban call u =>
          dsimp only [step, ban]
          split
          · exact hsame _ rfl
          · split
            · exact silent_banFree w call ‹_›
            · exact hsame _ rfl
      | resumeBan call =>
          dsimp only [step, resumeBan]
          split
          · exact hsame _ rfl
          · split
            · exact hsame _ rfl
            · split
              · exact silent_banFree { w with parked := _ } call ‹_›
              · exact hsame _ rfl
      | sweep =>
          dsimp only [step, sweep]
          split
          · exact hsame _ rfl
          · split
            · exact hsame _ rfl
            · have hswept := congrFun (profile_sweepNow w) v
              split at hswept
              · exact ⟨Pool.sweptNode, silent_sweptNode, hswept⟩
              · exact hsame _ hswept
      | _ => cases hrevealing

end World

end Live

end MixRounds
