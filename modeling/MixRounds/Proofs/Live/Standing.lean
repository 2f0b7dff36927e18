import MixRounds.Proofs.Live.Waiting

/-!
# Who is banned, and what the loop is told of it

A node is banned at the front, and the loop hears of that later.  This file is about the time in between.

* Nodes are banned by bans of nodes that nobody has, and by nothing else, and no node ever loses that
  standing (**`World.isBanned_step`**): polls and sweeps change the standing of nodes that are active or
  inactive, and everything else changes it of none.
* A ban sends a notification that says so, with the standing that the node had before
  (`World.messages_of_banning?`).  No other notification says of a node that it is banned, and what was sent
  stays on its way until the loop applies it or ends (`World.messages_of_banning?_eq_none`).
-/

namespace MixRounds.Live.World

variable {w : World} {v : NodeId}

/-- The standing of a node. -/
def status (w : World) (v : NodeId) : Option Status := (w.shared.net.nodes.get? v).map Node.status

/-- The node is banned. -/
def IsBanned (w : World) (v : NodeId) : Prop := w.status v = some .banned

/-- The node that is banned in a move: nobody has it. -/
def banning? (w : World) : Move → Option NodeId
  | .ban _ v => if w.isFree v then some v else none
  | .resumeBan call =>
      ((w.parked.find? fun p => p.1 = call).map Prod.snd).filter fun v => w.isFree v
  | _ => none

lemma isBanned_congr {w' : World} (h : w'.status = w.status) : w'.IsBanned v ↔ w.IsBanned v := by
  simp only [IsBanned, h]

/-! ## What does not touch the standing of a node -/

lemma status_of_nodes {w' : World} (h : w'.shared.net.nodes = w.shared.net.nodes) :
    w'.status = w.status := by
  funext j
  simp only [status, h]

lemma status_mapNode (w : World) (u : NodeId) {f : Node → Node}
    (hf : ∀ node, w.shared.net.nodes.get? u = some node → (f node).status = node.status) :
    (w.mapNode u f).status = w.status := by
  funext j
  simp only [status, mapNode, mapShared, Shared.mapNode, Network.mapNode, Table.get?_modify]
  split
  · rename_i hj
    subst hj
    cases hnode : w.shared.net.nodes.get? j with
    | none => rfl
    | some node => simp [hf node hnode]
  · rfl

lemma status_closeQueues (w : World) : w.closeQueues.status = w.status :=
  read_closeQueues status (fun w who => status_mapNode w who.node fun _ _ => rfl) (fun _ _ => rfl)
    (fun _ => rfl) w

lemma status_settleTurn (w : World) (chance : Nat → Shuffle) :
    (w.settleTurn chance).status = w.status :=
  read_settleTurn status (status_of_nodes (assembleFrom_frame _ chance w).1)
    (fun w => status_of_nodes (by rw [shared_acknowledge])) fun w _ => status_closeQueues w

lemma status_processEvent (w : World) (e : Event) : (w.processEvent e).status = w.status := by
  refine status_of_nodes ?_
  cases e with
  | timedOut id p =>
      dsimp only [processEvent]
      obtain ⟨s, f, heq, rfl | ⟨cause, rfl⟩⟩ := processTimeout_cases w id p <;> rw [heq]
      · rfl
      · exact Shared.kill_nodes ..
  | started id | startFailed p fault =>
      dsimp only [processEvent, unreserve]
      split <;> rfl
  | finished id => rfl

lemma status_iterate (hr : w.roster.Sound) (source : Source) (chance : Nat → Shuffle) :
    (w.iterate source chance).status = w.status := by
  rw [iterate]
  split
  · split
    · rfl
    · rename_i m w' htake
      rw [status_settleTurn]
      cases source <;> simp only [take?, Option.map_eq_some_iff] at htake <;>
        obtain ⟨⟨message, ch⟩, -, heq⟩ := htake <;> cases heq
      · exact funext fun j => status_processUpdate (w := { w with updates := ch }) hr message j
      · exact status_processEvent { w with events := ch } message
      · cases message <;> rfl
  · rfl

lemma status_attempt (hr : w.roster.Sound) : w.attempt.status = w.status := by
  have hreported : ∀ (s : Shared) (e : Event),
      (({ w with shared := s } : World).report e).status = ({ w with shared := s } : World).status := by
    intro s e
    rw [report]
    split <;> rfl
  rw [attempt]
  split
  · rename_i p due hstarter
    have hp : p ∈ w.pending := by simp [pending, hstarter]
    split
    · rfl
    · rcases start_pending hr hp w.wall w.clock with ⟨u, -, hstart⟩ | ⟨s', hstart, hstarted⟩
      · simp only [hstart]
        exact hreported _ _
      · simp only [hstart]
        rw [hreported]
        funext j
        simp only [status, hstarted.nodes j]
        split
        · simp [Function.comp_def]
        · rfl
  · rfl

/-! ## Bans, polls and sweeps -/

/-- A node that comes back was inactive. -/
lemma isBanned_bringOnline (w : World) (u : NodeId) : (w.bringOnline u).IsBanned v ↔ w.IsBanned v := by
  simp only [IsBanned, status, get?_bringOnline]
  split
  · cases w.shared.net.nodes.get? v with
    | none => rfl
    | some node => cases hstatus : node.status <;> simp [Pool.restoredNode, hstatus]
  · rfl

/-- **A poll** bans nobody, and gives no banned node its standing back. -/
lemma isBanned_poll (w : World) (call : CallId) (u : NodeId) (a : Activity) :
    (w.poll call u a).IsBanned v ↔ w.IsBanned v := by
  have hreleased : ∀ w : World, ((w.mapNode u Node.release).IsBanned v ↔ w.IsBanned v) := fun w =>
    isBanned_congr (status_mapNode w u (f := Node.release) fun _ _ => rfl)
  rw [poll]
  split
  · rfl
  · rename_i node hnode
    split
    · rfl
    · rename_i taken hacquire
      have htaken : taken.status = node.status := by
        have hsnd : node.tryAcquire.2 = taken := congrArg Prod.snd hacquire
        rw [← hsnd]
        rfl
      -- whatever the report, its node has the standing that it had
      have hseen : ∀ {seen result}, taken.poll u a w.wall = (seen, result) → ∀ f : Node → Node,
          (f seen).status = seen.status → (w.mapNode u fun _ => f seen).status = w.status := by
        intro seen result hpoll f hf
        refine status_mapNode w u fun old hold => ?_
        have hstatus := taken.poll_status u a w.wall
        rw [hpoll] at hstatus
        rw [hf, hstatus, htaken, Option.some.inj (hnode.symm.trans hold)]
      split
      · rename_i seen fault hpoll
        exact isBanned_congr (hseen hpoll Node.release rfl)
      · rename_i seen hpoll
        have hsame := isBanned_congr (v := v) (hseen hpoll id rfl)
        exact (hreleased _).trans ((isBanned_bringOnline _ u).trans hsame)
      · rename_i seen n hpoll
        have hsame := isBanned_congr (v := v) (hseen hpoll id rfl)
        rw [IsBanned, status, status_enqueue]
        exact (isBanned_bringOnline _ u).trans hsame

lemma isBanned_banFree (w : World) (call : CallId) {u : NodeId} {node : Node}
    (hnode : w.shared.net.nodes.get? u = some node) :
    (w.banFree call u node).IsBanned v ↔ w.IsBanned v ∨ u = v := by
  rw [banFree, IsBanned, status, status_enqueue]
  simp only [mapNode, mapShared, Shared.mapNode, Network.mapNode, Table.get?_modify, IsBanned, status]
  by_cases hv : v = u
  · subst hv
    simp [hnode, Node.ban]
  · simp [hv, Ne.symm hv]

/-- A node that nobody has is registered. -/
lemma isFree_iff {u : NodeId} : w.isFree u = true ↔
    ∃ node, w.shared.net.nodes.get? u = some node ∧ node.handoff = .released := by
  rw [isFree, Option.any_eq_true]
  simp

lemma step_of_banning? {m : Move} (h : w.banning? m = some v) : ∃ call node parked,
    w.shared.net.nodes.get? v = some node ∧ node.handoff = .released ∧
      w.step m = ({ w with parked := parked } : World).banFree call v node := by
  cases m with
  | ban call u =>
      simp only [banning?] at h
      split at h
      · cases h
        obtain ⟨node, hnode, hfree⟩ := isFree_iff.1 ‹_›
        exact ⟨call, node, w.parked, hnode, hfree, by simp [step, ban, hnode, hfree]⟩
      · cases h
  | resumeBan call =>
      obtain ⟨hparked, hfree⟩ := Option.filter_eq_some_iff.1 h
      obtain ⟨⟨call', u⟩, hfind, rfl⟩ := Option.map_eq_some_iff.1 hparked
      obtain ⟨node, hnode, hfree⟩ := isFree_iff.1 hfree
      exact ⟨call, node, _, hnode, hfree, by simp [step, resumeBan, hfind, hnode, hfree]; rfl⟩
  | _ => cases h

lemma isBanned_sweepNow (w : World) : w.sweepNow.IsBanned v ↔ w.IsBanned v := by
  simp only [IsBanned, status, sweepNow, mapShared, Pool.get?_sweep]
  split
  · cases w.shared.net.nodes.get? v with
    | none => rfl
    | some node => cases hstatus : node.status <;> simp [Pool.sweptNode, hstatus]
  · rfl

/-- A ban of a node that somebody has leaves all nodes alone. -/
lemma nodes_of_banning?_eq_none {m : Move} (hnone : w.banning? m = none)
    (hban : (∃ call u, m = .ban call u) ∨ ∃ call, m = .resumeBan call) :
    (w.step m).shared = w.shared ∧ (w.step m).updates = w.updates := by
  have htaken : ∀ {u node}, w.isFree u = false → w.shared.net.nodes.get? u = some node →
      node.handoff ≠ .released := by
    intro u node hfree hnode hreleased
    rw [isFree_iff.2 ⟨node, hnode, hreleased⟩] at hfree
    cases hfree
  rcases hban with ⟨call, u, rfl⟩ | ⟨call, rfl⟩
  · have hfree : w.isFree u = false := by simpa [banning?] using hnone
    dsimp only [step, ban]
    split
    · exact ⟨rfl, rfl⟩
    · rename_i node hnode
      rw [if_neg (htaken hfree hnode)]
      exact ⟨rfl, rfl⟩
  · dsimp only [step, resumeBan]
    split
    · exact ⟨rfl, rfl⟩
    · rename_i call' u hfind
      have hfree : w.isFree u = false := by simpa [banning?, hfind] using hnone
      split
      · exact ⟨rfl, rfl⟩
      · rename_i node hnode
        rw [if_neg (htaken hfree hnode)]
        exact ⟨rfl, rfl⟩

/-- **Only a ban of a node that nobody has bans**, and nobody is ever let off. -/
theorem isBanned_step (hr : w.roster.Sound) (m : Move) :
    (w.step m).IsBanned v ↔ w.IsBanned v ∨ w.banning? m = some v := by
  cases hbanning : w.banning? m with
  | some u =>
      obtain ⟨call, node, parked, hnode, -, hstep⟩ := step_of_banning? hbanning
      rw [hstep, Option.some.injEq]
      exact isBanned_banFree ({ w with parked := parked } : World) call hnode
  | none =>
      simp only [reduceCtorEq, or_false]
      have hshared : ∀ w' : World, w'.shared = w.shared → (w'.IsBanned v ↔ w.IsBanned v) :=
        fun w' h => isBanned_congr (status_of_nodes (by rw [h]))
      cases hprivate : m.isPrivate with
      | true => exact hshared _ (shared_of_isPrivate hprivate)
      | false =>
          cases m with
          | poll call u a => exact isBanned_poll w call u a
          | ban call u => exact hshared _ (nodes_of_banning?_eq_none hbanning (Or.inl ⟨_, _, rfl⟩)).1
          | resumeBan call => exact hshared _ (nodes_of_banning?_eq_none hbanning (Or.inr ⟨_, rfl⟩)).1
          | iterate source chance => exact isBanned_congr (status_iterate hr source chance)
          | attempt => exact isBanned_congr (status_attempt hr)
          | leave x =>
              dsimp only [step, leave]
              split
              · split <;> rfl
              · rfl
          | expire x =>
              dsimp only [step, expire]
              split <;> rfl
          | drop =>
              dsimp only [step, drop]
              split
              · exact isBanned_congr (status_closeQueues w)
              · exact isBanned_congr (status_closeQueues w)
              · rfl
          | sweep =>
              dsimp only [step, sweep]
              split
              · rfl
              · split
                · rfl
                · exact isBanned_sweepNow w
          | _ => cases hprivate

/-! ## What the loop is told -/

/-- A report comes from a node that is not banned. -/
lemma toStatus_of_poll {u : NodeId} {node : Node} {a : Activity} {now : Instant} {n : Notification}
    (h : (node.poll u a now).2 = .ok (some n)) : n.toStatus ≠ .banned := by
  rw [Node.poll] at h
  split at h
  · cases h
  · cases h
  · rename_i hbanned
    dsimp only at h
    split at h
    · cases h
    · split at h
      · cases h
        exact hbanned
      · cases h

lemma messages_enqueue (w : World) (who : Notifier) (n : Notification) (sent : Outcome) :
    (w.enqueue who n sent).updates.messages
      = w.updates.messages ++ if w.updates.closed then [] else [n] := by
  rw [show (w.enqueue who n sent).updates.messages = _ from
    congrArg Mail.messages (mail_enqueue w who n sent)]
  split
  · exact (List.append_nil _).symm
  · rfl

/-- A poll says of nobody that it is banned. -/
lemma messages_poll (w : World) (call : CallId) (u : NodeId) (a : Activity) : ∃ new,
    (w.poll call u a).updates.messages = w.updates.messages ++ new ∧
      ∀ n ∈ new, n.toStatus ≠ .banned := by
  have hnothing : ∃ new, w.updates.messages = w.updates.messages ++ new ∧
      ∀ n ∈ new, n.toStatus ≠ .banned := ⟨[], by simp, by simp⟩
  rw [poll]
  split
  · exact hnothing
  · split
    · exact hnothing
    · rename_i taken hacquire
      split
      · exact hnothing
      · rename_i seen hpoll
        have hsame : ((((w.mapNode u fun _ => seen).bringOnline u).mapNode u Node.release).answer call
            .unchanged).updates = w.updates := updates_bringOnline (w.mapNode u fun _ => seen) u
        exact hsame ▸ hnothing
      · rename_i seen n hpoll
        have hsame : ((w.mapNode u fun _ => seen).bringOnline u).updates = w.updates :=
          updates_bringOnline _ u
        have hreport : n.toStatus ≠ .banned := toStatus_of_poll (congrArg Prod.snd hpoll)
        refine ⟨_, by rw [messages_enqueue, hsame], fun n' hn' => ?_⟩
        split at hn'
        · cases hn'
        · rwa [List.mem_singleton.1 hn']

/-- A turn after which the loop goes on takes at most the notification that it applies. -/
lemma messages_iterate {source : Source} {chance : Nat → Shuffle}
    (hgoes : (w.iterate source chance).handsOut = true) :
    (w.delivered? (.iterate source chance)).toList ++ (w.iterate source chance).updates.messages
      = w.updates.messages := by
  rw [iterate] at hgoes ⊢
  cases hrunning : w.isRunning with
  | false =>
      rw [if_neg (by simp)]
      cases source <;> simp [delivered?, hrunning]
  | true =>
      rw [hrunning, if_pos rfl] at hgoes
      rw [if_pos rfl]
      split at hgoes
      · rename_i htake
        cases source with
        | updates =>
            have hreceive : w.updates.receive? = none := by simpa [take?] using htake
            simp [delivered?, hreceive]
        | events | requests => simp [delivered?]
      · rename_i message w' htake
        have hmessages : ((w'.process message).settleTurn chance).updates.messages
            = w'.updates.messages := by
          refine (congrArg Mail.messages (mail_settleTurn hgoes)).trans ?_
          dsimp only [mail]
          rw [process_eq]
        simp only [hmessages]
        cases source <;> simp only [take?, Option.map_eq_some_iff] at htake <;>
          obtain ⟨⟨received, ch⟩, hreceive, heq⟩ := htake <;> cases heq
        · simp [delivered?, hrunning, hreceive, Channel.messages_receive? hreceive]
        · simp [delivered?]
        · simp [delivered?]

/-- **A ban is told** to a loop that can be told, with the standing that the node had before. -/
theorem messages_of_banning? {m : Move} (h : w.banning? m = some v) : ∃ n,
    n.node = v ∧ n.toStatus = .banned ∧ w.status v = some n.fromStatus ∧
      (w.step m).updates.messages = w.updates.messages ++ if w.updates.closed then [] else [n] := by
  obtain ⟨call, node, parked, hnode, -, hstep⟩ := step_of_banning? h
  refine ⟨(node.tryAcquire.2.ban v w.wall).2, rfl, rfl, ?_, ?_⟩
  · rw [status, hnode]
    rfl
  · rw [hstep, banFree, messages_enqueue]
    rfl

/-- **Every other move** after which the loop goes on says of nobody that it is banned, and takes at most the
notification that it applies. -/
theorem messages_of_banning?_eq_none {m : Move} (hnone : w.banning? m = none)
    (hgoes : (w.step m).handsOut = true) : ∃ new,
    (w.delivered? m).toList ++ (w.step m).updates.messages = w.updates.messages ++ new ∧
      ∀ n ∈ new, n.toStatus ≠ .banned := by
  have hsame : ∀ w' : World, w'.updates.messages = w.updates.messages → w.delivered? m = none →
      ∃ new, (w.delivered? m).toList ++ w'.updates.messages = w.updates.messages ++ new ∧
        ∀ n ∈ new, n.toStatus ≠ .banned :=
    fun w' hmessages hdelivered => ⟨[], by simp [hmessages, hdelivered], by simp⟩
  rcases m.call_or_work with hcall | hwork | rfl | rfl | rfl | ⟨source, chance, rfl⟩
  · cases m with
    | poll call u a => exact messages_poll w call u a
    | ban call u =>
        exact hsame _ (by rw [(nodes_of_banning?_eq_none hnone (Or.inl ⟨_, _, rfl⟩)).2]) rfl
    | resumeBan call =>
        exact hsame _ (by rw [(nodes_of_banning?_eq_none hnone (Or.inr ⟨_, rfl⟩)).2]) rfl
    | admitUpdate => exact hsame _ (congrArg Mail.messages (mail_admitUpdate w)) rfl
    | request r => exact hsame _ (congrArg Mail.messages (mail_request w r)) rfl
    | admitRequest => exact hsame _ (congrArg Mail.messages (mail_admitRequest w)) rfl
    | _ => cases hcall
  · refine hsame _ (congrArg (fun e => e.updates.messages) (exterior_of_isWork (w := w) hwork)) ?_
    cases m <;> first | rfl | cases hwork
  · exact hsame _ (congrArg Mail.messages (mail_launch w)) rfl
  · exact hsame _ (congrArg Mail.messages (mail_conclude w)) rfl
  · cases hgoes
  · exact ⟨[], by rw [List.append_nil]; exact messages_iterate hgoes, by simp⟩

end MixRounds.Live.World
