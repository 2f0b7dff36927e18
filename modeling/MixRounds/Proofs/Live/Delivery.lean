import MixRounds.Proofs.Live.Frame
import MixRounds.Proofs.Live.Mail
import MixRounds.Proofs.Live.Reservation

/-!
# One step after the other

`World.mail` reads the picture of `Mail` off a scheduler.  Nodes change what they do in polls only, and
hands in polls, bans and turns of the loop only; so for most moves there is nothing to say.  The rest
comes down to two laws.  A move that applies a notification (`World.delivered?`) lets the loop hear of
one step that the activity cycle allows (**`World.delivers_of_delivered`**), and every other move lets
it hear of nothing (**`World.follows_of_not_delivered`**) — however the polls and bans of the nodes are
mixed with everything else.
-/

namespace MixRounds

namespace Node

/-- **What a poll does** to what the node does: nothing, or the step that it notifies. -/
lemma poll_cases (v : NodeId) (node : Node) (a : Activity) (now : Instant) :
    ((node.poll v a now).1.activity = node.activity ∧
      ∀ n, (node.poll v a now).2 ≠ .ok (some n)) ∨
    ∃ n, (node.poll v a now).2 = .ok (some n) ∧ n.node = v ∧ n.fromActivity = node.activity ∧
      n.toActivity = (node.poll v a now).1.activity ∧ n.IsLegal := by
  rw [poll]
  split
  · exact Or.inl ⟨rfl, by simp⟩
  · exact Or.inl ⟨rfl, by simp⟩
  · rename_i hbanned
    dsimp only
    split
    · exact Or.inl ⟨rfl, by simp⟩
    · split
      · refine Or.inr ⟨_, rfl, rfl, rfl, rfl, ?_⟩
        have hstatus : node.status ≠ .banned := hbanned
        simpa [Notification.IsLegal, Notification.ofActivity, hstatus]
      · exact Or.inl ⟨rfl, by simp⟩

lemma poll_handoff (v : NodeId) (node : Node) (a : Activity) (now : Instant) :
    (node.poll v a now).1.handoff = node.handoff := by
  rw [poll]
  split <;> try rfl
  dsimp only
  split <;> try rfl
  split <;> rfl

end Node

namespace Live

/-- A move that may send or apply a notification, or lose one. -/
def Move.isPostal : Move → Bool
  | .poll .. | .ban .. | .resumeBan _ | .iterate .. | .drop => true
  | _ => false

namespace World

/-- The notifications on their way, and the nodes they are about. -/
def mail (w : World) : Mail where
  running := w.handsOut = true
  closed := w.updates.closed = true
  messages := w.updates.messages
  node v := (w.shared.net.nodes.get? v).map fun n => (n.activity, n.handoff)

/-- The notification that a move applies. -/
def delivered? (w : World) : Move → Option Notification
  | .iterate .updates _ => if w.isRunning then w.updates.receive?.map Prod.fst else none
  | _ => none

variable {w : World}

/-- A move that applies a notification is a turn that takes it from the queue. -/
lemma step_of_delivered {m : Move} {n : Notification} (h : w.delivered? m = some n) :
    ∃ ch chance, w.isRunning = true ∧ w.updates.receive? = some (n, ch) ∧
      w.step m = (({ w with updates := ch } : World).processUpdate n).settleTurn chance := by
  simp only [delivered?] at h
  split at h
  · rename_i chance
    split at h
    · rename_i hrunning
      obtain ⟨⟨n', ch⟩, hreceive, heq⟩ := Option.map_eq_some_iff.1 h
      cases heq
      refine ⟨ch, chance, hrunning, hreceive, ?_⟩
      simp [step, iterate, hrunning, take?, hreceive, process]
    · cases h
  · cases h

/-! ## What does not touch the mail -/

/-- Nodes may change as long as they do the same and are in the same hands. -/
lemma mail_shared (w : World) {s : Shared}
    (hnodes : ∀ j, (s.net.nodes.get? j).map (fun n => (n.activity, n.handoff))
      = (w.shared.net.nodes.get? j).map fun n => (n.activity, n.handoff)) :
    ({ w with shared := s } : World).mail = w.mail := by
  simp only [mail, hnodes]
  rfl

lemma mail_mapNode (w : World) (v : NodeId) {f : Node → Node}
    (hf : ∀ node, (f node).activity = node.activity ∧ (f node).handoff = node.handoff) :
    (w.mapNode v f).mail = w.mail := by
  refine mail_shared w fun j => ?_
  simp only [Shared.mapNode, Network.mapNode, Table.get?_modify]
  split
  · simp [Function.comp_def, hf]
  · rfl

lemma mail_setNode (w : World) {v : NodeId} {old : Node} (hold : w.shared.net.nodes.get? v = some old)
    (node : Node) : (w.mapNode v fun _ => node).mail = { w.mail with
      node := fun j => if j = v then some (node.activity, node.handoff) else w.mail.node j } := by
  have hnode : (fun j => ((w.mapNode v fun _ => node).shared.net.nodes.get? j).map
      fun n => (n.activity, n.handoff))
      = fun j => if j = v then some (node.activity, node.handoff) else w.mail.node j := by
    funext j
    simp only [mapNode, mapShared, Shared.mapNode, Network.mapNode, Table.get?_modify]
    split
    · rename_i hj
      simp [hj, hold]
    · rfl
  rw [← hnode]
  rfl

lemma mail_setNode_same (w : World) {v : NodeId} {old : Node} (node : Node)
    (hold : w.shared.net.nodes.get? v = some old) (hactivity : node.activity = old.activity)
    (hhandoff : node.handoff = old.handoff) : (w.mapNode v fun _ => node).mail = w.mail := by
  have hnode : (fun j => if j = v then some (node.activity, node.handoff) else w.mail.node j)
      = w.mail.node := by
    funext j
    split
    · rename_i hj
      simp [hj, mail, hold, hactivity, hhandoff]
    · rfl
  rw [mail_setNode w hold, hnode]

lemma mail_release (w : World) (v : NodeId) : (w.mapNode v Node.release).mail = { w.mail with
    node := fun j => if j = v then (w.mail.node j).map fun p => (p.1, .released)
      else w.mail.node j } := by
  have hnode : (fun j => ((w.mapNode v Node.release).shared.net.nodes.get? j).map
      fun n => (n.activity, n.handoff))
      = fun j => if j = v then (w.mail.node j).map fun p => (p.1, .released) else w.mail.node j := by
    funext j
    simp only [mapNode, mapShared, Shared.mapNode, Network.mapNode, Table.get?_modify, mail]
    split
    · simp [Function.comp_def, Node.release]
    · rfl
  rw [← hnode]
  rfl

/-! ## The callers -/

lemma mail_bringOnline (w : World) (v : NodeId) : (w.bringOnline v).mail = w.mail := by
  rw [bringOnline]
  split
  · rfl
  · split
    · rfl
    · split
      · rename_i pool nodes hrestore
        rw [Pool.restore] at hrestore
        split at hrestore <;> cases hrestore
        exact mail_mapNode w v (f := Pool.restoredNode) fun _ => ⟨rfl, rfl⟩
      · exact mail_mapNode w v (f := fun n => { n with status := .active }) fun _ => ⟨rfl, rfl⟩

lemma updates_bringOnline (w : World) (v : NodeId) : (w.bringOnline v).updates = w.updates := by
  rw [bringOnline_eq]
  rfl

/-- What is sent to the loop is on its way, unless the loop is gone. -/
lemma mail_updates (w : World) {ch : Channel Notifier Notification}
    (hclosed : ch.closed = w.updates.closed) : ({ w with updates := ch } : World).mail
      = { w.mail with messages := ch.messages } := by
  simp only [mail, hclosed]
  rfl

/-- **A notification is queued**, unless the loop is gone; then the caller gives the node free. -/
lemma mail_enqueue (w : World) (who : Notifier) (n : Notification) (sent : Outcome) :
    (w.enqueue who n sent).mail = if w.updates.closed
      then (w.mapNode who.node Node.release).mail
      else { w.mail with messages := w.mail.messages ++ [n] } := by
  have hmessages := w.updates.messages_send who n
  have hclosed := w.updates.closed_send who n
  have hrefused := w.updates.send_fst_eq_refused_iff who n
  rw [enqueue]
  split <;> rename_i ch heq <;> rw [heq] at hmessages hclosed hrefused
  · have hopen : w.updates.closed = false := by simpa using hrefused
    rw [hopen] at hmessages
    rw [hopen]
    exact (mail_updates w hclosed).trans (by rw [hmessages]; rfl)
  · have hopen : w.updates.closed = false := by simpa using hrefused
    rw [hopen] at hmessages
    rw [hopen]
    exact (mail_updates w hclosed).trans (by rw [hmessages]; rfl)
  · have hgone : w.updates.closed = true := hrefused.1 rfl
    rw [hgone] at hmessages
    rw [hgone]
    exact (mail_updates (w.mapNode who.node Node.release) hclosed).trans (by rw [hmessages]; rfl)

/-- **A caller that has taken a free node sends**: the node shows its new state at once, and the loop has
heard nothing yet. -/
lemma enqueue_follows (h : w.mail.Sound) (node : Node) {old : Node} {n : Notification}
    {who : Notifier} (hold : w.shared.net.nodes.get? n.node = some old) (hfree : old.handoff = .released)
    (htaken : node.handoff = .locked) (hfrom : n.fromActivity = old.activity)
    (hto : n.toActivity = node.activity) (hlegal : n.IsLegal) (hwho : who.node = n.node)
    {seen : World} (hseen : seen.mail = (w.mapNode n.node fun _ => node).mail)
    (hclosed : seen.updates.closed = w.updates.closed) (sent : Outcome) :
    w.mail.Follows (seen.enqueue who n sent).mail := by
  have hnode : w.mail.node n.node = some (n.fromActivity, .released) := by
    simp [mail, hold, hfrom, hfree]
  rw [mail_setNode w hold, ← hto, htaken] at hseen
  rw [mail_enqueue, hclosed, mail_release, hseen]
  split
  · have hlose := h.lose (b := n.toActivity) hnode ‹_›
    convert hlose using 2
    funext j
    split <;> simp_all
  · exact h.post hlegal hnode ‹_›

lemma poll_follows (h : w.mail.Sound) (call : CallId) (v : NodeId) (a : Activity) :
    w.mail.Follows (w.poll call v a).mail := by
  rw [poll]
  split
  · exact h.follows
  · rename_i node hnode
    split
    · exact h.follows
    · rename_i taken hacquire
      have hfree : node.handoff = .released :=
        (node.handoff.tryAcquire_fst_iff).1 (congrArg Prod.fst hacquire)
      have htaken : taken = { node with handoff := .locked } := by
        have hsnd : node.tryAcquire.2 = taken := congrArg Prod.snd hacquire
        rw [← hsnd]
        simp [Node.tryAcquire, hfree, Handoff.tryAcquire]
      have hcases := taken.poll_cases v a w.wall
      have hhands := taken.poll_handoff v a w.wall
      -- a node that does the same as before and is given free at once shows no change
      have hsame : ∀ seen : Node, seen.activity = node.activity → ∀ w' : World,
          w'.mail = (w.mapNode v fun _ => seen).mail → (w'.mapNode v Node.release).mail = w.mail := by
        intro seen hseen w' hw'
        rw [mail_release, hw', mail_setNode w hnode]
        have hshown : (fun j => if j = v then
              (if j = v then some (seen.activity, seen.handoff) else w.mail.node j).map
                fun p => (p.1, Handoff.released)
            else if j = v then some (seen.activity, seen.handoff) else w.mail.node j)
              = w.mail.node := by
          funext j
          by_cases hj : j = v
          · simp [hj, mail, hnode, hseen, hfree]
          · simp [hj]
        exact congrArg (fun f => { w.mail with node := f }) hshown
      split
      · rename_i seen fault hpoll
        rw [hpoll] at hcases
        rcases hcases with ⟨hactivity, -⟩ | ⟨n, hn, -⟩
        · have hseen : seen.activity = node.activity := hactivity.trans (by rw [htaken])
          have hmail := mail_setNode_same w seen.release hnode hseen hfree.symm
          exact hmail.symm ▸ h.follows
        · cases hn
      · rename_i seen hpoll
        rw [hpoll] at hcases
        rcases hcases with ⟨hactivity, -⟩ | ⟨n, hn, -⟩
        · have hmail := hsame seen (by rw [hactivity, htaken]) _ (mail_bringOnline _ v)
          exact hmail.symm ▸ h.follows
        · cases hn
      · rename_i seen n hpoll
        rw [hpoll] at hcases hhands
        rcases hcases with ⟨-, hnone⟩ | ⟨m, hm, hv, hfrom, hto, hlegal⟩
        · exact absurd rfl (hnone n)
        · cases hm
          subst hv
          refine enqueue_follows h seen hnode hfree ?_ ?_ hto hlegal rfl
            (mail_bringOnline _ _) (by rw [updates_bringOnline]; rfl) _
          · rw [hhands, htaken]
          · rw [hfrom, htaken]

lemma banFree_follows (h : w.mail.Sound) (call : CallId) {v : NodeId} {node : Node}
    (hnode : w.shared.net.nodes.get? v = some node) (hfree : node.handoff = .released) :
    w.mail.Follows (w.banFree call v node).mail := by
  let banned := node.tryAcquire.2.ban v w.wall
  have htaken : banned.1.handoff = .locked := by
    simp [banned, Node.ban, Node.tryAcquire, hfree, Handoff.tryAcquire]
  exact enqueue_follows h banned.1 (n := banned.2) hnode hfree htaken
    rfl rfl (by simp [banned, Notification.IsLegal, Node.ban, Notification.ofStatus]) rfl rfl rfl
    .done

lemma ban_follows (h : w.mail.Sound) (call : CallId) (v : NodeId) :
    w.mail.Follows (w.ban call v).mail := by
  rw [ban]
  split
  · exact h.follows
  · split
    · exact banFree_follows h call ‹_› ‹_›
    · exact h.follows

lemma resumeBan_follows (h : w.mail.Sound) (call : CallId) :
    w.mail.Follows (w.resumeBan call).mail := by
  rw [resumeBan]
  split
  · exact h.follows
  · split
    · exact h.follows
    · split
      · exact banFree_follows (w := { w with parked := w.parked.filter fun p => p.1 ≠ call }) h call
          ‹_› ‹_›
      · exact h.follows

lemma mail_admitUpdate (w : World) : w.admitUpdate.mail = w.mail := by
  rw [admitUpdate]
  split
  · rfl
  · rename_i who ch hadmit
    refine (mail_updates w (Channel.closed_admit? hadmit)).trans ?_
    rw [Channel.messages_admit? hadmit]
    rfl

/-! ## The turn -/

lemma mail_assembleFrom (fuel : Nat) (chance : Nat → Shuffle) (w : World) :
    (assembleFrom fuel chance w).1.mail = w.mail := by
  obtain ⟨hnodes, -, hupdates, hstage⟩ := assembleFrom_frame fuel chance w
  simp only [mail, handsOut, hnodes, hupdates, hstage]

lemma finish_follows (σ : Mail) (w : World) (result : Except Setback Unit) :
    σ.Follows (w.finish result).mail :=
  Mail.follows_of_ended rfl (by simp [mail, handsOut_finish])

lemma settleTurn_follows (h : w.mail.Sound) (chance : Nat → Shuffle) :
    w.mail.Follows (w.settleTurn chance).mail := by
  rcases w.settleTurn_cases chance with ⟨w', hw', heq⟩ | ⟨setback, heq⟩
  · have hmail : w'.mail = w.mail := by
      rcases hw' with rfl | ⟨rfl, -⟩
      · rfl
      · exact mail_assembleFrom _ _ _
    rcases heq with heq | heq <;> rw [heq]
    · exact hmail.symm ▸ h.follows
    · exact finish_follows _ _ _
  · rw [heq]
    exact finish_follows _ _ _

/-- A turn after which the loop goes on sends nothing and gives nobody free. -/
lemma mail_settleTurn {chance : Nat → Shuffle} (hgoes : (w.settleTurn chance).handsOut = true) :
    (w.settleTurn chance).mail = w.mail := by
  rcases settleTurn_of_handsOut hgoes with heq | heq <;> rw [heq]
  exact mail_assembleFrom _ chance w

lemma mail_processEvent (w : World) (e : Event) : (w.processEvent e).mail = w.mail := by
  cases e with
  | timedOut id phase =>
      dsimp only [processEvent]
      obtain ⟨s, f, heq, rfl | ⟨cause, rfl⟩⟩ := processTimeout_cases w id phase <;> rw [heq]
      · rfl
      · exact mail_shared w fun j => by rw [Shared.kill_nodes]
  | started id | startFailed p fault =>
      dsimp only [processEvent, unreserve]
      split <;> rfl
  | finished id => rfl

lemma mail_takenOver (w : World) (n : Notification) : (w.takenOver n).mail = { w.mail with
    node := fun j => if j = n.node then (w.mail.node j).map fun p => (p.1, p.2.takeOwnership.2)
      else w.mail.node j } := by
  have hnode : (fun j => ((w.takenOver n).shared.net.nodes.get? j).map
      fun node => (node.activity, node.handoff))
      = fun j => if j = n.node then (w.mail.node j).map fun p => (p.1, p.2.takeOwnership.2)
        else w.mail.node j := by
    funext j
    simp only [takenOver, mapNode, mapShared, Shared.mapNode, Network.mapNode, Table.get?_modify, mail,
      count]
    split
    · simp [Function.comp_def, Node.takeOwnership]
    · rfl
  rw [← hnode]
  rfl

/-- A node may lose its round when a notification is applied, but it does the same. -/
lemma mail_of_applied {k : Kind} {v : NodeId} {s' : Shared}
    (happlied : Shared.Applied w.settings w.wall w.loop.reserved v k w.shared s') :
    ({ w with shared := s' } : World).mail = w.mail := by
  refine mail_shared w fun j => ?_
  rw [happlied.nodes j]
  split
  · simp [Function.comp_def, Node.detach]
  · rfl

/-- What the loop does with a notification does not change what the node does: it is given free, and that
is all. -/
lemma mail_processUpdate (hr : w.roster.Sound) (n : Notification) :
    (w.processUpdate n).mail = { w.mail with
      node := fun j => if j = n.node then (w.mail.node j).map fun p => (p.1, .released)
        else w.mail.node j } := by
  let applied : World := { w.takenOver n with
    shared := ((w.takenOver n).shared.apply w.settings w.wall w.clock w.loop.reserved n).1 }
  have happlied : applied.mail = (w.takenOver n).mail :=
    mail_of_applied (w := w.takenOver n) (applied_takenOver hr n)
  have hreleased : (applied.mapNode n.node Node.release).mail = { w.mail with
      node := fun j => if j = n.node then (w.mail.node j).map fun p => (p.1, .released)
        else w.mail.node j } := by
    have hnode : (fun j => if j = n.node then
          ((w.takenOver n).mail.node j).map fun p => (p.1, Handoff.released)
        else (w.takenOver n).mail.node j)
          = fun j => if j = n.node then (w.mail.node j).map fun p => (p.1, .released)
            else w.mail.node j := by
      funext j
      rw [mail_takenOver]
      dsimp only
      split
      · simp [Function.comp_def]
      · rfl
    rw [mail_release, happlied, hnode, mail_takenOver]
  rw [← hreleased]
  rw [processUpdate]
  dsimp only
  split <;> rfl

/-- **A turn that applies a notification** lets the loop hear of one step. -/
lemma delivers_of_delivered (hr : w.roster.Sound) (h : w.mail.Sound) {m : Move} {n : Notification}
    (hn : w.delivered? m = some n) : w.mail.running ∧ w.mail.Delivers (w.step m).mail n := by
  obtain ⟨ch, chance, hrunning, hreceive, hstep⟩ := step_of_delivered hn
  have hmail := mail_processUpdate (w := { w with updates := ch }) hr n
  rw [mail_updates w (Channel.closed_receive? hreceive)] at hmail
  have hdeliver : w.mail.Delivers (({ w with updates := ch } : World).processUpdate n).mail n :=
    h.deliver (Channel.messages_receive? hreceive) (fun j => by rw [hmail]) (by rw [hmail])
      (by rw [hmail]; exact id) (by rw [hmail]; exact id)
  rw [hstep]
  exact ⟨handsOut_of_isRunning hrunning,
    hdeliver.trans_follows (settleTurn_follows hdeliver.sound chance)⟩

/-- **Any other turn** lets it hear of nothing. -/
lemma iterate_follows (h : w.mail.Sound) {source : Source} {chance : Nat → Shuffle}
    (hnone : w.delivered? (.iterate source chance) = none) :
    w.mail.Follows (w.iterate source chance).mail := by
  rw [iterate]
  split
  · rename_i hrunning
    cases source with
    | updates =>
        have hreceive : w.updates.receive? = none := by
          simpa [delivered?, hrunning] using hnone
        simpa [take?, hreceive] using h.follows
    | events =>
        cases hreceive : w.events.receive? with
        | none => simpa [take?, hreceive] using h.follows
        | some m =>
            have hmail := mail_processEvent ({ w with events := m.2 }) m.1
            have hturn := settleTurn_follows (hmail ▸ h) chance
            rw [hmail] at hturn
            simp only [take?, hreceive, Option.map_some]
            exact hturn
    | requests =>
        cases hreceive : w.requests.receive? with
        | none => simpa [take?, hreceive] using h.follows
        | some m =>
            have hmail : (({ w with requests := m.2 } : World).processRequest m.1).mail = w.mail := by
              cases m.1 <;> rfl
            have hturn := settleTurn_follows (hmail ▸ h) chance
            rw [hmail] at hturn
            simp only [take?, hreceive, Option.map_some]
            exact hturn
  · exact h.follows

/-! ## The workers -/

lemma mail_report (w : World) (e : Event) : (w.report e).mail = w.mail := by
  rw [report]
  split <;> rfl

lemma mail_attempt (hr : w.roster.Sound) : w.attempt.mail = w.mail := by
  rw [attempt]
  split
  · rename_i p due hstarter
    split
    · rfl
    · have hp : p ∈ w.pending := by simp [pending, hstarter]
      rcases start_pending hr hp w.wall w.clock with ⟨v, -, hstart⟩ | ⟨s', hstart, hstarted⟩
      · simp only [hstart]
        rw [mail_report]
        rfl
      · simp only [hstart]
        rw [mail_report]
        refine mail_shared w fun j => ?_
        rw [hstarted.nodes j]
        split
        · simp [Function.comp_def]
        · rfl
  · rfl

lemma mail_sweepNow (w : World) : w.sweepNow.mail = w.mail := by
  refine mail_shared w (s := w.sweepNow.shared) fun j => ?_
  simp only [sweepNow, mapShared, Pool.get?_sweep]
  split
  · simp [Function.comp_def, Pool.sweptNode]
  · rfl

lemma drop_follows (h : w.mail.Sound) : w.mail.Follows w.drop.mail := by
  rw [drop]
  split
  · exact Mail.follows_of_ended rfl (by simp [mail, handsOut])
  · exact Mail.follows_of_ended rfl (by simp [mail, handsOut])
  · refine ⟨⟨h.nodup, h.taken, h.legal, fun hrunning => ?_⟩, ?_⟩
    · simp [mail, handsOut] at hrunning
    · rintro v x ⟨hrunning, -⟩
      simp [mail, handsOut] at hrunning

lemma mail_launch (w : World) : w.launch.mail = w.mail := by
  rw [launch]
  split
  · rename_i hstage
    simp [mail, handsOut, hstage]
  · rfl

lemma mail_conclude (w : World) : w.conclude.mail = w.mail := by
  rw [conclude]
  split
  · rename_i hstage _
    simp [mail, handsOut, hstage]
  · rfl

/-- No worker touches the mail. -/
lemma mail_of_isWork (hr : w.roster.Sound) {m : Move} (h : m.isWork = true) :
    (w.step m).mail = w.mail := by
  cases m with
  | attempt => exact mail_attempt hr
  | sweep =>
      dsimp only [step, sweep]
      split
      · rfl
      · split
        · rfl
        · exact mail_sweepNow w
  | admitEvent =>
      dsimp only [step, admitEvent]
      split <;> rfl
  | takeProto =>
      dsimp only [step, takeProto]
      split
      · rfl
      · split <;> rfl
      · rfl
  | leave watcher =>
      dsimp only [step, leave]
      split
      · split <;> rfl
      · rfl
  | expire watcher =>
      dsimp only [step, expire]
      split <;> rfl
  | pass ms =>
      dsimp only [step, pass]
      split <;> rfl
  | wallPass nanos => rfl
  | _ => cases h

lemma mail_request (w : World) (r : Request) : (w.request r).mail = w.mail := by
  rw [request]
  split <;> rfl

lemma mail_admitRequest (w : World) : w.admitRequest.mail = w.mail := by
  rw [admitRequest]
  split <;> rfl

/-- **Most moves leave the mail alone.** -/
lemma mail_of_step (hr : w.roster.Sound) {m : Move} (h : m.isPostal = false) :
    (w.step m).mail = w.mail := by
  cases hwork : m.isWork with
  | true => exact mail_of_isWork hr hwork
  | false =>
      cases m with
      | admitUpdate => exact mail_admitUpdate w
      | request r => exact mail_request w r
      | admitRequest => exact mail_admitRequest w
      | launch => exact mail_launch w
      | conclude => exact mail_conclude w
      | poll _ _ _ | ban _ _ | resumeBan _ | iterate _ _ | drop => cases h
      | _ => cases hwork

/-! ## Every move -/

/-- **Every other move** lets the loop hear of nothing. -/
theorem follows_of_not_delivered (hr : w.roster.Sound) (h : w.mail.Sound) {m : Move}
    (hnone : w.delivered? m = none) : w.mail.Follows (w.step m).mail := by
  cases hpostal : m.isPostal with
  | false => exact mail_of_step hr hpostal ▸ h.follows
  | true =>
      cases m with
      | poll call v a => exact poll_follows h call v a
      | ban call v => exact ban_follows h call v
      | resumeBan call => exact resumeBan_follows h call
      | drop => exact drop_follows h
      | iterate source chance => exact iterate_follows h hnone
      | _ => cases hpostal

lemma create_mail (settings : Settings) (latency : Latency) (isDisabled : NodeId → Bool)
    (net : Network) (wall : Instant) : (create settings latency isDisabled net wall).mail.Sound where
  nodup := List.nodup_nil
  taken n hn := by cases hn
  legal n hn := by cases hn
  is_open _ := by simp [mail, create, Channel.withCapacity]

end World

end Live

end MixRounds
