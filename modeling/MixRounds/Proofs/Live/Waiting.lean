import MixRounds.Proofs.Live.History
import MixRounds.Proofs.Live.Provision

/-!
# No report of waiting is lost

A report that a node waits puts it into the pool, or leaves it to the team that it is promised to.  From
then on the node is provided for (`Roster.Provides`), and what could change that is about the node itself:
another report of it, or a ban.  Neither is on its way when the report is applied, and none is sent as long
as the node goes on waiting (**`World.step_unsent`**).

* **`World.provided_of_waiting`** — after a report of waiting the node holds nothing, and as long as it
  does nothing else, is not banned and the loop runs, it is in the pool, or in a team in flight, or holds a
  round that was started after the report.
* `World.not_provided_of_failure` — a report of a node whose round has failed is no such report.  It is
  ignored, whatever it says, and the node keeps the failed round.

One more kind of report is left out: one that is applied after a team of the node was started and before
the loop has heard of the start.
-/

namespace MixRounds

/-- A report that is notified is a change of activity. -/
lemma Node.poll_activity_ne {v : NodeId} {node : Node} {a : Activity} {now : Instant} {n : Notification}
    (h : (node.poll v a now).2 = .ok (some n)) : (node.poll v a now).1.activity ≠ node.activity := by
  rw [poll] at h ⊢
  split at h
  · cases h
  · cases h
  · dsimp only at h ⊢
    split at h
    · cases h
    · rename_i hne
      rw [if_neg hne]
      split at h
      · rename_i hmay
        rw [if_pos hmay]
        exact fun heq => hne heq.symm
      · cases h

namespace Live.World

variable {w : World} {v : NodeId} {old : RoundId → Prop}

/-! ## Nothing new is sent of the node -/

/-- No notification of the node is on its way. -/
def Unsent (w : World) (v : NodeId) : Prop := ∀ n ∈ w.updates.messages, n.node ≠ v

lemma activity_of_waits (h : w.Waits v) : ∃ hands, w.mail.node v = some (.waiting, hands) := by
  obtain ⟨node, hnode, hactivity, -⟩ := h
  exact ⟨node.handoff, by simp [mail, hnode, hactivity]⟩

/-- Only its own notifications are about a node. -/
lemma unsent_enqueue (h : w.Unsent v) {n : Notification} (hne : n.node ≠ v) (who : Notifier)
    (sent : Outcome) : (w.enqueue who n sent).Unsent v := by
  have hmessages := congrArg Mail.messages (mail_enqueue w who n sent)
  intro n' hn'
  rw [show (w.enqueue who n sent).updates.messages = _ from hmessages] at hn'
  split at hn'
  · exact h n' hn'
  · rcases List.mem_append.1 hn' with hn' | hn'
    · exact h n' hn'
    · rwa [List.mem_singleton.1 hn']

/-- A poll that leaves its node waiting sends nothing. -/
lemma unsent_poll (h : w.Unsent v) (hbefore : w.Waits v) {call : CallId} {u : NodeId} {a : Activity}
    (hafter : (w.poll call u a).Waits v) : (w.poll call u a).Unsent v := by
  cases hnode : w.shared.net.nodes.get? u with
  | none =>
      simp only [poll, hnode]
      exact h
  | some node =>
      rcases hacquire : node.tryAcquire with ⟨free, taken⟩
      have htaken : taken.activity = node.activity := by
        have hsnd : node.tryAcquire.2 = taken := congrArg Prod.snd hacquire
        rw [← hsnd]
        rfl
      cases free with
      | false =>
          simp only [poll, hnode, hacquire]
          exact h
      | true =>
          rcases hpoll : taken.poll u a w.wall with ⟨seen, fault | _ | n⟩ <;>
            simp only [poll, hnode, hacquire, hpoll] at hafter ⊢
          · exact h
          · exact fun n hn => h n (by simpa [mapNode, mapShared, answer, updates_bringOnline] using hn)
          · have hseen : ((w.mapNode u fun _ => seen).bringOnline u).Unsent v :=
              fun n hn => h n (by simpa [mapNode, mapShared, updates_bringOnline] using hn)
            have hchange : seen.activity ≠ node.activity := by
              have hne := Node.poll_activity_ne (congrArg Prod.snd hpoll)
              rwa [hpoll, htaken] at hne
            have hnamed : n.node = u := by
              have hcases := taken.poll_cases u a w.wall
              rw [hpoll] at hcases
              rcases hcases with ⟨-, hnone⟩ | ⟨n', hn', hu, -⟩
              · exact absurd rfl (hnone n)
              · cases hn'
                exact hu
            refine unsent_enqueue hseen ?_ _ _
            rw [hnamed]
            rintro rfl
            -- the node itself was polled, and does something else now
            obtain ⟨hands, hwas⟩ := activity_of_waits hbefore
            obtain ⟨hands', hdoing⟩ := activity_of_waits hafter
            rw [mail_enqueue, mail_release, mail_bringOnline, mail_setNode w hnode] at hdoing
            have hstood : node.activity = .waiting := by
              simp only [mail, hnode, Option.map_some, Option.some.injEq, Prod.mk.injEq] at hwas
              exact hwas.1
            refine hchange (Eq.trans ?_ hstood.symm)
            split at hdoing
            · simp only [Notifier.node, if_true, Option.map_some, Option.some.injEq,
                Prod.mk.injEq] at hdoing
              exact hdoing.1
            · simp only [if_true, Option.some.injEq, Prod.mk.injEq] at hdoing
              exact hdoing.1

lemma status_enqueue (w : World) (who : Notifier) (n : Notification) (sent : Outcome) (j : NodeId) :
    ((w.enqueue who n sent).shared.net.nodes.get? j).map Node.status
      = (w.shared.net.nodes.get? j).map Node.status := by
  rw [enqueue]
  split
  · rfl
  · rfl
  · simp only [turnAway, answer, mapNode, mapShared, Shared.mapNode, Network.mapNode,
      Table.get?_modify]
    split
    · simp [Function.comp_def, Node.release]
    · rfl

/-- A node that was banned waits no more. -/
lemma unsent_banFree (h : w.Unsent v) {call : CallId} {u : NodeId} {node : Node}
    (hnode : w.shared.net.nodes.get? u = some node) (hafter : (w.banFree call u node).Waits v) :
    (w.banFree call u node).Unsent v := by
  let banned := node.tryAcquire.2.ban u w.wall
  refine unsent_enqueue (w := w.mapNode u fun _ => banned.1) h (n := banned.2) ?_ _ _
  change u ≠ v
  rintro rfl
  obtain ⟨after, hget, -, hstatus⟩ := hafter
  have hbanned : (some after).map Node.status
      = ((w.mapNode u fun _ => banned.1).shared.net.nodes.get? u).map Node.status := by
    rw [← hget]
    exact status_enqueue (w.mapNode u fun _ => banned.1) (.ban call u) banned.2 .done u
  simp only [mapNode, mapShared, Shared.mapNode, Network.mapNode, Table.get?_modify_self, hnode,
    Option.map_some, Option.some.injEq] at hbanned
  exact hstatus (hbanned.trans rfl)

lemma unsent_ban (h : w.Unsent v) {call : CallId} {u : NodeId} (hafter : (w.ban call u).Waits v) :
    (w.ban call u).Unsent v := by
  rw [ban] at hafter ⊢
  split at hafter
  · exact h
  · rename_i node hnode
    split at hafter
    · rename_i hfree
      rw [if_pos hfree]
      exact unsent_banFree h hnode hafter
    · rename_i hfree
      rw [if_neg hfree]
      exact h

lemma unsent_resumeBan (h : w.Unsent v) {call : CallId} (hafter : (w.resumeBan call).Waits v) :
    (w.resumeBan call).Unsent v := by
  rw [resumeBan] at hafter ⊢
  split at hafter
  · exact h
  · split at hafter
    · exact h
    · rename_i node hnode
      split at hafter
      · rename_i hfree
        rw [if_pos hfree]
        exact unsent_banFree (w := { w with parked := w.parked.filter fun p => p.1 ≠ call }) h hnode
          hafter
      · rename_i hfree
        rw [if_neg hfree]
        exact h

lemma unsent_settleTurn (h : w.Unsent v) (chance : Nat → Shuffle) :
    (w.settleTurn chance).Unsent v := by
  have hfinished : ∀ (w : World) (result : Except Setback Unit), (w.finish result).Unsent v :=
    fun w result n hn => by cases hn
  rcases w.settleTurn_cases chance with ⟨w', hw', heq⟩ | ⟨setback, heq⟩
  · have hsame : w'.updates = w.updates := by
      rcases hw' with rfl | ⟨rfl, -⟩
      · rfl
      · exact (assembleFrom_frame _ chance w).2.2.1
    rcases heq with heq | heq <;> rw [heq]
    · intro n hn
      exact h n (hsame ▸ hn)
    · exact hfinished _ _
  · rw [heq]
    exact hfinished _ _

lemma unsent_iterate (h : w.Unsent v) (source : Source) (chance : Nat → Shuffle) :
    (w.iterate source chance).Unsent v := by
  rw [iterate]
  split
  · split
    · exact h
    · rename_i m w' htake
      have hupdates : (w'.process m).updates = w'.updates := by rw [process_eq]
      refine unsent_settleTurn (fun n hn => ?_) chance
      rw [hupdates] at hn
      cases source <;> simp only [take?, Option.map_eq_some_iff] at htake <;>
        obtain ⟨⟨message, ch⟩, hreceive, heq⟩ := htake <;> cases heq
      · refine h n ?_
        rw [Channel.messages_receive? hreceive]
        exact List.mem_cons_of_mem _ hn
      · exact h n hn
      · exact h n hn
  · exact h

/-- **Nothing is sent of a node** by a move that leaves it waiting. -/
theorem step_unsent (h : w.Unsent v) (hbefore : w.Waits v) {m : Move} (hafter : (w.step m).Waits v) :
    (w.step m).Unsent v := by
  have hsame : ∀ w' : World, w'.updates = w.updates → w'.Unsent v :=
    fun w' heq n hn => h n (heq ▸ hn)
  rcases m.call_or_work with hcall | hwork | rfl | rfl | rfl | ⟨source, chance, rfl⟩
  · cases m with
    | poll call u a => exact unsent_poll h hbefore hafter
    | ban call u => exact unsent_ban h hafter
    | resumeBan call => exact unsent_resumeBan h hafter
    | admitUpdate =>
        have hmessages : w.admitUpdate.updates.messages = w.updates.messages :=
          congrArg Mail.messages (mail_admitUpdate w)
        exact fun n hn => h n (hmessages ▸ hn)
    | request r =>
        refine hsame _ ?_
        dsimp only [step, request]
        split <;> rfl
    | admitRequest =>
        refine hsame _ ?_
        dsimp only [step, admitRequest]
        split <;> rfl
    | _ => cases hcall
  · exact hsame _ (congrArg Exterior.updates (exterior_of_isWork (w := w) hwork))
  · refine hsame _ ?_
    dsimp only [step, launch]
    split <;> rfl
  · refine hsame _ ?_
    dsimp only [step, conclude]
    split <;> rfl
  · dsimp only [step, drop]
    split
    · exact fun n hn => by cases hn
    · exact fun n hn => by cases hn
    · exact h
  · exact unsent_iterate h source chance

/-! ## The report -/

/-- **A report of waiting is applied**: the node holds nothing, and is in the pool or stays promised. -/
lemma provides_report (hr : w.roster.Sound) {n : Notification} {node : Node}
    (hnode : w.shared.net.nodes.get? n.node = some node) (hstatus : node.status ≠ .banned)
    (hk : w.shared.kindOf n = .activity .waiting)
    (hunheard : ∀ id ∈ w.roster.started, ∀ team, w.roster.inFlight id = some team → n.node ∉ team) :
    (w.processUpdate n).roster.Provides n.node old ∧
      (w.processUpdate n).roster.holding n.node = none := by
  have htaken : (w.takenOver n).roster.Sound := (roster_takenOver w n).symm ▸ hr
  have happlied := applied_takenOver hr n
  let s := ((w.takenOver n).shared.apply w.settings w.wall w.clock w.loop.reserved n).1
  have hfree : s.net.holding n.node = none := by
    rw [holding_of_applied happlied, hk]
    simp [Kind.detaches]
  have hpool : n.node ∈ s.pool ∨ n.node ∈ w.loop.reserved := by
    obtain ⟨held, hheld⟩ := Shared.exists_holds (s := (w.takenOver n).shared) (v := n.node)
      fun id hid => exists_round htaken hid
    have hnode' : (w.takenOver n).shared.net.nodes.get? n.node = some node.takeOwnership.2 := by
      simp [takenOver, mapNode, mapShared, Shared.mapNode, Network.mapNode, count, hnode]
    dsimp only [s]
    rw [Shared.apply_eq hnode' hheld, kindOf_takenOver, hk]
    dsimp only [Shared.applyActivity]
    split
    · exact absurd ‹_› hstatus
    · split
      · exact Or.inr ‹_›
      · exact Or.inl (Pool.mem_add.2 (Or.inl rfl))
  have hprovided : ({ w with shared := s } : World).roster.Provides n.node old := by
    rcases hpool with hin | hreserved
    · exact Or.inl hin
    · obtain ⟨id, team, hteam, hv⟩ := (hr.reserved_iff n.node).1 hreserved
      exact Or.inr (Or.inr ⟨id, team, hteam, hv, fun hid => hunheard id hid team hteam hv, hfree⟩)
  have hboth : ({ w with shared := s } : World).roster.Provides n.node old ∧
      ({ w with shared := s } : World).roster.holding n.node = none := ⟨hprovided, hfree⟩
  rw [← roster_release _ n.node] at hboth
  rw [processUpdate]
  dsimp only
  split <;> exact hboth

lemma status_processUpdate (hr : w.roster.Sound) (n : Notification) (j : NodeId) :
    ((w.processUpdate n).shared.net.nodes.get? j).map Node.status
      = (w.shared.net.nodes.get? j).map Node.status := by
  have happlied := applied_takenOver hr n
  let s := ((w.takenOver n).shared.apply w.settings w.wall w.clock w.loop.reserved n).1
  have hstatus : ((s.mapNode n.node Node.release).net.nodes.get? j).map Node.status
      = (w.shared.net.nodes.get? j).map Node.status := by
    simp only [Shared.mapNode, Network.mapNode, Table.get?_modify, s, happlied.nodes j]
    simp only [takenOver, mapNode, mapShared, Shared.mapNode, Network.mapNode, Table.get?_modify,
      count]
    cases w.shared.net.nodes.get? j <;> split <;> split <;>
      simp [Node.release, Node.detach, Node.takeOwnership]
  rw [← hstatus]
  rw [processUpdate]
  dsimp only
  split <;> rfl

lemma nodes_settleTurn {chance : Nat → Shuffle} (hgoes : (w.settleTurn chance).handsOut = true) :
    (w.settleTurn chance).shared.net.nodes = w.shared.net.nodes := by
  rcases settleTurn_of_handsOut hgoes with heq | heq <;> rw [heq]
  exact (assembleFrom_frame _ chance w).1

/-- A round that is there stays. -/
lemma team_of_step (hr : w.roster.Sound) (m : Move) {id : RoundId} (h : w.roster.team id ≠ none) :
    (w.step m).roster.team id ≠ none := by
  have hchange := step_change hr m id
  have hthere : w.ledger.rounds id ≠ none := fun hnone => h (Network.team?_eq_none_iff.2 hnone)
  obtain ⟨r, hround⟩ := Option.ne_none_iff_exists'.1 hthere
  intro hgone
  have hgone' : (w.step m).ledger.rounds id = none := Network.team?_eq_none_iff.1 hgone
  rw [hround, hgone'] at hchange
  cases hchange

/-- The node waits before and after every one of the moves. -/
def Steady (w : World) (v : NodeId) : List Move → Prop
  | [] => w.Waits v
  | m :: rest => w.Waits v ∧ (w.step m).Steady v rest

instance decidableSteady : (w : World) → (v : NodeId) → (moves : List Move) →
    Decidable (w.Steady v moves)
  | w, v, [] => inferInstanceAs (Decidable (w.Waits v))
  | w, v, m :: rest =>
      have := decidableSteady (w.step m) v rest
      inferInstanceAs (Decidable (w.Waits v ∧ (w.step m).Steady v rest))

lemma Steady.waits {moves : List Move} (h : w.Steady v moves) : w.Waits v := by
  cases moves with
  | nil => exact h
  | cons m rest => exact h.1

/-- **A node that goes on waiting stays provided for** as long as the loop may run. -/
lemma run_provides (hr : w.roster.Sound) (h : w.roster.Provides v old) (hsent : w.Unsent v)
    (hold : ∀ id, old id → w.roster.team id ≠ none) {moves : List Move} (hsteady : w.Steady v moves)
    (hgoes : (w.run moves).handsOut = true) : (w.run moves).roster.Provides v old := by
  induction moves generalizing w with
  | nil => exact h
  | cons m rest ih =>
      obtain ⟨hbefore, hrest⟩ := hsteady
      have hother : ∀ n, w.delivered? m = some n → n.node ≠ v := by
        intro n hn
        obtain ⟨ch, chance, -, hreceive, -⟩ := step_of_delivered hn
        refine hsent n ?_
        rw [Channel.messages_receive? hreceive]
        exact List.mem_cons_self
      refine ih (step_sound hr m) ?_ (step_unsent hsent hbefore hrest.waits)
        (fun id hid => team_of_step hr m (hold id hid)) hrest hgoes
      exact step_provides hr h hbefore hold hother (handsOut_of_run hgoes)

/-- The node is where the loop can find it, and holds no round that there was at the time `since`. -/
structure Provided (w : World) (v : NodeId) (since : World) : Prop where
  placed : v ∈ w.shared.pool.online ∨ v ∈ w.shared.pool.offline ∨
    (∃ id team, w.loop.inFlight.get? id = some team ∧ v ∈ team) ∨ w.shared.net.holding v ≠ none
  fresh : ∀ id, w.shared.net.holding v = some id → since.shared.net.rounds.get? id = none

lemma Provided.of_provides {since : World} (hr : w.roster.Sound) (h : w.roster.Provides v fun id =>
    since.roster.team id ≠ none) : w.Provided v since := by
  have hnone : w.shared.net.holding v = none → ∀ id, w.shared.net.holding v = some id →
      since.shared.net.rounds.get? id = none := by
    intro hfree id hid
    rw [hfree] at hid
    cases hid
  rcases h with hin | ⟨id, hheld, hnew⟩ | ⟨id, team, hteam, hv, -, hfree⟩
  · exact ⟨hin.imp (fun h => h) Or.inl, hnone (hr.pool_free v hin)⟩
  · have hheld' : w.shared.net.holding v = some id := hheld
    refine ⟨Or.inr (Or.inr (Or.inr (by simp [hheld']))), fun id' hid' => ?_⟩
    obtain rfl : id = id' := Option.some.inj (hheld'.symm.trans hid')
    exact Network.team?_eq_none_iff.1 (not_not.1 hnew)
  · exact ⟨Or.inr (Or.inr (Or.inl ⟨id, team, hteam, hv⟩)), hnone hfree⟩

lemma kindOf_waiting {n : Notification} (hactivity : n.toActivity = .waiting)
    (hstatus : n.toStatus ≠ .banned)
    (hlive : ∀ id, w.shared.net.holding n.node = some id → w.shared.net.phase? id ≠ some .failed) :
    w.shared.kindOf n = .activity .waiting := by
  rw [Shared.kindOf, classify, if_neg hstatus, if_neg, hactivity]
  rintro ⟨hfailed, -⟩
  obtain ⟨id, hid, hphase⟩ := Option.bind_eq_some_iff.1 hfailed
  exact hlive id hid hphase

/-- When a notification is delivered no other of its node is on its way. -/
lemma unsent_of_delivered (hm : w.mail.Sound) {m : Move} {n : Notification}
    (hn : w.delivered? m = some n) : (w.step m).Unsent n.node := by
  obtain ⟨ch, chance, -, hreceive, hstep⟩ := step_of_delivered hn
  have hmessages : w.mail.messages = n :: ch.messages := Channel.messages_receive? hreceive
  have hnodup := hm.nodup
  rw [hmessages, List.map_cons, List.nodup_cons] at hnodup
  have hupdates : (({ w with updates := ch } : World).processUpdate n).updates = ch := by
    have hprocess := process_eq (w := { w with updates := ch }) (.update n)
    exact congrArg World.updates hprocess
  rw [hstep]
  refine unsent_settleTurn (fun n' hn' heq => hnodup.1 ?_) chance
  rw [hupdates] at hn'
  exact heq ▸ List.mem_map_of_mem hn'

/-- **A report of waiting is delivered**: the turn that applies it leaves its node provided for. -/
lemma provides_of_delivered (hr : w.roster.Sound) {m : Move} {n : Notification}
    (hn : w.delivered? m = some n) (hk : w.shared.kindOf n = .activity .waiting)
    (hunheard : ∀ id ∈ w.roster.started, ∀ team, w.roster.inFlight id = some team → n.node ∉ team)
    (hwaits : (w.step m).Waits n.node) (hgoes : (w.step m).handsOut = true) :
    (w.step m).roster.Provides n.node old ∧ (w.step m).shared.net.holding n.node = none := by
  obtain ⟨ch, chance, hrun, -, hstep⟩ := step_of_delivered hn
  obtain ⟨node, hnode, -, hbanned⟩ := hwaits
  rw [hstep] at hgoes hnode ⊢
  rw [nodes_settleTurn hgoes] at hnode
  -- the node was not banned before the report was applied
  have hwas := status_processUpdate (w := { w with updates := ch }) hr n n.node
  rw [hnode, Option.map_some] at hwas
  obtain ⟨node₀, hnode₀, hstatus⟩ := Option.map_eq_some_iff.1 hwas.symm
  obtain ⟨hprovides, hfree⟩ : (({ w with updates := ch } : World).processUpdate n).roster.Provides
      n.node old ∧ (({ w with updates := ch } : World).processUpdate n).roster.holding n.node = none :=
    provides_report (w := { w with updates := ch }) hr hnode₀ (hstatus ▸ hbanned) hk hunheard
  have hprocessed := processUpdate_sound (w := { w with updates := ch }) hr n
  have hstage := stage_process { w with updates := ch } (.update n)
  dsimp only [process] at hstage
  have hbefore : (({ w with updates := ch } : World).processUpdate n).handsOut = true := by
    rw [handsOut, hstage]
    exact handsOut_of_isRunning hrun
  refine ⟨provides_settleTurn hprocessed hbefore hprovides hgoes, ?_⟩
  rw [Network.holding_congr (nodes_settleTurn hgoes)]
  exact hfree

/-- **No report of waiting is lost.**  It is about a node that is not banned and whose round, if it holds
one, has not failed; and the loop has heard of every start of a team of the node.  Then the report leaves
the node without a round, and as long as the node goes on waiting and the loop runs, it is in the pool, or
in a team in flight, or holds a round that was started after the report. -/
theorem provided_of_waiting (settings : Settings) (latency : Latency) (isDisabled : NodeId → Bool)
    {net : Network} (wall : Instant) (hidle : net.Idle) (before later : List Move) {m : Move}
    {n : Notification} :
    let w := (create settings latency isDisabled net wall).run before
    w.delivered? m = some n → n.toActivity = .waiting → n.toStatus ≠ .banned →
    (∀ id, w.shared.net.holding n.node = some id → w.shared.net.phase? id ≠ some .failed) →
    (∀ id team, .started id ∈ w.events.messages → w.loop.inFlight.get? id = some team →
      n.node ∉ team) →
    (w.step m).Steady n.node later → ((w.step m).run later).isRunning = true →
    (w.step m).shared.net.holding n.node = none ∧
      ((w.step m).run later).Provided n.node (w.step m) := by
  intro w hn hactivity hstatus hlive hunheard hsteady hrunning
  have hchronicle := run_chronicle settings latency isDisabled wall hidle before
  have hr : w.roster.Sound := hchronicle.roster
  have hgoes : (w.step m).handsOut = true := handsOut_of_run (handsOut_of_isRunning hrunning)
  obtain ⟨hprovides, hfree⟩ : (w.step m).roster.Provides n.node
      (fun id => (w.step m).roster.team id ≠ none) ∧ (w.step m).shared.net.holding n.node = none :=
    provides_of_delivered hr hn (kindOf_waiting hactivity hstatus hlive)
      (fun id hid team hteam => hunheard id team (mem_started.1 hid) hteam) hsteady.waits hgoes
  refine ⟨hfree, .of_provides (run_sound (step_sound hr m) later) ?_⟩
  exact run_provides (step_sound hr m) hprovides (unsent_of_delivered hchronicle.mail hn)
    (fun _ hid => hid) hsteady (handsOut_of_isRunning hrunning)

/-- The first of two nodes waits, and then their round is started. -/
theorem provided_of_waiting_of_two : (smallNetwork ["a", "b"]).Idle ∧
    let w := (small ["a", "b"]).run [.launch, .poll 0 "a" .waiting]
    let m : Move := .iterate .updates fun _ => .still
    let later := reporting "b" .waiting ++ [.takeProto] ++ kickoff
    (w.step m).shared.net.holding "a" = none ∧ ((w.step m).run later).Provided "a" (w.step m) := by
  refine ⟨idle_smallNetwork _, ?_⟩
  intro w m later
  have hreported : (w.delivered? m).map (fun n => (n.node, n.toActivity, n.toStatus))
      = some ("a", .waiting, .active) := by decide +kernel
  obtain ⟨n, hn, heq⟩ := Option.map_eq_some_iff.1 hreported
  obtain ⟨hnode, hrest⟩ := Prod.mk.inj heq
  obtain ⟨hactivity, hstatus⟩ := Prod.mk.inj hrest
  have hlive : ∀ id, w.shared.net.holding n.node = some id →
      w.shared.net.phase? id ≠ some .failed := by
    intro id hid
    have hfree : w.shared.net.holding "a" = none := by decide +kernel
    rw [hnode, hfree] at hid
    cases hid
  have hunheard : ∀ id team, .started id ∈ w.events.messages →
      w.loop.inFlight.get? id = some team → n.node ∉ team := by
    intro id team hid
    have hquiet : w.events.messages = [] := by decide +kernel
    rw [hquiet] at hid
    cases hid
  have hsteady : (w.step m).Steady n.node later := by
    rw [hnode]
    decide +kernel
  have hrunning : ((w.step m).run later).isRunning = true := by decide +kernel
  have hprovided := provided_of_waiting _ _ _ _ (idle_smallNetwork ["a", "b"]) _ later hn hactivity
    (by simp [hstatus]) hlive hunheard hsteady hrunning
  rw [hnode] at hprovided
  exact ⟨by decide +kernel, hprovided.2⟩

/-! ## A report that is ignored -/

/-- One of two members fails their round; the other goes through with it, and is about to report that it
waits again. -/
def aftermath : List Move :=
  gather ["a", "b"] ++ kickoff ++ reporting "a" .error ++
    ([.precomputing, .standby, .realtime, .completed].flatMap (reporting "b")) ++
    [.poll 0 "b" .waiting]

/-- **The report is lost**: the node waits, and is nowhere but in the failed round. -/
theorem not_provided_of_failure :
    let w := (small ["a", "b"]).run aftermath
    let m : Move := .iterate .updates fun _ => .still
    (w.delivered? m).map (fun n => (n.node, n.toActivity, n.toStatus)) = some ("b", .waiting, .active) ∧
      (w.step m).Waits "b" ∧ (w.step m).isRunning = true ∧
      ¬ (w.step m).Provided "b" (w.step m) := by
  intro w m
  refine ⟨by decide +kernel, by decide +kernel, by decide +kernel, fun hprovided => ?_⟩
  have hheld : (w.step m).shared.net.holding "b" = some ⟨1⟩ := by decide +kernel
  have hthere : ((w.step m).shared.net.rounds.get? ⟨1⟩).map Round.phase = some .failed := by
    decide +kernel
  rw [hprovided.fresh ⟨1⟩ hheld] at hthere
  cases hthere

end Live.World

end MixRounds
