import MixRounds.Proofs.Live.Failure
import MixRounds.Proofs.Live.Outcast
import MixRounds.Proofs.Table

/-!
# A ban is final

A node is banned at the front, and until the loop has heard of it the node may wait, be picked, or hold a
round.  As long as the loop goes on, every banned node is an outcast already or the notification of its
first ban is on its way (`World.Heralded`); so whoever is banned when the loop applies a ban is an outcast
from then on (`World.outcast_of_delivered`).

**`World.expelled_of_delivered`** says what that means for the rest of every run.
-/

namespace MixRounds

lemma Pool.remove_of_not_mem {p : Pool} {v : NodeId} (h : v ∉ p) : (p.remove v).2 = p := by
  have hwithout : ∀ ids : List NodeId, v ∉ ids → without v ids = ids := by
    intro ids hv
    refine List.filter_eq_self.2 fun j hj => ?_
    simpa using fun heq : j = v => hv (heq ▸ hj)
  rw [Pool.mem_def, not_or] at h
  simp only [remove, hwithout _ h.1, hwithout _ h.2]

namespace Live

/-- **A ban of an outcast does nothing.** -/
lemma Shared.apply_of_banned {s : Shared} {settings : Settings} {now : Instant} {clock : Nat}
    {reserved : List NodeId} {n : Notification} {node : Node}
    (hnode : s.net.nodes.get? n.node = some node) (hfree : s.net.holding n.node = none)
    (hout : n.node ∉ s.pool) (hstatus : n.toStatus = .banned) :
    s.apply settings now clock reserved n = (s, .ok .nothing) := by
  have hkind : s.kindOf n = .alreadyBanned ∨ s.kindOf n = .ban := by
    simp only [kindOf, classify, if_pos hstatus]
    split
    · exact Or.inl rfl
    · exact Or.inr rfl
  have hholds : s.Holds n.node none := hfree
  rw [apply_eq hnode hholds]
  rcases hkind with hkind | hkind <;> simp only [hkind]
  rw [hfree, Pool.remove_of_not_mem hout]
  rfl

namespace World

variable {w : World} {v : NodeId}

/-! ## From the front to the loop -/

/-- Every banned node is an outcast, or the loop is about to hear of its ban; and it is about to hear of no
other. -/
structure Heralded (w : World) : Prop where
  banned : ∀ v, w.IsBanned v → w.Outcast v ∨
    ∃ n ∈ w.updates.messages, n.node = v ∧ n.toStatus = .banned ∧ n.fromStatus ≠ .banned
  queued : ∀ n ∈ w.updates.messages, n.toStatus = .banned → w.IsBanned n.node

lemma mem_of_delivered {m : Move} {n : Notification} (hn : w.delivered? m = some n) :
    n ∈ w.updates.messages := by
  obtain ⟨ch, chance, -, hreceive, -⟩ := step_of_delivered hn
  simp [Channel.messages_receive? hreceive]

/-- A node that is banned once more is an outcast already. -/
lemma Heralded.outcast (h : w.Heralded) (hm : w.mail.Sound) {n : Notification}
    (hin : n ∈ w.updates.messages) (hstatus : n.toStatus = .banned) (hbefore : n.fromStatus = .banned) :
    w.Outcast n.node := by
  refine (h.banned n.node (h.queued n hin hstatus)).resolve_right ?_
  rintro ⟨n', hn', hnode, -, hfirst⟩
  -- no two notifications on their way are about one node
  have heq : n' = n := List.inj_on_of_nodup_map hm.nodup hn' hin hnode
  exact hfirst (heq ▸ hbefore)

/-- **Whoever the loop applies a ban to** is an outcast after that. -/
theorem outcast_of_delivered (hr : w.roster.Sound) (hm : w.mail.Sound) (h : w.Heralded) {m : Move}
    {n : Notification} (hn : w.delivered? m = some n) (hstatus : n.toStatus = .banned) :
    (w.step m).Outcast n.node := by
  have hin : n ∈ w.updates.messages := mem_of_delivered hn
  obtain ⟨ch, chance, -, hreceive, hstep⟩ := step_of_delivered hn
  have hbanned : w.IsBanned n.node := h.queued n hin hstatus
  have hout : w.Outcast n.node ∨ w.shared.kindOf n = .ban := by
    by_cases hbefore : n.fromStatus = .banned
    · exact Or.inl (h.outcast hm hin hstatus hbefore)
    · exact Or.inr (by simp [Shared.kindOf, classify, hstatus, hbefore])
  rw [hstep]
  refine outcast_settleTurn ?_ chance
  refine outcast_processUpdate_self (w := { w with updates := ch }) hr hbanned ?_
  exact hout.imp_left fun hthere => ⟨hthere.banned, hthere.out, hthere.free⟩

/-- **Every move** after which the loop goes on keeps the bans heralded. -/
lemma step_heralded (hr : w.roster.Sound) (hm : w.mail.Sound) (h : w.Heralded) {m : Move}
    (hgoes : (w.step m).handsOut = true) : (w.step m).Heralded := by
  have hstays : ∀ {v}, w.IsBanned v → (w.step m).IsBanned v := fun hv => (isBanned_step hr m).2 (Or.inl hv)
  cases hbanning : w.banning? m with
  | some u =>
      obtain ⟨n, hnode, hstatus, hbefore, hmessages⟩ := messages_of_banning? hbanning
      have hopen : w.updates.closed = false := by
        simpa [mail] using hm.is_open (handsOut_of_step hgoes)
      rw [hopen, if_neg Bool.false_ne_true] at hmessages
      refine ⟨fun v hv => ?_, fun n' hn' hstatus' => ?_⟩
      · by_cases hv' : w.IsBanned v
        · refine (h.banned v hv').imp (fun hout => step_outcast hr hout m) ?_
          rintro ⟨n', hn', hrest⟩
          exact ⟨n', by simp [hmessages, hn'], hrest⟩
        · -- it is this ban that it is banned by
          have hu : u = v := by simpa [hbanning, hv'] using (isBanned_step hr m).1 hv
          subst hu
          refine Or.inr ⟨n, by simp [hmessages], hnode, hstatus, fun hfrom => hv' ?_⟩
          rwa [hfrom] at hbefore
      · rw [hmessages] at hn'
        rcases List.mem_append.1 hn' with hn' | hn'
        · exact hstays (h.queued n' hn' hstatus')
        · rw [List.mem_singleton.1 hn', hnode]
          exact (isBanned_step hr m).2 (Or.inr hbanning)
  | none =>
      obtain ⟨new, hmessages, hnew⟩ := messages_of_banning?_eq_none hbanning hgoes
      refine ⟨fun v hv => ?_, fun n hn hstatus => ?_⟩
      · have hv' : w.IsBanned v := by simpa [hbanning] using (isBanned_step hr m).1 hv
        rcases h.banned v hv' with hout | ⟨n, hn, hnode, hstatus, hfirst⟩
        · exact Or.inl (step_outcast hr hout m)
        · -- the loop has heard of the ban just now, or it still will
          have hin : n ∈ (w.delivered? m).toList ++ (w.step m).updates.messages := by
            rw [hmessages]
            exact List.mem_append_left _ hn
          rcases List.mem_append.1 hin with hin | hin
          · exact Or.inl (hnode ▸ outcast_of_delivered hr hm h (by simpa using hin) hstatus)
          · exact Or.inr ⟨n, hin, hnode, hstatus, hfirst⟩
      · have hin : n ∈ w.updates.messages ++ new := by
          rw [← hmessages]
          exact List.mem_append_right _ hn
        rcases List.mem_append.1 hin with hin | hin
        · exact hstays (h.queued n hin hstatus)
        · exact absurd hstatus (hnew n hin)

lemma run_heralded {told : RoundId → List Telling} (hc : Chronicle w told) (h : w.Heralded)
    {moves : List Move} (hgoes : (w.run moves).handsOut = true) : (w.run moves).Heralded := by
  induction moves generalizing w told with
  | nil => exact h
  | cons m rest ih =>
      have hnext : (w.step m).handsOut = true := handsOut_of_run hgoes
      exact ih (hc.step m) (step_heralded hc.roster hc.mail h hnext) hgoes

lemma create_heralded (settings : Settings) (latency : Latency) (isDisabled : NodeId → Bool)
    {net : Network} (wall : Instant) (h : net.Idle) :
    (create settings latency isDisabled net wall).Heralded where
  banned v hv := Or.inl ⟨hv, Pool.not_mem_empty v, h.holding v⟩
  queued n hn := by cases hn

/-! ## What an outcast can expect -/

/-- **A poll of a banned node is refused**, and nothing comes of it. -/
lemma poll_of_isBanned (h : w.IsBanned v) (call : CallId) (a : Activity) : w.poll call v a
    = w.answer call (if w.isFree v then .refused (.banned v) else .busy) := by
  obtain ⟨node, hnode, hbanned⟩ := node_of_isBanned h
  by_cases hfree : node.handoff = .released
  · have hfree' : w.isFree v = true := isFree_iff.2 ⟨node, hnode, hfree⟩
    have hacquire : node.tryAcquire = (true, { node with handoff := .locked }) := by
      simp [Node.tryAcquire, hfree, Handoff.tryAcquire]
    have hrefused : ({ node with handoff := .locked } : Node).poll v a w.wall
        = ({ node with handoff := .locked }, .error (.banned v)) := by simp [Node.poll, hbanned]
    -- the node has been taken and given free again
    have hsame : w.mapNode v (fun _ => node) = w := by
      simp only [mapNode, mapShared, Shared.mapNode, Network.mapNode, Table.modify_eq_self hnode]
    have hrelease : ({ node with handoff := .locked } : Node).release = node := by
      rw [Node.release, ← hfree]
    rw [poll]
    simp only [hnode, hacquire, hrefused, hrelease, hsame, hfree', if_true]
  · have hfree' : w.isFree v = false := by
      rw [Bool.eq_false_iff, Ne, isFree_iff]
      rintro ⟨other, hother, hreleased⟩
      cases hnode.symm.trans hother
      exact hfree hreleased
    have hacquire : node.tryAcquire.1 = false := by
      rw [Bool.eq_false_iff]
      exact fun htrue => hfree ((Handoff.tryAcquire_fst_iff _).1 htrue)
    rw [poll]
    simp only [hnode, hfree', Bool.false_eq_true, if_false]
    split
    · rfl
    · rename_i taken htaken
      simp [htaken] at hacquire

/-- **A further ban** is applied without a fault: the node is taken and given free again, and the update is
counted. -/
lemma processUpdate_of_outcast {n : Notification} (h : w.Outcast n.node) (hstatus : n.toStatus = .banned) :
    ((w.takenOver n).shared.apply w.settings w.wall w.clock w.loop.reserved n
        = ((w.takenOver n).shared, .ok .nothing)) ∧
      w.processUpdate n = (w.takenOver n).mapNode n.node Node.release := by
  have hbanned : (w.takenOver n).IsBanned n.node :=
    (isBanned_congr (status_mapNode _ n.node (f := fun node => node.takeOwnership.2)
      fun _ _ => rfl)).2 h.banned
  obtain ⟨node, hnode, -⟩ := node_of_isBanned hbanned
  have hfree : (w.takenOver n).shared.net.holding n.node = none := by rw [holding_takenOver, h.free]
  have happly : (w.takenOver n).shared.apply w.settings w.wall w.clock w.loop.reserved n
      = ((w.takenOver n).shared, .ok .nothing) := Shared.apply_of_banned hnode hfree h.out hstatus
  refine ⟨happly, ?_⟩
  have htaken : (w.takenOver n).shared.apply (w.takenOver n).settings (w.takenOver n).wall
      (w.takenOver n).clock (w.takenOver n).loop.reserved n
        = ((w.takenOver n).shared, .ok .nothing) := happly
  simp only [takenOver] at htaken
  rw [processUpdate]
  simp only [htaken]
  rfl

/-- **No round that is started has an outcast on its team.** -/
lemma step_absent (hr : w.roster.Sound) (h : w.Outcast v) {since : World}
    (habsent : ∀ id r, since.ledger.rounds id = none → w.ledger.rounds id = some r → v ∉ r.topology)
    (m : Move) {id : RoundId} {r : Round} (hnew : since.ledger.rounds id = none)
    (hround : (w.step m).ledger.rounds id = some r) : v ∉ r.topology := by
  cases hn : w.delivered? m with
  | some n =>
      rw [ledger_of_delivered hr hn] at hround
      simp only [Ledger.apply] at hround
      split at hround
      · obtain ⟨r', hr', rfl⟩ := Option.map_eq_some_iff.1 hround
        rw [Kind.topology_effect]
        exact habsent id r' hnew hr'
      · exact habsent id r hnew hround
  | none =>
      rcases ledger_of_not_delivered hr hn with heq | ⟨failed, heq⟩ | ⟨p, hp, r', hteam, -, -, heq⟩ <;>
        rw [heq] at hround
      · exact habsent id r hnew hround
      · simp only [Ledger.fail] at hround
        split at hround
        · obtain ⟨r', hr', rfl⟩ := Option.map_eq_some_iff.1 hround
          rw [Round.topology_fail]
          exact habsent id r' hnew hr'
        · exact habsent id r hnew hround
      · simp only [Ledger.start] at hround
        split at hround
        · cases hround
          rw [hteam]
          intro hv
          -- it would hold the round now
          have hholds : (w.step m).ledger.holding v = some p.id := by
            rw [heq]
            exact if_pos hv
          have hfree : (w.step m).ledger.holding v = none := (step_outcast hr h m).free
          rw [hholds] at hfree
          cases hfree
        · exact habsent id r hnew hround

lemma run_absent (hr : w.roster.Sound) (h : w.Outcast v) {since : World}
    (habsent : ∀ id r, since.ledger.rounds id = none → w.ledger.rounds id = some r → v ∉ r.topology)
    (moves : List Move) {id : RoundId} {r : Round} (hnew : since.ledger.rounds id = none)
    (hround : (w.run moves).ledger.rounds id = some r) : v ∉ r.topology := by
  induction moves generalizing w with
  | nil => exact habsent id r hnew hround
  | cons m rest ih =>
      exact ih (step_sound hr m) (step_outcast hr h m) (fun _ _ => step_absent hr h habsent m) hround

/-- **A living round that is struck** has failed ever after, and this strike is on record. -/
lemma errorsFor_of_strike (h : w.Regular) {es : List RoundError} (hjudged : w.annals.Judged es) {m : Move}
    {e : RoundError} (hstrike : w.strike? m = some e) {p : Phase}
    (hphase : w.shared.net.phase? e.round = some p) (hlive : p.isTerminal = false) (later : List Move) :
    ((w.step m).run later).shared.net.phase? e.round = some .failed ∧
      ((w.step m).run later).shared.net.log.errorsFor e.round = [e] := by
  have hnone : Annals.on es e.round = [] := by
    by_contra hstruck
    have hfailed : w.shared.net.phase? e.round = some .failed := (hjudged.failed_iff _).2 hstruck
    rw [hphase, Option.some.injEq] at hfailed
    rw [hfailed] at hlive
    cases hlive
  have hon : Annals.on (es ++ w.strikes (m :: later)) e.round
      = e :: Annals.on ((w.step m).strikes later) e.round := by
    rw [strikes, hstrike, Option.toList_some, Annals.on_append, Annals.on_append, hnone, Annals.on_single,
      if_pos rfl]
    rfl
  have hafter : ((w.step m).run later).annals.Judged (es ++ w.strikes (m :: later)) :=
    run_judged h hjudged (m :: later)
  refine ⟨(hafter.failed_iff e.round).2 (by simp [hon]), ?_⟩
  refine (hafter.errors e.round).trans ?_
  rw [hon]
  rfl

/-! ## Every run -/

/-- What the state `w` shows of the node `v`, when the loop applied a ban of it to the state `since`. -/
structure Expelled (w since : World) (v : NodeId) : Prop where
  banned : w.status v = some .banned
  not_online : v ∉ w.shared.pool.online
  not_offline : v ∉ w.shared.pool.offline
  free : w.shared.net.holding v = none
  /-- Rounds that were not there yet do without it. -/
  absent : ∀ id r, since.shared.net.rounds.get? id = none → w.shared.net.rounds.get? id = some r →
    v ∉ r.topology
  /-- Its polls are refused, and change nothing. -/
  refused : ∀ call a, w.poll call v a = w.answer call (.refused (.banned v)) ∨
    w.poll call v a = w.answer call .busy
  /-- The living round that it held has failed, and the ban is on record. -/
  failed : ∀ id p, since.shared.net.holding v = some id → since.shared.net.phase? id = some p →
    p.isTerminal = false → w.shared.net.phase? id = some .failed ∧
      w.shared.net.log.errorsFor id = [⟨id, some v, .nodeBanned, since.wall⟩]
  /-- A further ban is applied without a fault: the loop takes the node over, gives it free again, and counts
  the update. -/
  again : ∀ n : Notification, n.node = v → n.toStatus = .banned →
    (w.takenOver n).shared.apply w.settings w.wall w.clock w.loop.reserved n
        = ((w.takenOver n).shared, .ok .nothing) ∧
      w.processUpdate n = (w.takenOver n).mapNode v Node.release

/-- **A ban is final.**  In every run from a fresh network, whoever the loop applies a ban to is expelled for
the rest of it. -/
theorem expelled_of_delivered (settings : Settings) (latency : Latency) (isDisabled : NodeId → Bool)
    {net : Network} (wall : Instant) (hfresh : net.Fresh) (earlier : List Move) (m : Move)
    (later : List Move) {n : Notification}
    (hn : ((create settings latency isDisabled net wall).run earlier).delivered? m = some n)
    (hstatus : n.toStatus = .banned) :
    let w := create settings latency isDisabled net wall
    (w.run (earlier ++ m :: later)).Expelled (w.run earlier) n.node := by
  intro w
  have hregular : w.Regular := create_regular settings latency isDisabled wall hfresh.idle
  have hchronicle := create_chronicle settings latency isDisabled wall hfresh.idle
  have hjudged := run_judged hregular (create_judged settings latency isDisabled wall hfresh) earlier
  obtain ⟨_, hearlier⟩ := (hregular.run earlier).chronicle
  have hr : (w.run earlier).roster.Sound := hearlier.roster
  have hgoes : (w.run earlier).handsOut = true := by
    obtain ⟨_, _, hrunning, -⟩ := step_of_delivered hn
    exact handsOut_of_isRunning hrunning
  have hheralded : (w.run earlier).Heralded :=
    run_heralded hchronicle (create_heralded settings latency isDisabled wall hfresh.idle) hgoes
  have hat : ((w.run earlier).step m).Outcast n.node :=
    outcast_of_delivered hr hearlier.mail hheralded hn hstatus
  have hthen : ((w.run (earlier ++ m :: later))).Outcast n.node := by
    rw [run_append]
    exact run_outcast (step_sound hr m) hat later
  refine ⟨hthen.banned, fun hin => hthen.out (Or.inl hin), fun hin => hthen.out (Or.inr hin), hthen.free,
    fun id r hnew hround => ?_, fun call a => ?_, fun id p hheld hphase hlive => ?_, ?_⟩
  · rw [run_append] at hround
    -- the turn that applies a notification starts nothing
    have hnone : ∀ id r, (w.run earlier).ledger.rounds id = none →
        ((w.run earlier).step m).ledger.rounds id = some r → n.node ∉ r.topology := by
      intro id r hnew hround
      rw [ledger_of_delivered hr hn] at hround
      simp only [Ledger.apply, hnew] at hround
      split at hround <;> cases hround
    exact run_absent (step_sound hr m) hat hnone later hnew hround
  · rw [poll_of_isBanned hthen.banned]
    split
    · exact Or.inl rfl
    · exact Or.inr rfl
  · have hbefore : n.fromStatus ≠ .banned := by
      intro hfrom
      have hout := hheralded.outcast hearlier.mail (mem_of_delivered hn) hstatus hfrom
      rw [show (w.run earlier).shared.net.holding n.node = none from hout.free] at hheld
      cases hheld
    have hstruck : (w.run earlier).Struck m ⟨id, some n.node, .nodeBanned, (w.run earlier).wall⟩ :=
      .ban hn hheld hbefore hstatus
    rw [run_append]
    exact errorsFor_of_strike (hregular.run earlier) hjudged (struck_iff.1 hstruck) hphase hlive later
  · rintro n' hnode hstatus'
    rw [← hnode] at hthen ⊢
    exact processUpdate_of_outcast hthen hstatus'

/-- The loop applies a notification. -/
def listen : Move := .iterate .updates fun _ => .still

/-- A member of a round that is under way is banned. -/
def banishment : List Move := gather ["a", "b"] ++ kickoff ++ [.ban 1 "a"]

/-- It is banned once more, and goes on polling. -/
theorem expelled_of_banishment : (smallNetwork ["a", "b"]).Fresh ∧
    ((small ["a", "b"]).run banishment).shared.net.holding "a" = some ⟨1⟩ ∧
    ∃ n, ((small ["a", "b"]).run banishment).delivered? listen = some n ∧ n.toStatus = .banned ∧
      ((small ["a", "b"]).run
        (banishment ++ listen :: [.ban 2 "a", listen, .poll 3 "a" .waiting, .sweep])).Expelled
          ((small ["a", "b"]).run banishment) "a" := by
  have hdelivered : (((small ["a", "b"]).run banishment).delivered? listen).map
      (fun n => (n.node, n.toStatus)) = some ("a", .banned) := by decide +kernel
  obtain ⟨n, hn, htold⟩ := Option.map_eq_some_iff.1 hdelivered
  obtain ⟨hnode, hstatus⟩ := Prod.mk.inj htold
  refine ⟨fresh_smallNetwork _, by decide +kernel, n, hn, hstatus, ?_⟩
  have hexpelled := expelled_of_delivered _ _ _ _ (fresh_smallNetwork ["a", "b"]) banishment listen
    [.ban 2 "a", listen, .poll 3 "a" .waiting, .sweep] hn hstatus
  dsimp only at hexpelled
  rwa [hnode] at hexpelled

end World

end Live

end MixRounds
