import MixRounds.Proofs.Live.Custody

/-!
# Who has a node when the loop is over

As long as the loop goes on, a node is free exactly if nobody has a claim on it (`Scene.Orderly`).  This
file carries that over the end of the loop.

* **Before the end**, whoever is in line with a notification, or about to send one, has the node that it
  is about, and the node exists (**`Scene.manned_run`**).  So those who are turned away give the right
  nodes free.
* **At the end** the notifications in the queue are lost (`Scene.lostBy`), and nobody is left who would
  give their nodes free (`Scene.Sound.bereft`).
* **Afterwards** calls that are under way come to their end one by one, and new ones come in.  None of them
  sends anything any more; who wanted to gives the node free (`Errand.proceed_cases`).

So after the end a node is free exactly if no call has taken it and no notification of it was lost:
**`Scene.bereft_of_run`**.
-/

namespace MixRounds.Live

/-! ## Calls under way -/

namespace Errand

/-- A notification goes with the node that its sender has taken. -/
def Addressed : Errand → Prop
  | recorded _ v (some n) => n.node = v
  | sending who n => who.node = n.node
  | _ => True

/-- How many steps a call has at most before it. -/
def weight : Errand → Nat
  | polling .. => 3
  | recorded .. | banning .. => 2
  | sending .. | leaving .. => 1

/-- A call has taken a step that is not its last. -/
structure GoesOn (e : Errand) (w w' : World) (e' : Errand) : Prop where
  hands : w'.hands = w.hands
  updates : w'.updates = w.updates
  parked : w'.parked = w.parked
  node : e'.claim.node = e.claim.node
  addressed : e'.Addressed
  lighter : w.hands e.claim.node ≠ none → e'.weight < e.weight

variable {w : World} {e : Errand}

lemma goesOn_polling (w : World) (call : CallId) (v : NodeId) (a : Activity) :
    ∃ e', ((polling call v a).proceed w).2 = some e' ∧
      (polling call v a).GoesOn w ((polling call v a).proceed w).1 e' := by
  rw [proceed]
  cases hnode : w.shared.net.nodes.get? v with
  | none =>
      refine ⟨_, rfl, rfl, rfl, rfl, rfl, trivial, fun hknown => absurd ?_ hknown⟩
      simp [World.hands, claim, Claim.node, hnode]
  | some node =>
      have hcases := node.poll_cases v a w.wall
      have hhands := node.poll_handoff v a w.wall
      have hsame := World.hands_setNode_same hnode _ hhands
      rcases hpoll : node.poll v a w.wall with ⟨seen, fault | _ | n⟩ <;>
        simp only [hpoll] at hcases hsame ⊢
      · exact ⟨_, rfl, hsame, rfl, rfl, rfl, trivial, fun _ => by simp [weight]⟩
      · exact ⟨_, rfl, hsame, rfl, rfl, rfl, trivial, fun _ => by simp [weight]⟩
      · have hn : n.node = v := by
          rcases hcases with ⟨-, hnone⟩ | ⟨m, hm, hv, -⟩
          · exact absurd rfl (hnone n)
          · cases hm
            exact hv
        exact ⟨_, rfl, hsame, rfl, rfl, hn, hn, fun _ => by simp [weight]⟩

lemma goesOn_recorded (w : World) (call : CallId) (v : NodeId) (change : Option Notification)
    (he : (recorded call v change).Addressed) :
    ∃ e', ((recorded call v change).proceed w).2 = some e' ∧
      (recorded call v change).GoesOn w ((recorded call v change).proceed w).1 e' := by
  have hhands := World.hands_of_mail (World.mail_bringOnline w v)
  have hparked := congrArg World.Reception.parked (World.reception_bringOnline w v)
  have hupdates := World.updates_bringOnline w v
  cases change with
  | none => exact ⟨_, rfl, hhands, hupdates, hparked, rfl, trivial, fun _ => by simp [weight]⟩
  | some n => exact ⟨_, rfl, hhands, hupdates, hparked, rfl, Eq.symm he, fun _ => by simp [weight]⟩

lemma goesOn_banning (w : World) (call : CallId) (v : NodeId) :
    ∃ e', ((banning call v).proceed w).2 = some e' ∧
      (banning call v).GoesOn w ((banning call v).proceed w).1 e' := by
  rw [proceed]
  cases hnode : w.shared.net.nodes.get? v with
  | none =>
      refine ⟨_, rfl, rfl, rfl, rfl, rfl, trivial, fun hknown => absurd ?_ hknown⟩
      simp [World.hands, claim, Claim.node, hnode]
  | some node =>
      have hsame := World.hands_setNode_same hnode (node.ban v w.wall).1 rfl
      exact ⟨_, rfl, hsame, rfl, rfl, rfl, rfl, fun _ => by simp [weight]⟩

/-- **A call takes a step**: it goes on, or sends, or leaves. -/
lemma proceed_cases (w : World) (he : e.Addressed) :
    (∃ e', (e.proceed w).2 = some e' ∧ e.GoesOn w (e.proceed w).1 e') ∨
      (∃ who n, e = sending who n) ∨ ∃ call v outcome, e = leaving call v outcome := by
  cases e with
  | polling call v a => exact Or.inl (goesOn_polling w call v a)
  | recorded call v change => exact Or.inl (goesOn_recorded w call v change he)
  | banning call v => exact Or.inl (goesOn_banning w call v)
  | sending who n => exact Or.inr (Or.inl ⟨who, n, rfl⟩)
  | leaving call v outcome => exact Or.inr (Or.inr ⟨call, v, outcome, rfl⟩)

end Errand

namespace Scene

variable {s : Scene}

/-- Whoever has taken a node has one that exists, and whoever notifies something notifies it of that
node. -/
structure Manned (s : Scene) : Prop where
  errands : ∀ e ∈ s.errands, e.Addressed
  line : ∀ p ∈ s.world.updates.waiting, p.1.node = p.2.node
  taken : ∀ e ∈ s.errands, s.world.hands e.claim.node ≠ none
  parked : ∀ p ∈ s.world.parked, s.world.hands p.2 ≠ none

namespace Manned

/-- Nobody is new, and no node is gone. -/
lemma mono (h : s.Manned) {s' : Scene} (herrands : s'.errands = s.errands)
    (hline : ∀ p ∈ s'.world.updates.waiting, p ∈ s.world.updates.waiting)
    (hparked : ∀ p ∈ s'.world.parked, p ∈ s.world.parked)
    (hknown : ∀ v, s.world.hands v ≠ none → s'.world.hands v ≠ none) : s'.Manned where
  errands e he := h.errands e (herrands ▸ he)
  line p hp := h.line p (hline p hp)
  taken e he := hknown _ (h.taken e (herrands ▸ he))
  parked p hp := hknown _ (h.parked p (hparked p hp))

/-- A call takes its node. -/
lemma take (h : s.Manned) (taken : Node) {e : Errand} {v : NodeId} {node : Node}
    (hclaim : e.claim = .bare v) (hnode : s.world.shared.net.nodes.get? v = some node) :
    (s.take taken e).Manned := by
  have hknown : ∀ u, s.world.hands u ≠ none → (s.take taken e).world.hands u ≠ none :=
    fun u hu => World.hands_mapNode_ne_none.2 hu
  refine ⟨fun e' he' => ?_, h.line, fun e' he' => ?_, fun p hp => hknown _ (h.parked p hp)⟩
  · rcases List.mem_cons.1 he' with rfl | he'
    · cases e' with
      | recorded _ _ change =>
          cases change with
          | none => trivial
          | some _ => cases hclaim
      | sending _ _ => cases hclaim
      | _ => trivial
    · exact h.errands e' he'
  · refine hknown _ ?_
    rcases List.mem_cons.1 he' with rfl | he'
    · simp [hclaim, Claim.node, World.hands, hnode]
    · exact h.taken e' he'

/-- A call under way takes its next step. -/
lemma proceed (h : s.Manned) {e : Errand} (he : e ∈ s.errands) :
    (s.moved e (e.proceed s.world).1 (e.proceed s.world).2).Manned := by
  have hrest : ∀ e' ∈ s.errands.erase e, e' ∈ s.errands := fun e' => List.mem_of_mem_erase
  rcases e.proceed_cases s.world (h.errands e he) with ⟨e', hnext, hgoes⟩ | ⟨who, n, rfl⟩ |
    ⟨call, v, outcome, rfl⟩
  · rw [hnext]
    refine ⟨fun x hx => ?_, hgoes.updates ▸ h.line, fun x hx => ?_, fun p hp => ?_⟩
    · rcases List.mem_cons.1 hx with rfl | hx
      · exact hgoes.addressed
      · exact h.errands x (hrest x hx)
    · rcases List.mem_cons.1 hx with rfl | hx
      · rw [show (s.moved e (e.proceed s.world).1 (some x)).world.hands = s.world.hands from hgoes.hands,
          hgoes.node]
        exact h.taken e he
      · exact hgoes.hands ▸ h.taken x (hrest x hx)
    · exact hgoes.hands ▸ h.parked p (hgoes.parked ▸ hp)
  · have hparked := s.world.parked_enqueue who n (World.Notifier.sent who)
    have hupdates := s.world.updates_enqueue who n (World.Notifier.sent who)
    refine ⟨fun x hx => h.errands x (hrest x hx), fun p hp => ?_, fun x hx => ?_, fun p hp => ?_⟩
    · rcases Channel.mem_waiting_send (hupdates ▸ hp) with hp | rfl
      · exact h.line p hp
      · exact h.errands _ he
    · exact World.known_enqueue (h.taken x (hrest x hx)) who n _
    · exact World.known_enqueue (h.parked p (hparked ▸ hp)) who n _
  · exact ⟨fun x hx => h.errands x (hrest x hx), h.line,
      fun x hx => World.hands_mapNode_ne_none.2 (h.taken x (hrest x hx)),
      fun p hp => World.hands_mapNode_ne_none.2 (h.parked p hp)⟩

/-- A call is answered at once, or keeps waiting. -/
lemma answer (h : s.Manned) {w : World} (hhands : w.hands = s.world.hands)
    (hupdates : w.updates = s.world.updates) (hparked : w.parked = s.world.parked) :
    (s.withWorld w).Manned :=
  h.mono rfl (fun _ hp => hupdates ▸ hp) (fun _ hp => hparked ▸ hp) fun _ hv => hhands ▸ hv

lemma poll (h : s.Manned) (call : CallId) (v : NodeId) (a : Activity) :
    (s.step (.poll call v a)).Manned := by
  rw [Scene.step]
  split
  · exact h.answer rfl rfl rfl
  · split
    · exact h.answer rfl rfl rfl
    · exact h.take _ rfl ‹_›

/-- A ban takes its node, or waits for it. -/
lemma ban (h : s.Manned) (call : CallId) (v : NodeId) : (s.step (.ban call v)).Manned := by
  rw [Scene.step]
  split
  · exact h.answer rfl rfl rfl
  · rename_i node hnode
    split
    · refine ⟨h.errands, h.line, h.taken, fun p hp => ?_⟩
      rcases List.mem_append.1 hp with hp | hp
      · exact h.parked p hp
      · rw [List.mem_singleton.1 hp]
        simp [withWorld, World.hands, hnode]
    · exact h.take _ rfl hnode

lemma resumeBan (h : s.Manned) (call : CallId) : (s.step (.resumeBan call)).Manned := by
  rw [Scene.step]
  split
  · exact h
  · split
    · exact h
    · split
      · exact h
      · have hunparked : (s.withWorld { s.world with
            parked := s.world.parked.filter fun p => p.1 ≠ call }).Manned :=
          h.mono rfl (fun p hp => hp) (fun p hp => (List.mem_filter.1 hp).1) fun v hv => hv
        exact hunparked.take _ rfl ‹_›

/-- The loop applies what it has in hand. -/
lemma apply (h : s.Manned) (hr : s.world.roster.Sound) : (s.step .apply).Manned := by
  rw [Scene.step]
  split
  · rename_i n hhand
    have happlied : Shared.Applied s.world.settings s.world.wall s.world.loop.reserved n.node
        (s.world.shared.kindOf n) s.world.shared (s.world.shared.apply s.world.settings
          s.world.wall s.world.clock s.world.loop.reserved n).1 :=
      .apply fun id hid => World.exists_round hr hid
    have hhands := World.hands_of_mail (World.mail_of_applied (w := s.world) happlied)
    exact h.mono rfl (fun p hp => hp) (fun p hp => hp) fun v hv => hhands ▸ hv
  · exact h

/-- The loop gives a node free. -/
lemma release (h : s.Manned) : (s.step .release).Manned := by
  rw [Scene.step]
  split
  · rename_i n result hhand
    have hhands := World.hands_of_mail
      (mail_reckon (s.world.mapNode n.node Node.release) n result).1
    refine h.mono rfl (fun p hp => ?_) (fun p hp => ?_) fun v hv => ?_
    · dsimp only at hp
      rw [World.reckon.eq_def] at hp
      split at hp <;> exact hp
    · dsimp only at hp
      rw [World.reckon.eq_def] at hp
      split at hp <;> exact hp
    · dsimp only
      rw [hhands]
      exact World.hands_mapNode_ne_none.2 hv
  · exact h

/-- **Every act keeps it so.** -/
lemma step (h : s.Manned) (hr : s.world.roster.Sound) (x : Act) : (s.step x).Manned := by
  cases x with
  | poll call v a => exact h.poll call v a
  | ban call v => exact h.ban call v
  | resumeBan call => exact h.resumeBan call
  | proceed e =>
      rw [Scene.step]
      split
      · exact h.proceed ‹_›
      · exact h
  | receive =>
      rw [Scene.step]
      split
      · rename_i hreceive
        refine h.mono rfl (fun p hp => ?_) (fun p hp => hp) fun v hv => hv
        exact Channel.waiting_receive? hreceive ▸ hp
      · exact h
  | takeOver =>
      rw [Scene.step]
      split
      · exact h.mono rfl (fun p hp => hp) (fun p hp => hp) fun v hv =>
          World.hands_mapNode_ne_none.2 hv
      · exact h
  | apply => exact h.apply hr
  | release => exact h.release
  | settle chance =>
      rw [Scene.step]
      split
      · exact h.mono rfl (fun p hp => World.waiting_settleTurn hp)
          (fun p hp => World.parked_settleTurn s.world chance ▸ hp)
          fun v hv => World.known_settleTurn hv chance
      · exact h
  | move m =>
      rw [Scene.step]
      split
      · rename_i hmove
        obtain ⟨hparked, hline⟩ := World.lines_of_isWhole (w := s.world) hmove.1
        refine h.mono rfl hline (fun p hp => hparked ▸ hp) fun v hv => ?_
        rcases World.hands_of_isWhole hr hmove.1 with ⟨-, heq⟩ | ⟨-, -, heq⟩
        · exact heq ▸ hv
        · exact heq ▸ freed_ne_none.2 hv
      · exact h

end Manned

/-! ## What is lost with the loop -/

/-- The notifications that are lost in an act: if it ends the loop, those in its queue. -/
def lostIn (s : Scene) (x : Act) : List Notification :=
  if s.world.handsOut = true ∧ (s.step x).world.handsOut = false then s.world.updates.queue else []

/-- The notifications that are lost in a history. -/
def lostBy (s : Scene) : List Act → List Notification
  | [] => []
  | x :: acts => s.lostIn x ++ (s.step x).lostBy acts

lemma lostBy_append (s : Scene) (before after : List Act) :
    s.lostBy (before ++ after) = s.lostBy before ++ (s.run before).lostBy after := by
  induction before generalizing s with
  | nil => rfl
  | cons x before ih => rw [List.cons_append, lostBy, lostBy, ih, List.append_assoc]; rfl

lemma lostBy_of_goes {acts : List Act} (hgoes : (s.run acts).world.handsOut = true) :
    s.lostBy acts = [] := by
  induction acts generalizing s with
  | nil => rfl
  | cons x acts ih =>
      have hstep : (s.step x).world.handsOut = true := by
        clear ih
        induction acts using List.reverseRecOn with
        | nil => exact hgoes
        | append_singleton acts y ih =>
            rw [← List.cons_append, run_append] at hgoes
            exact ih (handsOut_of_step hgoes)
      rw [lostBy, ih hgoes, lostIn, if_neg (by simp [hstep])]
      rfl

/-- The nodes of those who have one, after the end of the loop. -/
def holders (s : Scene) (lost : List Notification) : List NodeId :=
  s.errands.map (fun e => e.claim.node) ++ lost.map Notification.node

/-- **The loop is gone**, and these notifications with it: a node is free exactly if no call has taken it
and none of them is of it. -/
structure Bereft (lost : List Notification) (s : Scene) : Prop where
  roster : s.world.roster.Sound
  deaf : s.world.mail.Deaf
  hand : s.hand = .empty
  manned : s.Manned
  fair : Fair s.world.hands (s.holders lost)

variable {first : NodeId → Option Activity} {lost : List Notification}

/-! ## The end of the loop -/

/-- The claims, when the loop has nothing in hand. -/
lemma Sound.fair (h : s.Sound first) (hmanned : s.Manned) (hhand : s.hand.claim? = none) :
    Fair s.world.hands (s.world.line ++ s.holders s.world.updates.queue) := by
  have hline : s.world.line = s.world.updates.waiting.map fun p => p.2.node :=
    List.map_congr_left hmanned.line
  have hnodes : s.claims.map Claim.node
      = s.errands.map (fun e => e.claim.node) ++ s.world.updates.queue.map Notification.node ++
        s.world.line := by
    rw [hline]
    simp only [claims, hhand, Channel.messages, Option.toList_none, List.append_nil, List.map_append,
      List.map_map, List.append_assoc]
    rfl
  have hperm : (s.claims.map Claim.node).Perm (s.world.line ++ s.holders s.world.updates.queue) := by
    rw [hnodes]
    exact List.perm_append_comm
  refine Fair.perm ⟨fun v hand hv => ?_, h.desk.nodup, fun v hv => ?_⟩ hperm
  · obtain ⟨node, hnode, rfl⟩ := Option.map_eq_some_iff.1 hv
    rw [h.orderly.released_iff v node hnode, List.mem_map]
    constructor
    · rintro hall ⟨c, hc, heq⟩
      exact hall c hc heq
    · intro hnot c hc heq
      exact hnot ⟨c, hc, heq⟩
  · obtain ⟨c, hc, rfl⟩ := List.mem_map.1 hv
    have hc : c ∈ s.claims := hc
    simp only [claims, hhand, Option.toList_none, List.append_nil] at hc
    rcases List.mem_append.1 hc with hc | hc
    · obtain ⟨e, he, rfl⟩ := List.mem_map.1 hc
      exact hmanned.taken e he
    · obtain ⟨n, hn, rfl⟩ := List.mem_map.1 hc
      have hnoted : .noted n ∈ s.claims := by
        simp only [claims]
        exact List.mem_append_left _ (List.mem_append_right _ (List.mem_map_of_mem hn))
      obtain ⟨node, hnode, -⟩ := h.orderly.current n hnoted
      simp [World.hands, Claim.node, hnode]

/-- **The loop ends.** -/
lemma Sound.bereft (h : s.Sound first) (hmanned : s.Manned) {x : Act}
    (hgoes : s.world.handsOut = true) (hends : (s.step x).world.handsOut = false) :
    (s.step x).Bereft (s.lostIn x) := by
  have hmanned' := hmanned.step h.roster x
  have hlost : s.lostIn x = s.world.updates.queue := if_pos ⟨hgoes, hends⟩
  have hsame : (s.step x).world.loop.stage = s.world.loop.stage → False := by
    intro hstage
    rw [World.handsOut, hstage, ← World.handsOut, hgoes] at hends
    cases hends
  rw [hlost]
  cases x with
  | settle chance =>
      rw [step] at hends hmanned' hsame ⊢
      split
      · rename_i hhand
        rw [hhand] at hends hmanned' hsame
        have hfair := (h.fair hmanned (by rw [hhand]; rfl)).free s.world.line
        rw [← World.hands_settleTurn hgoes hends] at hfair
        exact ⟨World.settleTurn_sound h.roster hgoes chance, World.deaf_settleTurn hgoes hends, rfl,
          hmanned', hfair⟩
      · rename_i hhand
        exact (hsame (by split <;> first | rfl | exact absurd ‹_› hhand)).elim
  | move m =>
      rw [step] at hends hmanned' hsame ⊢
      split
      · rename_i hmove
        rw [if_pos hmove] at hends hmanned' hsame
        have hhand := hmove.2 (World.isOfLoop_of_end h.roster hmove.1 hgoes hends)
        have hfair := (h.fair hmanned (by rw [hhand]; rfl)).free s.world.line
        rcases World.hands_of_isWhole h.roster hmove.1 with ⟨heq, -⟩ | ⟨-, -, heq⟩
        · exact absurd (heq.trans hgoes) (Bool.eq_false_iff.1 hends)
        · rw [← heq] at hfair
          exact ⟨World.step_sound h.roster m, World.deaf_of_end hgoes hends, hhand, hmanned', hfair⟩
      · rename_i hmove
        rw [if_neg hmove] at hsame
        exact (hsame rfl).elim
  | _ => exact (hsame (stage_of_step (fun _ => Act.noConfusion) fun _ => Act.noConfusion)).elim

/-! ## After the end -/

lemma Bereft.ended (h : s.Bereft lost) : s.world.isRunning = false := by
  rw [Bool.eq_false_iff]
  exact fun hrunning => h.deaf.ended (World.handsOut_of_isRunning hrunning)

/-- A call takes a free node. -/
lemma Bereft.take (h : s.Bereft lost) {e : Errand} {v : NodeId} {node taken : Node}
    (hclaim : e.claim = .bare v) (hnode : s.world.shared.net.nodes.get? v = some node)
    (hacquire : node.tryAcquire = (true, taken)) : (s.take taken e).Bereft lost := by
  obtain ⟨hfree, rfl⟩ := tryAcquire_eq hacquire
  have hv : e.claim.node = v := by rw [hclaim]; rfl
  have hhands := World.hands_setNode hnode { node with handoff := .locked }
  have hmanned := h.manned.take { node with handoff := .locked } hclaim hnode
  have hroster : (s.world.mapNode v fun _ => { node with handoff := .locked }).roster = s.world.roster :=
    World.roster_mapNode _ v fun old hold => by rw [Option.some.inj (hold.symm.trans hnode)]
  have hfair := h.fair.take (v := v) (by simp [World.hands, hnode, hfree])
  rw [Scene.take, hv] at hmanned ⊢
  refine ⟨hroster ▸ h.roster, ⟨h.deaf.ended, h.deaf.closed, h.deaf.empty⟩, h.hand, hmanned, ?_⟩
  rw [holders, List.map_cons, hv, hhands]
  exact hfair

/-- A call under way takes its next step; the last one gives the node free. -/
lemma Bereft.proceed (h : s.Bereft lost) {e : Errand} (he : e ∈ s.errands) :
    (s.moved e (e.proceed s.world).1 (e.proceed s.world).2).Bereft lost := by
  have hroster := roster_proceed h.roster e
  have hmanned := h.manned.proceed he
  have hstage : (e.proceed s.world).1.loop.stage = s.world.loop.stage :=
    congrArg (fun i => i.loop.stage) (interior_proceed s.world e)
  -- the call is the first of the holders
  have hfair : Fair s.world.hands
      (e.claim.node :: { s with errands := s.errands.erase e }.holders lost) :=
    h.fair.perm (((List.perm_cons_erase he).map fun e => e.claim.node).append_right _)
  rcases e.proceed_cases s.world (h.manned.errands e he) with ⟨e', hnext, hgoes⟩ | ⟨who, n, rfl⟩ |
    ⟨call, v, outcome, rfl⟩
  · refine ⟨hroster, World.deaf_congr h.deaf hstage hgoes.updates, h.hand, hmanned, ?_⟩
    rw [← hgoes.hands, ← hgoes.node] at hfair
    rw [hnext]
    exact hfair
  · have hfate := World.enqueue_of_closed h.deaf.closed who n (World.Notifier.sent who)
    have hnode : who.node = n.node := h.manned.errands _ he
    have hupdates : (s.world.enqueue who n (World.Notifier.sent who)).updates = s.world.updates := by
      rw [hfate]
      rfl
    refine ⟨hroster, World.deaf_congr h.deaf hstage hupdates, h.hand, hmanned, ?_⟩
    have hhands : (s.world.enqueue who n (World.Notifier.sent who)).hands
        = freed [n.node] s.world.hands := by
      rw [hfate, ← hnode]
      exact World.hands_release s.world who.node
    show Fair (s.world.enqueue who n (World.Notifier.sent who)).hands _
    rw [hhands]
    exact hfair.free [n.node]
  · refine ⟨hroster, World.deaf_congr h.deaf hstage rfl, h.hand, hmanned, ?_⟩
    show Fair (s.world.mapNode v Node.release).hands _
    rw [World.hands_release]
    exact hfair.free [v]

/-- **Every act keeps the law**, and nothing more is lost. -/
lemma Bereft.step (h : s.Bereft lost) (x : Act) : (s.step x).Bereft lost := by
  have hended : s.world.handsOut = false := Bool.eq_false_iff.2 h.deaf.ended
  have hsame : ∀ w : World, w.roster = s.world.roster → w.loop.stage = s.world.loop.stage →
      w.updates = s.world.updates → w.hands = s.world.hands → (s.withWorld w).Manned →
      (s.withWorld w).Bereft lost := fun w hroster hstage hupdates hhands hmanned =>
    ⟨hroster ▸ h.roster, World.deaf_congr h.deaf hstage hupdates, h.hand, hmanned, hhands ▸ h.fair⟩
  have hmanned := h.manned.step h.roster x
  cases x with
  | poll call v a =>
      rw [Scene.step] at hmanned ⊢
      split at hmanned
      · exact hsame _ rfl rfl rfl rfl hmanned
      · split at hmanned
        · exact hsame _ rfl rfl rfl rfl hmanned
        · exact h.take rfl ‹_› ‹_›
  | ban call v =>
      rw [Scene.step] at hmanned ⊢
      split at hmanned
      · exact hsame _ rfl rfl rfl rfl hmanned
      · split at hmanned
        · exact hsame _ rfl rfl rfl rfl hmanned
        · exact h.take rfl ‹_› ‹_›
  | resumeBan call =>
      rw [Scene.step]
      split
      · exact h
      · split
        · exact h
        · split
          · exact h
          · have hunparked : (s.withWorld { s.world with
                parked := s.world.parked.filter fun p => p.1 ≠ call }).Bereft lost :=
              hsame _ rfl rfl rfl rfl
                (h.manned.mono rfl (fun p hp => hp) (fun p hp => (List.mem_filter.1 hp).1) fun v hv => hv)
            exact hunparked.take rfl ‹_› ‹_›
  | proceed e =>
      rw [Scene.step]
      split
      · exact h.proceed ‹_›
      · exact h
  | receive =>
      rw [Scene.step, h.hand, h.ended]
      exact h
  | takeOver | apply | release | settle =>
      rw [Scene.step, h.hand]
      exact h
  | move m =>
      rw [Scene.step] at hmanned ⊢
      split
      · rename_i hmove
        rw [if_pos hmove] at hmanned
        refine ⟨World.step_sound h.roster m, World.deaf_of_deaf h.roster h.deaf m, h.hand, hmanned, ?_⟩
        rcases World.hands_of_isWhole h.roster hmove.1 with ⟨-, heq⟩ | ⟨hgoes, -, -⟩
        · show Fair (s.world.step m).hands _
          exact heq ▸ h.fair
        · rw [hended] at hgoes
          cases hgoes
      · exact h

lemma Bereft.run (h : s.Bereft lost) (acts : List Act) : (s.run acts).Bereft lost := by
  induction acts generalizing s with
  | nil => exact h
  | cons x acts ih => exact ih (h.step x)

/-! ## Every run -/

/-- Whoever has taken a node has one that exists, at all times. -/
theorem manned_run (h : s.Sound first) (hmanned : s.Manned) {acts : List Act}
    (hgoes : (s.run acts).world.handsOut = true) : (s.run acts).Manned := by
  induction acts using List.reverseRecOn with
  | nil => exact hmanned
  | append_singleton acts x ih =>
      rw [run_append] at hgoes ⊢
      have hbefore := handsOut_of_step hgoes
      exact (ih hbefore).step (run_sound h hbefore).roster x

/-- **After the end of the loop** a node is free exactly if no call has taken it and no notification of it
was lost, in every scene that any acts lead to. -/
theorem bereft_of_run (h : s.Sound first) (hmanned : s.Manned) (hgoes : s.world.handsOut = true)
    {acts : List Act} (hends : (s.run acts).world.handsOut = false) :
    (s.run acts).Bereft (s.lostBy acts) := by
  induction acts using List.reverseRecOn with
  | nil =>
      rw [run_nil, hgoes] at hends
      cases hends
  | append_singleton acts x ih =>
      have hlast : s.lostBy (acts ++ [x]) = s.lostBy acts ++ (s.run acts).lostIn x := by
        rw [lostBy_append, lostBy, lostBy, List.append_nil]
      rw [run_append] at hends ⊢
      rw [hlast]
      cases hbefore : (s.run acts).world.handsOut with
      | true =>
          rw [lostBy_of_goes hbefore, List.nil_append]
          exact (run_sound h hbefore).bereft (manned_run h hmanned hbefore) hbefore hends
      | false =>
          have hnone : (s.run acts).lostIn x = [] := if_neg (by simp [hbefore])
          rw [hnone, List.append_nil]
          exact (ih hbefore).step x

end Scene

end MixRounds.Live
