import Mathlib.Data.List.Induction
import MixRounds.Proofs.Live.Delivery
import MixRounds.Proofs.Live.Desk

/-!
# The hand-off protocol

However the steps of polls, bans and turns of the loop are mixed (`Scene`), the law of the hand-off holds
as long as the loop goes on.

* **`Scene.step_sound`** — every act is an operation on the desk that keeps the law;
* **`Scene.run_orderly`** — hence in every scene that any acts lead to, a node is free exactly if no call
  has it and no notification of it is on its way or being applied; nobody has a node beside another; and
  the changes that the loop has applied to a node, followed by the one that is on its way, if any, are the
  changes that were made of it, a legal path from what it did at first to what it does now.
-/

namespace MixRounds.Live

open Notification (changesOf Path)

namespace Scene

/-- Who has which node, and what for. -/
def desk (s : Scene) : Desk := ⟨s.world.mail.node, s.claims, s.made, s.applied⟩

/-- What holds of a scene as long as the loop goes on. -/
structure Sound (first : NodeId → Option Activity) (s : Scene) : Prop where
  roster : s.world.roster.Sound
  is_open : s.world.updates.closed = false
  desk : s.desk.Sound first

variable {first : NodeId → Option Activity} {s : Scene}

lemma closed_of_mail {w w' : World} (h : w'.mail = w.mail) (hopen : w.updates.closed = false) :
    w'.updates.closed = false := by
  have hclosed : (w'.updates.closed = true) = (w.updates.closed = true) := congrArg Mail.closed h
  rw [hopen] at hclosed
  simpa using hclosed

/-- What leaves the mail alone leaves the desk alone. -/
lemma Sound.withWorld (h : s.Sound first) {w : World} (hroster : w.roster.Sound)
    (hmail : w.mail = s.world.mail) : (s.withWorld w).Sound first := by
  refine ⟨hroster, closed_of_mail hmail h.is_open, ?_⟩
  have hmessages : w.updates.messages = s.world.updates.messages := congrArg Mail.messages hmail
  have hdesk : (s.withWorld w).desk = s.desk := by
    simp only [Scene.desk, Scene.withWorld, claims, hmail, hmessages]
  exact hdesk ▸ h.desk

/-! ## A node is taken -/

lemma tryAcquire_eq {node taken : Node} (h : node.tryAcquire = (true, taken)) :
    node.handoff = .released ∧ taken = { node with handoff := .locked } := by
  have hfree := (handoff_of_tryAcquire h).1 rfl
  have htaken : node.tryAcquire.2 = taken := congrArg Prod.snd h
  refine ⟨hfree, ?_⟩
  rw [← htaken]
  simp [Node.tryAcquire, hfree, Handoff.tryAcquire]

/-- **A call takes its node.** -/
lemma Sound.take (h : s.Sound first) {e : Errand} {v : NodeId} {node taken : Node}
    (he : e.claim = .bare v) (hnode : s.world.shared.net.nodes.get? v = some node)
    (hacquire : node.tryAcquire = (true, taken)) : (s.take taken e).Sound first := by
  obtain ⟨hfree, rfl⟩ := tryAcquire_eq hacquire
  have hv : e.claim.node = v := by rw [he]; rfl
  have hroster : (s.world.mapNode v fun _ => { node with handoff := .locked }).roster = s.world.roster :=
    World.roster_mapNode _ v fun old hold => by rw [Option.some.inj (hold.symm.trans hnode)]
  have hmail := World.mail_setNode s.world hnode { node with handoff := .locked }
  have hstood : s.desk.node v = some (node.activity, .released) := by
    simp [Scene.desk, World.mail, hnode, hfree]
  have htaken := h.desk.take hstood
  rw [← he] at htaken
  rw [Scene.take, hv]
  refine ⟨hroster ▸ h.roster, h.is_open, ?_⟩
  simp only [Scene.desk, claims, hmail, List.map_cons, List.cons_append]
  exact htaken

/-! ## A call moves on -/

lemma roster_proceed {w : World} (h : w.roster.Sound) (e : Errand) : (e.proceed w).1.roster.Sound := by
  have honline : ∀ v, (w.bringOnline v).roster.Sound := by
    intro v
    rcases w.roster_bringOnline v with heq | ⟨hv, heq⟩ <;> rw [heq]
    · exact h
    · exact h.of_pool (h.tidy.add v) fun j hj => (Pool.mem_add.1 hj).elim (fun heq => heq ▸ hv) id
  cases e with
  | polling call v a =>
      rw [Errand.proceed]
      split
      · exact h
      · rename_i node hnode
        have hround := node.poll_round v a w.wall
        have hseen : (w.mapNode v fun _ => (node.poll v a w.wall).1).roster = w.roster :=
          World.roster_mapNode w v fun old hold => by
            rw [hround, Option.some.inj (hold.symm.trans hnode)]
        split <;> rename_i hpoll <;> rw [hpoll] at hseen <;> exact hseen.symm ▸ h
  | recorded call v change => cases change <;> exact honline v
  | banning call v =>
      rw [Errand.proceed]
      split
      · exact h
      · rename_i node hnode
        have hbanned : (w.mapNode v fun _ => (node.ban v w.wall).1).roster = w.roster :=
          World.roster_mapNode w v fun old hold => by
            rw [Option.some.inj (hold.symm.trans hnode)]
            rfl
        exact hbanned.symm ▸ h
  | sending who n =>
      show (w.enqueue who n _).roster.Sound
      rw [World.roster_enqueue]
      exact h
  | leaving call v outcome =>
      show (w.mapNode v Node.release).roster.Sound
      rw [World.roster_release]
      exact h

/-- The call `e` has moved on, and is now `next` if it is not over. -/
def moved (s : Scene) (e : Errand) (w : World) (next : Option Errand) : Scene :=
  { s with
    world := w
    errands := next.toList ++ s.errands.erase e
    made := s.made ++ (e.made? next).toList }

/-- The claim of a call under way is one of the claims. -/
lemma claims_perm {e : Errand} (he : e ∈ s.errands) :
    s.claims.Perm (e.claim :: { s with errands := s.errands.erase e }.claims) := by
  have hperm := (List.perm_cons_erase he).map Errand.claim
  exact (hperm.append_right _).append_right _

/-- A call moves on and has its node for the same thing as before. -/
lemma Sound.same (h : s.Sound first) {e : Errand} (he : e ∈ s.errands) (e' : Errand)
    (hclaim : e'.claim = e.claim) {w : World} (hroster : w.roster.Sound) (hmail : w.mail = s.world.mail) :
    (s.moved e w (some e')).Sound first := by
  have hmade : e.made? (some e') = none := by
    simp only [Errand.made?, Option.bind_some, hclaim]
    cases e.claim <;> rfl
  have hmessages : w.updates.messages = s.world.updates.messages := congrArg Mail.messages hmail
  refine ⟨hroster, closed_of_mail hmail h.is_open, ?_⟩
  have hdesk := h.desk.perm (claims_perm he)
  rw [← hclaim] at hdesk
  simp only [Scene.desk, moved, claims, hmail, hmessages, hmade, Option.toList_none, Option.toList_some,
    List.append_nil, List.map_cons, List.cons_append]
  exact hdesk

/-- A call moves on and has made a notification. -/
lemma Sound.note (h : s.Sound first) {e : Errand} {n : Notification} (he : e ∈ s.errands) (e' : Errand)
    (hclaim : e.claim = .bare n.node) (hclaim' : e'.claim = .noted n) {node seen : Node}
    (hnode : s.world.shared.net.nodes.get? n.node = some node) (hhandoff : seen.handoff = node.handoff)
    (hfrom : n.fromActivity = node.activity) (hto : n.toActivity = seen.activity)
    (hlegal : n.fromActivity = n.toActivity ∨ n.fromActivity.mayBecome n.toActivity = true)
    (hroster : (s.world.mapNode n.node fun _ => seen).roster.Sound) :
    (s.moved e (s.world.mapNode n.node fun _ => seen) (some e')).Sound first := by
  have hmade : e.made? (some e') = some n := by
    simp only [Errand.made?, hclaim, Option.bind_some, hclaim']
    rfl
  have hstood : s.world.mail.node n.node = some (n.fromActivity, node.handoff) := by
    simp [World.mail, hnode, hfrom]
  have hdesk := h.desk.perm (claims_perm he)
  rw [hclaim] at hdesk
  have hnoted := hdesk.note rfl hstood hlegal
  refine ⟨hroster, h.is_open, ?_⟩
  have hmail := World.mail_setNode s.world hnode seen
  rw [← hto, hhandoff] at hmail
  simp only [Scene.desk, moved, claims, hmail, hmade, hclaim', Option.toList_some, List.map_cons,
    List.cons_append]
  exact hnoted

lemma legal_of_isLegal {n : Notification} (h : n.IsLegal) :
    n.fromActivity = n.toActivity ∨ n.fromActivity.mayBecome n.toActivity = true := by
  rw [Notification.IsLegal] at h
  split at h
  · exact Or.inl h
  · exact Or.inr h

/-- A poll is heard by the node: it is refused, changes nothing, or makes a notification. -/
lemma Sound.polling (h : s.Sound first) {call : CallId} {v : NodeId} {a : Activity}
    (he : .polling call v a ∈ s.errands) :
    (s.moved (.polling call v a) ((Errand.polling call v a).proceed s.world).1
      ((Errand.polling call v a).proceed s.world).2).Sound first := by
  have hroster := roster_proceed h.roster (.polling call v a)
  rw [Errand.proceed] at hroster ⊢
  cases hnode : s.world.shared.net.nodes.get? v with
  | none => exact h.same he _ rfl h.roster rfl
  | some node =>
      have hcases := node.poll_cases v a s.world.wall
      have hhands := node.poll_handoff v a s.world.wall
      simp only [hnode] at hroster ⊢
      rcases hpoll : node.poll v a s.world.wall with ⟨seen, fault | _ | n⟩ <;>
        simp only [hpoll] at hroster hcases hhands ⊢
      · have hsame : seen.activity = node.activity := by simpa using hcases
        exact h.same he (.leaving call v (.refused fault)) rfl hroster
          (World.mail_setNode_same s.world seen hnode hsame hhands)
      · have hsame : seen.activity = node.activity := by simpa using hcases
        exact h.same he (.recorded call v none) rfl hroster
          (World.mail_setNode_same s.world seen hnode hsame hhands)
      · rcases hcases with ⟨-, hnone⟩ | ⟨m, hm, rfl, hfrom, hto, hlegal⟩
        · exact absurd rfl (hnone n)
        · cases hm
          exact h.note he (.recorded call n.node (some n)) rfl rfl hnode hhands hfrom hto
            (legal_of_isLegal hlegal) hroster

/-- A ban takes effect. -/
lemma Sound.banning (h : s.Sound first) {call : CallId} {v : NodeId} (he : .banning call v ∈ s.errands) :
    (s.moved (.banning call v) ((Errand.banning call v).proceed s.world).1
      ((Errand.banning call v).proceed s.world).2).Sound first := by
  have hroster := roster_proceed h.roster (.banning call v)
  rw [Errand.proceed] at hroster ⊢
  cases hnode : s.world.shared.net.nodes.get? v with
  | none => exact h.same he _ rfl h.roster rfl
  | some node =>
      simp only [hnode] at hroster ⊢
      exact h.note he (.sending (.ban call v) (node.ban v s.world.wall).2) rfl rfl hnode rfl rfl rfl
        (Or.inl rfl) hroster

/-- A call sends its notification, and the node goes with it. -/
lemma Sound.sending (h : s.Sound first) {who : Notifier} {n : Notification}
    (he : .sending who n ∈ s.errands) :
    (s.moved (.sending who n) (s.world.enqueue who n (World.Notifier.sent who)) none).Sound first := by
  have hmail := World.mail_enqueue s.world who n (World.Notifier.sent who)
  simp only [h.is_open, Bool.false_eq_true, if_false] at hmail
  have hmessages : (s.world.enqueue who n (World.Notifier.sent who)).updates.messages
      = s.world.updates.messages ++ [n] := congrArg Mail.messages hmail
  have hclosed : (s.world.enqueue who n (World.Notifier.sent who)).updates.closed = false := by
    have hclosed := congrArg Mail.closed hmail
    simpa [World.mail, h.is_open] using hclosed
  -- what the call was about to send is now the last on its way
  have hmoved : (Claim.noted n :: { s with errands := s.errands.erase (.sending who n) }.claims).Perm
      ((s.errands.erase (.sending who n)).map Errand.claim ++
        (s.world.updates.messages ++ [n]).map Claim.noted ++ s.hand.claim?.toList) := by
    simp only [claims, List.map_append, List.map_cons, List.map_nil, ← List.append_assoc]
    rw [List.append_assoc _ [Claim.noted n], List.singleton_append]
    exact List.perm_middle.symm
  refine ⟨roster_proceed h.roster (.sending who n), hclosed, ?_⟩
  have hdesk := (h.desk.perm (claims_perm he)).perm hmoved
  simp only [Scene.desk, moved, claims, hmessages, hmail, Errand.made?, Errand.claim,
    Option.toList_none, List.nil_append, List.append_nil]
  exact hdesk

/-- A call that has notified nothing gives its node free and is answered. -/
lemma Sound.leaving (h : s.Sound first) {call : CallId} {v : NodeId} {outcome : Outcome}
    (he : .leaving call v outcome ∈ s.errands) :
    (s.moved (.leaving call v outcome)
      ((s.world.mapNode v Node.release).answer call outcome) none).Sound first := by
  have hmail := World.mail_release s.world v
  have hfree := (h.desk.perm (claims_perm he)).free (c := .bare v) rfl (List.append_nil s.applied)
  refine ⟨roster_proceed h.roster (.leaving call v outcome), h.is_open, ?_⟩
  have hnode : ((s.world.mapNode v Node.release).answer call outcome).mail.node
      = (s.desk.pass v fun _ => .released).node := congrArg Mail.node hmail
  simp only [Scene.desk, moved, hnode, Errand.made?, Errand.claim, Option.bind_none,
    Option.toList_none, List.nil_append, List.append_nil]
  exact hfree

/-- **A call moves on.** -/
lemma Sound.proceed (h : s.Sound first) {e : Errand} (he : e ∈ s.errands) :
    (s.moved e (e.proceed s.world).1 (e.proceed s.world).2).Sound first := by
  have hroster := roster_proceed h.roster e
  cases e with
  | polling call v a => exact h.polling he
  | recorded call v change =>
      have hmail := World.mail_bringOnline s.world v
      cases change with
      | none => exact h.same he (.leaving call v .unchanged) rfl hroster hmail
      | some n => exact h.same he (.sending (.poll call v) n) rfl hroster hmail
  | banning call v => exact h.banning he
  | sending who n => exact h.sending he
  | leaving call v outcome => exact h.leaving he

/-! ## The loop moves on -/

lemma Sound.receive (h : s.Sound first) (hhand : s.hand = .empty) {n : Notification}
    {ch : Channel Notifier Notification} (hreceive : s.world.updates.receive? = some (n, ch)) :
    { s with world := { s.world with updates := ch }, hand := .received n }.Sound first := by
  have hmessages := Channel.messages_receive? hreceive
  have hclosed := Channel.closed_receive? hreceive
  refine ⟨h.roster, hclosed.trans h.is_open, h.desk.perm ?_⟩
  simp only [Scene.desk, claims, hmessages, hhand, Hand.claim?, Option.toList_none, Option.toList_some,
    List.append_nil, List.map_cons]
  exact List.perm_middle.trans (List.perm_append_singleton _ _).symm

lemma Sound.takeOver (h : s.Sound first) {n : Notification} (hhand : s.hand = .received n) :
    { s with world := s.world.takenOver n, hand := .owned n }.Sound first := by
  have hpass := h.desk.pass n.node (f := fun hands => hands.takeOwnership.2) fun hands => by
    cases hands <;> simp [Handoff.takeOwnership]
  refine ⟨(World.roster_takenOver s.world n).symm ▸ h.roster, h.is_open, ?_⟩
  have hnode : (s.world.takenOver n).mail.node
      = (s.desk.pass n.node fun hands => hands.takeOwnership.2).node :=
    congrArg Mail.node (World.mail_takenOver s.world n)
  have hclaims : { s with world := s.world.takenOver n, hand := .owned n }.claims = s.claims := by
    simp only [claims, hhand]
    rfl
  simp only [Scene.desk, hnode, hclaims]
  exact hpass

lemma Sound.apply (h : s.Sound first) {n : Notification} (hhand : s.hand = .owned n) :
    let result := s.world.shared.apply s.world.settings s.world.wall s.world.clock s.world.loop.reserved n
    { s with world := { s.world with shared := result.1 }, hand := .applied n result.2 }.Sound first := by
  intro result
  have happlied : Shared.Applied s.world.settings s.world.wall s.world.loop.reserved n.node
      (s.world.shared.kindOf n) s.world.shared result.1 :=
    .apply fun id hid => World.exists_round h.roster hid
  have hmail : ({ s.world with shared := result.1 } : World).mail = s.world.mail :=
    World.mail_of_applied happlied
  refine ⟨World.applied_sound h.roster happlied, h.is_open, ?_⟩
  have hclaims : { s with
      world := { s.world with shared := result.1 }, hand := .applied n result.2 }.claims = s.claims := by
    simp only [claims, hhand]
    rfl
  simp only [Scene.desk, hmail, hclaims]
  exact h.desk

lemma mail_reckon (w : World) (n : Notification) (result : Except Fault Effect) :
    (w.reckon n result).mail = w.mail ∧ (w.reckon n result).roster = w.roster := by
  rw [World.reckon.eq_def]
  split <;> exact ⟨rfl, rfl⟩

lemma Sound.release (h : s.Sound first) {n : Notification} {result : Except Fault Effect}
    (hhand : s.hand = .applied n result) :
    { s with
      world := (s.world.mapNode n.node Node.release).reckon n result
      hand := .settling
      applied := s.applied ++ [n] }.Sound first := by
  obtain ⟨hmail, hroster⟩ := mail_reckon (s.world.mapNode n.node Node.release) n result
  have hclosed := closed_of_mail hmail h.is_open
  have hmessages : ((s.world.mapNode n.node Node.release).reckon n result).updates.messages
      = s.world.updates.messages := congrArg Mail.messages hmail
  rw [World.mail_release] at hmail
  rw [World.roster_release] at hroster
  have hlast : s.claims.Perm
      (.noted n :: (s.errands.map Errand.claim ++ s.world.updates.messages.map Claim.noted)) := by
    simp only [claims, hhand, Hand.claim?, Option.toList_some]
    exact List.perm_append_singleton _ _
  have hfree := (h.desk.perm hlast).free (c := .noted n) rfl rfl
  refine ⟨hroster.symm ▸ h.roster, hclosed, ?_⟩
  simp only [Scene.desk, claims, hmail, hmessages, Hand.claim?, Option.toList_none, List.append_nil]
  exact hfree

/-! ## Moves that are not taken apart -/

lemma mail_of_isWhole {w : World} (hr : w.roster.Sound) {m : Move} (hwhole : m.isWhole = true)
    (hgoes : (w.step m).handsOut = true) : (w.step m).mail = w.mail := by
  rcases m.call_or_work with hcall | hwork | rfl | rfl | rfl | ⟨source, chance, rfl⟩
  · cases m with
    | request r => exact World.mail_request w r
    | admitUpdate => exact World.mail_admitUpdate w
    | admitRequest => exact World.mail_admitRequest w
    | poll | ban | resumeBan => cases hwhole
    | _ => cases hcall
  · exact World.mail_of_isWork hr hwork
  · exact World.mail_launch w
  · exact World.mail_conclude w
  · cases hgoes
  · dsimp only [World.step]
    dsimp only [World.step] at hgoes
    rw [World.iterate] at hgoes ⊢
    split
    · rename_i hrunning
      rw [if_pos hrunning] at hgoes
      cases htake : w.take? source with
      | none => rfl
      | some taken =>
          simp only [htake] at hgoes
          dsimp only
          rw [World.mail_settleTurn hgoes]
          cases source with
          | updates => cases hwhole
          | events =>
              obtain ⟨⟨e, ch⟩, -, rfl⟩ := Option.map_eq_some_iff.1 htake
              exact World.mail_processEvent _ e
          | requests =>
              obtain ⟨⟨r, ch⟩, -, rfl⟩ := Option.map_eq_some_iff.1 htake
              cases r <;> rfl
    · rfl

/-! ## Every run -/

lemma interior_proceed (w : World) (e : Errand) : (e.proceed w).1.interior = w.interior := by
  cases e with
  | polling call v a =>
      rw [Errand.proceed]
      split
      · rfl
      · split <;> rfl
  | recorded call v change => cases change <;> exact World.interior_bringOnline w v
  | banning call v =>
      rw [Errand.proceed]
      split <;> rfl
  | sending who n => exact World.interior_enqueue w who n _
  | leaving call v outcome => rfl

/-- Only the end of a turn and a move that is not taken apart change where the loop stands. -/
lemma stage_of_step {x : Act} (hsettle : ∀ chance, x ≠ .settle chance) (hmove : ∀ m, x ≠ .move m) :
    (s.step x).world.loop.stage = s.world.loop.stage := by
  cases x with
  | settle chance => exact absurd rfl (hsettle chance)
  | move m => exact absurd rfl (hmove m)
  | proceed e =>
      have hstage := congrArg (fun i => i.loop.stage) (interior_proceed s.world e)
      rw [step]
      split
      · exact hstage
      · rfl
  | poll call v a =>
      rw [step]
      split
      · rfl
      · split <;> rfl
  | ban call v =>
      rw [step]
      split
      · rfl
      · split <;> rfl
  | resumeBan call =>
      rw [step]
      split
      · rfl
      · split
        · rfl
        · split <;> rfl
  | receive | takeOver | apply =>
      rw [step]
      split <;> rfl
  | release =>
      rw [step]
      split
      · rw [World.reckon.eq_def]
        split <;> rfl
      · rfl

/-- A loop that has come to its end does not come back. -/
lemma handsOut_of_step {x : Act} (hgoes : (s.step x).world.handsOut = true) :
    s.world.handsOut = true := by
  have hsame : ∀ w : World, w.loop.stage = s.world.loop.stage → w.handsOut = true →
      s.world.handsOut = true := fun w heq h => by rwa [World.handsOut, ← heq]
  cases x with
  | settle chance =>
      rw [step] at hgoes
      split at hgoes
      · refine hsame _ ?_ hgoes
        dsimp only at hgoes ⊢
        rcases World.settleTurn_of_handsOut hgoes with heq | heq <;> rw [heq]
        exact (World.assembleFrom_frame _ chance s.world).2.2.2
      · exact hgoes
  | move m =>
      rw [step] at hgoes
      split at hgoes
      · exact World.handsOut_of_step hgoes
      · exact hgoes
  | _ => exact hsame _ (stage_of_step (fun _ => Act.noConfusion) fun _ => Act.noConfusion) hgoes

/-- **Every act keeps the law of the hand-off**, as long as the loop goes on. -/
theorem step_sound (h : s.Sound first) {x : Act} (hgoes : (s.step x).world.handsOut = true) :
    (s.step x).Sound first := by
  have hbefore := handsOut_of_step hgoes
  cases x with
  | poll call v a =>
      rw [step]
      split
      · exact h.withWorld h.roster rfl
      · split
        · exact h.withWorld h.roster rfl
        · exact h.take rfl ‹_› ‹_›
  | ban call v =>
      rw [step]
      split
      · exact h.withWorld h.roster rfl
      · split
        · exact h.withWorld h.roster rfl
        · exact h.take rfl ‹_› ‹_›
  | resumeBan call =>
      rw [step]
      split
      · exact h
      · split
        · exact h
        · split
          · exact h
          · have hunparked := h.withWorld (w := { s.world with
              parked := s.world.parked.filter fun p => p.1 ≠ call }) h.roster rfl
            exact hunparked.take rfl ‹_› ‹_›
  | proceed e =>
      rw [step]
      split
      · exact h.proceed ‹_›
      · exact h
  | receive =>
      rw [step]
      split
      · exact h.receive ‹_› ‹_›
      · exact h
  | takeOver =>
      rw [step]
      split
      · exact h.takeOver ‹_›
      · exact h
  | apply =>
      rw [step]
      split
      · exact h.apply ‹_›
      · exact h
  | release =>
      rw [step]
      split
      · exact h.release ‹_›
      · exact h
  | settle chance =>
      rw [step] at hgoes ⊢
      split
      · rename_i hhand
        rw [hhand] at hgoes
        have hsettled := h.withWorld (World.settleTurn_sound h.roster hbefore chance)
          (World.mail_settleTurn hgoes)
        have hclaims : { s with world := s.world.settleTurn chance, hand := .empty }.claims
            = (s.withWorld (s.world.settleTurn chance)).claims := by
          simp only [claims, withWorld, hhand]
          rfl
        refine ⟨hsettled.roster, hsettled.is_open, ?_⟩
        simp only [Scene.desk, hclaims]
        exact hsettled.desk
      · exact h
  | move m =>
      rw [step] at hgoes ⊢
      split
      · rename_i hmove
        rw [if_pos hmove] at hgoes
        exact h.withWorld (World.step_sound h.roster m) (mail_of_isWhole h.roster hmove.1 hgoes)
      · exact h

theorem run_sound (h : s.Sound first) {acts : List Act} (hgoes : (s.run acts).world.handsOut = true) :
    (s.run acts).Sound first := by
  induction acts using List.reverseRecOn with
  | nil => exact h
  | append_singleton acts x ih =>
      rw [run_append] at hgoes ⊢
      exact step_sound (ih (handsOut_of_step hgoes)) hgoes

/-- What can be relied on while calls are under way. -/
structure Orderly (first : NodeId → Option Activity) (s : Scene) : Prop where
  /-- A node is free exactly if no call has taken it, and no notification of it is on its way or being
  applied. -/
  released_iff : ∀ v node, s.world.shared.net.nodes.get? v = some node →
    (node.handoff = .released ↔ ∀ c ∈ s.claims, c.node ≠ v)
  /-- Of one node there is at most one such call or notification. -/
  once : (s.claims.map Claim.node).Nodup
  /-- A node does what the notification says that is on its way or being applied. -/
  current : ∀ n, .noted n ∈ s.claims →
    ∃ node, s.world.shared.net.nodes.get? n.node = some node ∧ node.activity = n.toActivity
  /-- The changes that were made were applied in their order, up to the one that is on its way. -/
  order : ∀ v, changesOf v s.made
    = changesOf v s.applied ++ changesOf v (s.claims.filterMap Claim.note?)
  /-- The changes that were applied lead from what the node did at first to what the loop knows of it, and
  from there the one that is on its way leads to what it does. -/
  path : ∀ v a, first v = some a → ∃ b node, Path a (changesOf v s.applied) b ∧
    s.world.shared.net.nodes.get? v = some node ∧
      Path b (changesOf v (s.claims.filterMap Claim.note?)) node.activity

lemma node_of_mail {w : World} {v : NodeId} {a : Activity} {hands : Handoff}
    (h : w.mail.node v = some (a, hands)) :
    ∃ node, w.shared.net.nodes.get? v = some node ∧ node.activity = a := by
  obtain ⟨node, hnode, heq⟩ := Option.map_eq_some_iff.1 h
  exact ⟨node, hnode, congrArg Prod.fst heq⟩

lemma Sound.orderly (h : s.Sound first) : s.Orderly first where
  released_iff v node hnode :=
    h.desk.released_iff v node.activity node.handoff (by simp [Scene.desk, World.mail, hnode])
  once := h.desk.nodup
  current n hn := (h.desk.current n hn).elim fun _ hnode => node_of_mail hnode
  order := h.desk.order
  path v a ha := by
    obtain ⟨b, hands, hnode, hpath⟩ := h.desk.path v a ha
    obtain ⟨node, hget, rfl⟩ := node_of_mail hnode
    rw [h.desk.order v] at hpath
    obtain ⟨c, happlied, hpending⟩ := Notification.path_append.1 hpath
    exact ⟨c, node, happlied, hget, hpending⟩

lemma create_sound (settings : Settings) (latency : Latency) (isDisabled : NodeId → Bool)
    {net : Network} (wall : Instant) (hidle : net.Idle) (hfree : net.Free) :
    (of (World.create settings latency isDisabled net wall)).Sound
      fun v => (net.nodes.get? v).map Node.activity := by
  refine ⟨World.create_sound settings latency isDisabled wall hidle, rfl, ?_⟩
  refine ⟨fun v a hands hv => ?_, List.nodup_nil, fun n hn => absurd hn List.not_mem_nil, fun v => rfl,
    fun v a hv => ?_⟩
  · obtain ⟨node, hnode, heq⟩ := Option.map_eq_some_iff.1 hv
    cases heq
    exact iff_of_true (hfree v node hnode) fun c hc => by cases hc
  · obtain ⟨node, hnode, rfl⟩ := Option.map_eq_some_iff.1 hv
    exact ⟨node.activity, node.handoff, Option.map_eq_some_iff.2 ⟨node, hnode, rfl⟩, rfl⟩

/-- **The hand-off protocol**, in every scene that any acts lead to, as long as the loop goes on. -/
theorem run_orderly (settings : Settings) (latency : Latency) (isDisabled : NodeId → Bool)
    {net : Network} (wall : Instant) (hidle : net.Idle) (hfree : net.Free) (acts : List Act) :
    let s := (of (World.create settings latency isDisabled net wall)).run acts
    s.world.handsOut = true → s.Orderly fun v => (net.nodes.get? v).map Node.activity :=
  fun hgoes => (run_sound (create_sound settings latency isDisabled wall hidle hfree) hgoes).orderly

/-- Two polls at the same time, a third that comes too late, and a ban that has to wait. -/
def crowd : List Act :=
  [.move .launch, .poll 0 "a" .waiting, .poll 1 "b" .waiting, .proceed (.polling 1 "b" .waiting),
    .poll 2 "a" .error, .ban 3 "b", .proceed (.polling 0 "a" .waiting)]

/-- In the middle of it both nodes are taken, and a notification is made of each. -/
theorem run_orderly_of_crowd : (World.smallNetwork ["a", "b"]).Idle ∧
    (World.smallNetwork ["a", "b"]).Free ∧
    let s := (of (World.small ["a", "b"])).run crowd
    s.world.handsOut = true ∧ s.claims.map Claim.node = ["a", "b"] ∧
      s.Orderly fun v => ((World.smallNetwork ["a", "b"]).nodes.get? v).map Node.activity := by
  have hgoes : ((of (World.small ["a", "b"])).run crowd).world.handsOut = true := by decide +kernel
  exact ⟨World.idle_smallNetwork _, World.free_smallNetwork _, hgoes, by decide +kernel,
    run_orderly _ _ _ _ (World.idle_smallNetwork _) (World.free_smallNetwork _) crowd hgoes⟩

end Scene

end MixRounds.Live
