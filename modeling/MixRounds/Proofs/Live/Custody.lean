import MixRounds.Proofs.Live.Handover
import MixRounds.Proofs.Live.Reception
import MixRounds.Proofs.Live.Sending

/-!
# In whose hands a node is

Of what the mail says of a node, this file keeps who has it: nobody, a caller, or the loop
(`World.hands`).  `Fair` is the law that ties this to a list of holders: each of them has one node, for
itself, and every other node is free.  Nodes are taken and given free one by one (`Fair.take`,
`Fair.free`).

Few moves give a node free or take one.  Of those that are not taken apart it is only the end of the loop:
whoever is in line with a notification is turned away and gives the node free, while of the nodes whose
notifications are in the queue nothing is heard any more (**`World.hands_of_isWhole`**,
`World.hands_settleTurn`).
-/

namespace MixRounds.Live

/-! ## Nodes in hands -/

/-- The hands in which nodes are, once some of them have been given free. -/
def freed (vs : List NodeId) (hands : NodeId → Option Handoff) (v : NodeId) : Option Handoff :=
  if v ∈ vs then (hands v).map fun _ => .released else hands v

@[simp] lemma freed_nil (hands : NodeId → Option Handoff) : freed [] hands = hands := by
  funext v
  simp [freed]

lemma freed_freed (us vs : List NodeId) (hands : NodeId → Option Handoff) :
    freed vs (freed us hands) = freed (us ++ vs) hands := by
  funext v
  by_cases hu : v ∈ us <;> by_cases hv : v ∈ vs <;> simp [freed, hu, hv, Function.comp_def]

lemma freed_ne_none {vs : List NodeId} {hands : NodeId → Option Handoff} {v : NodeId} :
    freed vs hands v ≠ none ↔ hands v ≠ none := by
  rw [freed]
  split <;> simp

/-- Each of these nodes is known and in the hands of one holder, and all others are free. -/
structure Fair (hands : NodeId → Option Handoff) (holders : List NodeId) : Prop where
  released_iff : ∀ v h, hands v = some h → (h = .released ↔ v ∉ holders)
  nodup : holders.Nodup
  known : ∀ v ∈ holders, hands v ≠ none

namespace Fair

variable {hands : NodeId → Option Handoff} {holders : List NodeId}

lemma perm (h : Fair hands holders) {holders' : List NodeId} (hperm : holders.Perm holders') :
    Fair hands holders' where
  released_iff v h' hv := (h.released_iff v h' hv).trans (by rw [hperm.mem_iff])
  nodup := hperm.nodup_iff.1 h.nodup
  known v hv := h.known v (hperm.mem_iff.2 hv)

/-- A free node is taken. -/
lemma take (h : Fair hands holders) {v : NodeId} (hv : hands v = some .released) :
    Fair (fun j => if j = v then some .locked else hands j) (v :: holders) where
  released_iff j hand hj := by
    split at hj
    · rename_i heq
      cases hj
      simp [heq]
    · rename_i hne
      rw [h.released_iff j hand hj]
      simp [hne]
  nodup := List.nodup_cons.2 ⟨(h.released_iff v _ hv).1 rfl, h.nodup⟩
  known j hj := by
    split
    · exact Option.some_ne_none _
    · rename_i hne
      exact h.known j ((List.mem_cons.1 hj).resolve_left hne)

/-- Some holders give their nodes free. -/
lemma free (vs : List NodeId) {rest : List NodeId} (h : Fair hands (vs ++ rest)) :
    Fair (freed vs hands) rest where
  released_iff v hand hv := by
    have hapart := List.nodup_append.1 h.nodup
    rw [freed] at hv
    split at hv
    · rename_i hmem
      obtain ⟨_, -, rfl⟩ := Option.map_eq_some_iff.1 hv
      simpa using fun hrest => hapart.2.2 v hmem v hrest rfl
    · rename_i hmem
      rw [h.released_iff v hand hv]
      simp [hmem]
  nodup := (List.nodup_append.1 h.nodup).2.1
  known v hv := freed_ne_none.2 (h.known v (List.mem_append_right vs hv))

end Fair

namespace World

variable {w : World}

/-- In whose hands a node is. -/
def hands (w : World) (v : NodeId) : Option Handoff := (w.shared.net.nodes.get? v).map Node.handoff

/-- The nodes of those who are in line with a notification. -/
def line (w : World) : List NodeId := w.updates.waiting.map fun p => p.1.node

lemma hands_eq (w : World) : w.hands = fun v => (w.mail.node v).map Prod.snd := by
  funext v
  simp [hands, mail, Function.comp_def]

lemma hands_of_mail {w' : World} (h : w'.mail = w.mail) : w'.hands = w.hands := by
  rw [hands_eq, hands_eq, h]

lemma hands_of_nodes {w' : World} (h : w'.shared.net.nodes = w.shared.net.nodes) : w'.hands = w.hands := by
  funext v
  rw [hands, h, hands]

lemma handsOut_of_mail {w' : World} (h : w'.mail = w.mail) : w'.handsOut = w.handsOut := by
  have hrunning : (w'.handsOut = true) = (w.handsOut = true) := congrArg Mail.running h
  exact Bool.eq_iff_iff.2 (iff_of_eq hrunning)

/-- Where the loop stands and what is in its queue decide whether it is deaf. -/
lemma deaf_congr {w' : World} (h : w.mail.Deaf) (hstage : w'.loop.stage = w.loop.stage)
    (hupdates : w'.updates = w.updates) : w'.mail.Deaf := by
  refine ⟨fun hgoes => h.ended ?_, ?_, ?_⟩
  · have hgoes : w'.handsOut = true := hgoes
    rwa [handsOut, hstage] at hgoes
  · show w'.updates.closed = true
    exact hupdates ▸ h.closed
  · show w'.updates.messages = []
    exact hupdates ▸ h.empty

lemma hands_setNode {v : NodeId} {old : Node} (hold : w.shared.net.nodes.get? v = some old)
    (node : Node) : (w.mapNode v fun _ => node).hands
      = fun j => if j = v then some node.handoff else w.hands j := by
  rw [hands_eq, mail_setNode w hold, hands_eq]
  funext j
  dsimp only
  split <;> rfl

/-- A node that keeps its hands. -/
lemma hands_setNode_same {v : NodeId} {old : Node} (hold : w.shared.net.nodes.get? v = some old)
    (node : Node) (hsame : node.handoff = old.handoff) : (w.mapNode v fun _ => node).hands = w.hands := by
  rw [hands_setNode hold]
  funext j
  split
  · rename_i heq
    rw [heq, hands, hold, hsame]
    rfl
  · rfl

lemma hands_mapNode_ne_none {v u : NodeId} {f : Node → Node} :
    (w.mapNode u f).hands v ≠ none ↔ w.hands v ≠ none := by
  simp only [hands, mapNode, mapShared, Shared.mapNode, Network.mapNode, Table.get?_modify]
  split <;> simp

@[simp] lemma hands_release (w : World) (v : NodeId) :
    (w.mapNode v Node.release).hands = freed [v] w.hands := by
  rw [hands_eq, mail_release, hands_eq]
  funext j
  by_cases hj : j = v <;> simp [freed, hj, Function.comp_def]

/-! ## The end of the loop -/

lemma hands_turnAways (callers : List Notifier) (w : World) :
    (callers.foldl turnAway w).hands = freed (callers.map Notifier.node) w.hands := by
  induction callers generalizing w with
  | nil => simp
  | cons who rest ih =>
      have hone : (w.turnAway who).hands = freed [who.node] w.hands := hands_release w who.node
      rw [List.foldl_cons, ih, hone, freed_freed]
      rfl

/-- **Whoever is in line gives the node free**; what was queued has nobody who would. -/
lemma hands_closeQueues (w : World) : w.closeQueues.hands = freed w.line w.hands := by
  have hanswered : ∀ (calls : List CallId) (w : World),
      (calls.foldl (fun w call => w.answer call (.refused .channelClosed)) w).hands = w.hands :=
    foldl_frame hands fun _ _ => rfl
  refine (hanswered _ _).trans ((hands_turnAways _ _).trans ?_)
  rw [List.map_map]
  rfl

lemma hands_finish (w : World) (result : Except Setback Unit) :
    (w.finish result).hands = freed w.line w.hands := hands_closeQueues w

/-- A turn that ends the loop. -/
lemma hands_settleTurn (hgoes : w.handsOut = true) {chance : Nat → Shuffle}
    (hends : (w.settleTurn chance).handsOut = false) :
    (w.settleTurn chance).hands = freed w.line w.hands := by
  obtain ⟨w', result, heq, hnodes, hupdates⟩ := finishes_of_end hgoes hends
  rw [heq, hands_finish, line, hupdates, ← line, hands_of_nodes hnodes]

lemma parked_settleTurn (w : World) (chance : Nat → Shuffle) :
    (w.settleTurn chance).parked = w.parked :=
  read_settleTurn parked (congrArg Reception.parked (reception_assemble w chance)) parked_acknowledge
    fun w _ => parked_closeQueues w

/-- At the end of a turn no node gets lost, and nobody joins the line. -/
lemma known_settleTurn {v : NodeId} (hv : w.hands v ≠ none) (chance : Nat → Shuffle) :
    (w.settleTurn chance).hands v ≠ none := by
  rcases w.settleTurn_stays_or_finishes chance with ⟨hnodes, -⟩ | ⟨w', result, heq, hnodes, -⟩
  · rwa [hands_of_nodes hnodes]
  · rw [heq, hands_finish, freed_ne_none, hands_of_nodes hnodes]
    exact hv

lemma waiting_settleTurn {chance : Nat → Shuffle} {p : Notifier × Notification}
    (hp : p ∈ (w.settleTurn chance).updates.waiting) : p ∈ w.updates.waiting := by
  rcases w.settleTurn_stays_or_finishes chance with ⟨-, hupdates, -⟩ | ⟨w', result, heq, -⟩
  · rwa [hupdates] at hp
  · rw [heq] at hp
    cases hp

/-! ## Moves that are not taken apart -/

/-- The loop destroys itself, or turns to an event or a request. -/
lemma drop_or_iterate {m : Move} (hwhole : m.isWhole = true) (hpostal : m.isPostal = true) :
    m = .drop ∨ ∃ source chance, m = .iterate source chance ∧ source ≠ .updates := by
  cases m with
  | drop => exact Or.inl rfl
  | iterate source chance => exact Or.inr ⟨source, chance, rfl, by rintro rfl; cases hwhole⟩
  | poll | ban | resumeBan => cases hwhole
  | _ => cases hpostal

/-- A turn that applies no notification. -/
lemma iterate_of_ne_updates {source : Source} (hsource : source ≠ .updates) (chance : Nat → Shuffle) :
    w.iterate source chance = w ∨ w.isRunning = true ∧ ∃ w' : World, w'.mail = w.mail ∧
      w'.updates = w.updates ∧ w'.parked = w.parked ∧ w'.handsOut = w.handsOut ∧
        w.iterate source chance = w'.settleTurn chance := by
  rw [iterate]
  split
  · rename_i hrunning
    cases htake : w.take? source with
    | none => exact Or.inl rfl
    | some taken =>
        obtain ⟨message, w'⟩ := taken
        refine Or.inr ⟨hrunning, w'.process message, ?_⟩
        have hstage : (w'.process message).handsOut = w'.handsOut := by
          rw [handsOut, stage_process, handsOut]
        have hprocess := process_eq w' message
        cases source with
        | updates => exact absurd rfl hsource
        | events =>
            obtain ⟨⟨e, ch⟩, -, heq⟩ := Option.map_eq_some_iff.1 htake
            cases heq
            exact ⟨mail_processEvent _ e, by rw [hprocess], by rw [hprocess], hstage, rfl⟩
        | requests =>
            obtain ⟨⟨r, ch⟩, -, heq⟩ := Option.map_eq_some_iff.1 htake
            cases heq
            cases r <;> exact ⟨rfl, rfl, rfl, hstage, rfl⟩
  · exact Or.inl rfl

/-- Only the loop's own moves end it. -/
lemma isOfLoop_of_end (hr : w.roster.Sound) {m : Move} (hwhole : m.isWhole = true)
    (hgoes : w.handsOut = true) (hends : (w.step m).handsOut = false) : m.isOfLoop = true := by
  cases hpostal : m.isPostal with
  | false =>
      rw [handsOut_of_mail (mail_of_step hr hpostal), hgoes] at hends
      cases hends
  | true => rcases drop_or_iterate hwhole hpostal with rfl | ⟨source, chance, rfl, -⟩ <;> rfl

/-- **What becomes of the nodes** in a move that is not taken apart: nothing, or it ends the loop. -/
theorem hands_of_isWhole (hr : w.roster.Sound) {m : Move} (hwhole : m.isWhole = true) :
    (w.step m).handsOut = w.handsOut ∧ (w.step m).hands = w.hands ∨
      w.handsOut = true ∧ (w.step m).handsOut = false ∧ (w.step m).hands = freed w.line w.hands := by
  cases hpostal : m.isPostal with
  | false =>
      have hmail := mail_of_step hr hpostal
      exact Or.inl ⟨handsOut_of_mail hmail, hands_of_mail hmail⟩
  | true =>
      rcases drop_or_iterate hwhole hpostal with rfl | ⟨source, chance, rfl, hsource⟩
      · dsimp only [step, drop]
        split <;> rename_i hstage
        · exact Or.inr ⟨by simp [handsOut, hstage], rfl, hands_closeQueues w⟩
        · exact Or.inr ⟨by simp [handsOut, hstage], rfl, hands_closeQueues w⟩
        · refine Or.inl ⟨?_, rfl⟩
          simp only [handsOut]
      · dsimp only [step]
        rcases iterate_of_ne_updates (w := w) hsource chance with
          heq | ⟨hrunning, w', hmail, hupdates, -, hgoes', heq⟩
        · rw [heq]
          exact Or.inl ⟨rfl, rfl⟩
        · have hgoes := handsOut_of_isRunning hrunning
          have hline : w'.line = w.line := by rw [line, hupdates, line]
          rw [heq]
          cases hends : (w'.settleTurn chance).handsOut with
          | true =>
              exact Or.inl ⟨hgoes.symm,
                (hands_of_mail (mail_settleTurn hends)).trans (hands_of_mail hmail)⟩
          | false =>
              refine Or.inr ⟨hgoes, rfl, ?_⟩
              rw [hands_settleTurn (hgoes'.trans hgoes) hends, hline, hands_of_mail hmail]

/-- **Nobody joins a line** in a move that is not taken apart, and no ban that waits for its node goes on. -/
lemma lines_of_isWhole {m : Move} (hwhole : m.isWhole = true) :
    (w.step m).parked = w.parked ∧ ∀ p ∈ (w.step m).updates.waiting, p ∈ w.updates.waiting := by
  rcases m.call_or_work with hcall | hwork | rfl | rfl | rfl | ⟨source, chance, rfl⟩
  · cases m with
    | request r =>
        dsimp only [step, request]
        split <;> exact ⟨rfl, fun p hp => hp⟩
    | admitUpdate =>
        dsimp only [step, admitUpdate]
        split
        · exact ⟨rfl, fun p hp => hp⟩
        · rename_i who ch hadmit
          obtain ⟨n, hwaiting⟩ := Channel.waiting_admit? hadmit
          exact ⟨rfl, fun p hp => hwaiting ▸ List.mem_cons_of_mem _ hp⟩
    | admitRequest =>
        dsimp only [step, admitRequest]
        split <;> exact ⟨rfl, fun p hp => hp⟩
    | poll | ban | resumeBan => cases hwhole
    | _ => cases hcall
  · have hexterior := exterior_of_isWork (w := w) hwork
    have hupdates : (w.step m).updates = w.updates := congrArg Exterior.updates hexterior
    exact ⟨congrArg Exterior.parked hexterior, fun p hp => hupdates ▸ hp⟩
  · dsimp only [step, launch]
    split <;> exact ⟨rfl, fun p hp => hp⟩
  · dsimp only [step, conclude]
    split <;> exact ⟨rfl, fun p hp => hp⟩
  · dsimp only [step, drop]
    split
    · exact ⟨parked_closeQueues w, fun p hp => by cases hp⟩
    · exact ⟨parked_closeQueues w, fun p hp => by cases hp⟩
    · exact ⟨rfl, fun p hp => hp⟩
  · dsimp only [step]
    have hsource : source ≠ .updates := by rintro rfl; cases hwhole
    rcases iterate_of_ne_updates (w := w) hsource chance with
      heq | ⟨-, w', -, hupdates, hparked, -, heq⟩ <;> rw [heq]
    · exact ⟨rfl, fun p hp => hp⟩
    · exact ⟨(parked_settleTurn w' chance).trans hparked, fun p hp => hupdates ▸ waiting_settleTurn hp⟩

/-! ## A call that sends -/

lemma parked_enqueue (w : World) (who : Notifier) (n : Notification) (sent : Outcome) :
    (w.enqueue who n sent).parked = w.parked := by
  rw [enqueue]
  split <;> rfl

/-- Once the loop is gone, nothing is sent. -/
lemma enqueue_of_closed (hclosed : w.updates.closed = true) (who : Notifier) (n : Notification)
    (sent : Outcome) : w.enqueue who n sent = w.turnAway who := by
  simp [enqueue, Channel.send, hclosed]

lemma known_enqueue {v : NodeId} (hv : w.hands v ≠ none) (who : Notifier) (n : Notification)
    (sent : Outcome) : (w.enqueue who n sent).hands v ≠ none := by
  rw [enqueue]
  split
  · exact hv
  · exact hv
  · exact hands_mapNode_ne_none.2 hv

end World

end MixRounds.Live
