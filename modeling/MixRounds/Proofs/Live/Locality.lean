import MixRounds.Proofs.Live.Pages
import MixRounds.Proofs.Live.Reservation

/-!
# Notifications of different nodes keep out of each other's way

A notification of a node writes to the node's seat and to the page of the round that the node holds, and what it
writes there can be told from the seat, the page and the kind of the notification (`Shared.seat_apply`,
`Shared.page_apply`).  Everything else stays: no other node is touched, even of a round that fails, and the log
only grows, by entries of that one round.  This is `Shared.Local`.

So if two notifications are of different nodes, and the nodes do not hold the same round, neither of the two finds
anything that the other has written.  It does not matter which of them is applied first: **`Shared.alike_apply_apply`**.
The times differ, of course, and so do the numbers of the broadcasts.

**`World.local_of_run`** says both of every state that a scheduler reaches.
-/

namespace MixRounds.Live

namespace Shared

variable {settings : Settings} {now : Instant} {clock : Nat} {reserved : List NodeId}
  {s s' : Shared} {n : Notification}

/-- Nodes hold rounds that exist. -/
def Founded (s : Shared) : Prop :=
  ∀ v id, s.net.holding v = some id → ∃ r, s.net.rounds.get? id = some r

/-! ## The seats -/

/-- **A notification in the seats**: its node's is what the kind makes of it, and no other changes. -/
theorem seat_apply (h : s.Founded) (v : NodeId) :
    (s.apply settings now clock reserved n).1.seat v =
      if v = n.node then (s.kindOf n).reseat reserved v (s.seat v) else s.seat v := by
  have happlied : Applied settings now reserved n.node (s.kindOf n) s
      (s.apply settings now clock reserved n).1 := .apply (h n.node)
  obtain ⟨held, hheld⟩ := exists_holds (h n.node)
  cases hnode : s.net.nodes.get? n.node with
  | none =>
      have hsame : (s.apply settings now clock reserved n).1 = s := by simp [apply, hnode]
      rw [hsame]
      split
      · rename_i hv
        simp [Kind.reseat, seat, hv, hnode]
      · rfl
  | some node =>
      rw [seat, happlied.nodes, apply_pool hnode hheld]
      by_cases hv : v = n.node
      · subst hv
        simp only [Kind.reseat, seat, hnode, true_and, if_true]
        cases s.kindOf n with
        | alreadyBanned | staleAfterFailure => simp [Kind.detaches]
        | ban => simp [Kind.detaches, Pool.remove, Pool.mem_without]
        | activity a =>
            cases a with
            | waiting =>
                by_cases hout : node.status = .banned ∨ n.node ∈ reserved
                · simp [hout, Kind.detaches]
                · simp [hout, Kind.detaches, Pool.add, Pool.mem_including, Pool.mem_without]
            | notStarted | precomputing | realtime | standby | completed | error => simp [Kind.detaches]
      · rw [if_neg hv, if_neg (by simp [hv])]
        split
        · simp [seat, Pool.remove, Pool.mem_without, hv]
        · split <;> simp [seat, Pool.add, Pool.mem_including, Pool.mem_without, hv]
        · rfl

/-! ## The pages -/

/-- What leaves the round as it is leaves its page as it is. -/
lemma repage_eq_self {id : RoundId} {r : Round} (hround : s.net.rounds.get? id = some r) {k : Kind}
    (v : NodeId) (heffect : k.effect settings now id r = r) : k.repage v id (s.page id) = s.page id := by
  rw [repage_page hround k v heffect, if_pos rfl, ← round_page hround]

lemma page_killHeld_of_holds {held : Option (RoundId × Round)} {v : NodeId} (hheld : s.Holds v held) {k : Kind}
    {cause : Cause} (hk : k.grounds? = some cause)
    (heffect : ∀ id r, k.effect settings now id r = (r.fail now).2) (j : RoundId) :
    (s.killHeld now v (s.net.holding v) cause).1.page j =
      if s.net.holding v = some j then k.repage v j (s.page j) else s.page j := by
  cases held with
  | none =>
      have hnone : s.net.holding v = none := hheld
      simp [hnone, killHeld]
  | some held =>
      obtain ⟨hholding, hround⟩ := hheld
      rw [hholding, page_killHeld hround v hk (heffect _ _)]
      by_cases hj : j = held.1
      · simp [hj]
      · simp [hj, Ne.symm hj]

lemma page_countAndAdvance_of_holds {held : RoundId × Round} {v : NodeId} (hheld : s.Holds v (some held))
    {k : Kind} {next : Phase} {stamp : Instant} {after : Shared → Shared}
    (hafter : ∀ t : Shared, (after t).net = t.net ∧ (after t).tracker = t.tracker)
    (heffect : k.effect settings now held.1 held.2 = held.2.tallied held.1 next stamp)
    (hk : k.grounds? = none) (j : RoundId) :
    (s.countAndAdvance held.1 held.2 next stamp after).1.page j =
      if s.net.holding v = some j then k.repage v j (s.page j) else s.page j := by
  obtain ⟨hholding, hround⟩ := hheld
  rw [hholding, page_countAndAdvance hround v hk heffect hafter]
  by_cases hj : j = held.1
  · simp [hj]
  · simp [hj, Ne.symm hj]

/-- **A notification in the pages**: the page of the round that its node holds is what the kind makes of it, and
no other changes. -/
theorem page_apply (h : s.Founded) (j : RoundId) :
    (s.apply settings now clock reserved n).1.page j =
      if s.net.holding n.node = some j then (s.kindOf n).repage n.node j (s.page j) else s.page j := by
  obtain ⟨held, hheld⟩ := exists_holds (h n.node)
  -- what does not move the round does not move the page
  have hstill : ∀ (k : Kind) (t : Shared), t.page = s.page →
      (∀ id r, k.effect settings now id r = r) → t.page j =
        if s.net.holding n.node = some j then k.repage n.node j (s.page j) else s.page j := by
    intro k t ht heffect
    rw [ht]
    split
    · rename_i hj
      obtain ⟨r, hround⟩ := h _ _ hj
      rw [repage_eq_self hround n.node (heffect j r)]
    · rfl
  cases hnode : s.net.nodes.get? n.node with
  | none =>
      have hfree : s.net.holding n.node = none := by simp [Network.holding, hnode]
      simp [apply, hnode, hfree]
  | some node =>
      rw [apply_eq hnode hheld]
      cases s.kindOf n with
      | alreadyBanned | staleAfterFailure => exact hstill _ s rfl fun _ _ => rfl
      | ban =>
          exact page_killHeld_of_holds (s := { s with pool := (s.pool.remove n.node).2 }) hheld rfl
            (show ∀ id r, Kind.effect settings now id r .ban = _ from fun _ _ => rfl) j
      | activity a =>
          cases a with
          | notStarted | precomputing | realtime => exact hstill _ s rfl fun _ _ => rfl
          | waiting =>
              apply hstill
              · simp only [applyActivity]
                split
                · rfl
                · split <;> rfl
              · exact fun _ _ => rfl
          | standby =>
              cases held with
              | none =>
                  have hfree : s.net.holding n.node = none := hheld
                  simp [applyActivity, hfree]
              | some held =>
                  exact page_countAndAdvance_of_holds hheld (by intro t; exact ⟨rfl, rfl⟩)
                    (show Kind.effect settings now held.1 held.2 (.activity .standby) = _ from rfl) rfl j
          | completed =>
              cases held with
              | none =>
                  have hfree : s.net.holding n.node = none := hheld
                  simp [applyActivity, hfree]
              | some held =>
                  obtain ⟨hholding, hround⟩ := hheld
                  have hmapped : (s.mapNode n.node Node.detach).page = s.page := rfl
                  refine (page_countAndAdvance (s := s.mapNode n.node Node.detach) hround n.node rfl
                    (show Kind.effect settings now held.1 held.2 (.activity .completed) = _ from rfl)
                    (by intro t; exact ⟨rfl, rfl⟩) j).trans ?_
                  rw [hholding, hmapped]
                  by_cases hj : j = held.1
                  · simp [hj]
                  · simp [hj, Ne.symm hj]
          | error =>
              have hid : held.map Prod.fst = s.net.holding n.node := by
                cases held with
                | none => exact hheld.symm
                | some held => exact hheld.1.symm
              simp only [applyActivity, hid]
              exact page_killHeld_of_holds hheld rfl
                (show ∀ id r, Kind.effect settings now id r (.activity .error) = _ from fun _ _ => rfl) j

/-! ## The log -/

/-- The log has grown at its end, by entries of this round. -/
structure Adds (held : Option RoundId) (log log' : UpdateLog) : Prop where
  updates : ∃ more, log'.updates = log.updates ++ more ∧ ∀ u ∈ more, held = some u.payload.id
  errors : ∃ more, log'.errors = log.errors ++ more ∧ ∀ e ∈ more, held = some e.payload.round

lemma Adds.refl (held : Option RoundId) (log : UpdateLog) : Adds held log log :=
  ⟨⟨[], by simp⟩, ⟨[], by simp⟩⟩

lemma Adds.publish {id : RoundId} {log : UpdateLog} {net : Network} (h : Adds (some id) log net.log)
    (r : Round) : Adds (some id) log (net.publish id r).log := by
  obtain ⟨more, hmore, hround⟩ := h.updates
  refine ⟨⟨more ++ [.sign net.key { r.info id with updateId := UInt64.ofNat (net.log.updates.length + 1) }],
    ?_, ?_⟩, h.errors⟩
  · simp [Network.publish, UpdateLog.push, hmore]
  · intro u hu
    simp only [List.mem_append, List.mem_singleton] at hu
    rcases hu with hu | rfl
    · exact hround u hu
    · rfl

lemma Adds.publishError {id : RoundId} {log : UpdateLog} {net : Network} (h : Adds (some id) log net.log)
    (node : Option NodeId) (cause : Cause) (now : Instant) :
    Adds (some id) log (net.publishError id node cause now).log := by
  obtain ⟨more, hmore, hround⟩ := h.errors
  refine ⟨h.updates, ⟨more ++ [.sign net.key ⟨id, node, cause, now⟩], ?_, ?_⟩⟩
  · simp [Network.publishError, UpdateLog.pushError, hmore]
  · intro e he
    simp only [List.mem_append, List.mem_singleton] at he
    rcases he with he | rfl
    · exact hround e he
    · rfl

lemma adds_killHeld (s : Shared) (now : Instant) (v : NodeId) (held : Option RoundId) (cause : Cause) :
    Adds held s.net.log (s.killHeld now v held cause).1.net.log := by
  cases held with
  | none => exact .refl _ _
  | some id =>
      rw [killHeld_fst]
      simp only [kill]
      split
      · exact .refl _ _
      · split
        · exact .refl _ _
        · refine Adds.publish (Adds.publishError ?_ _ _ _) _
          exact .refl _ _

lemma adds_countAndAdvance (s : Shared) (id : RoundId) (r : Round) (next : Phase) (stamp : Instant)
    {after : Shared → Shared} (hafter : ∀ t : Shared, (after t).net = t.net) :
    Adds (some id) s.net.log (s.countAndAdvance id r next stamp after).1.net.log := by
  rw [countAndAdvance]
  split
  · exact .refl _ _
  · dsimp only
    split
    · exact .refl _ _
    · split
      · exact .refl _ _
      · dsimp only
        rw [hafter]
        refine Adds.publish ?_ _
        exact .refl _ _

/-- **A notification in the log**: new entries come last, and they are of the round that its node holds. -/
lemma adds_apply (h : s.Founded) :
    Adds (s.net.holding n.node) s.net.log (s.apply settings now clock reserved n).1.net.log := by
  obtain ⟨held, hheld⟩ := exists_holds (h n.node)
  cases hnode : s.net.nodes.get? n.node with
  | none =>
      simp only [apply, hnode]
      exact .refl _ _
  | some node =>
      rw [apply_eq hnode hheld]
      cases s.kindOf n with
      | alreadyBanned | staleAfterFailure => exact .refl _ _
      | ban => exact adds_killHeld { s with pool := (s.pool.remove n.node).2 } _ _ _ _
      | activity a =>
          cases a with
          | notStarted | precomputing | realtime => exact .refl _ _
          | waiting =>
              simp only [applyActivity]
              split
              · exact .refl _ _
              · split <;> exact .refl _ _
          | standby =>
              cases held with
              | none => exact .refl _ _
              | some held =>
                  rw [hheld.1]
                  exact adds_countAndAdvance _ _ _ _ _ (by intro t; rfl)
          | completed =>
              cases held with
              | none => exact .refl _ _
              | some held =>
                  rw [hheld.1]
                  exact adds_countAndAdvance (s.mapNode n.node Node.detach) _ _ _ _ (by intro t; rfl)
          | error =>
              have hid : held.map Prod.fst = s.net.holding n.node := by
                cases held with
                | none => exact hheld.symm
                | some held => exact hheld.1.symm
              simp only [applyActivity, hid]
              exact adds_killHeld ..

/-! ## What is local -/

/-- **A notification is local**: what it makes of `s` differs from `s` in its node and in the round that the node
holds only. -/
structure Local (n : Notification) (s s' : Shared) : Prop where
  /-- The records of the other nodes, and their places in the pool. -/
  seats : ∀ v, v ≠ n.node → s'.seat v = s.seat v
  rounds : ∀ id, s.net.holding n.node ≠ some id → s'.net.rounds.get? id = s.net.rounds.get? id
  tracker : ∀ id, s.net.holding n.node ≠ some id → (id ∈ s'.tracker ↔ id ∈ s.tracker)
  log : Adds (s.net.holding n.node) s.net.log s'.net.log

/-- **Every notification is local.** -/
theorem local_apply (h : s.Founded) : s.Local n (s.apply settings now clock reserved n).1 := by
  constructor
  case seats =>
    intro v hv
    rw [seat_apply h, if_neg hv]
  case rounds =>
    intro id hid
    have happlied : Applied settings now reserved n.node (s.kindOf n) s
        (s.apply settings now clock reserved n).1 := .apply (h n.node)
    rw [happlied.rounds, if_neg hid]
  case tracker =>
    intro id hid
    have hpage : (s.apply settings now clock reserved n).1.page id = s.page id := by
      rw [page_apply h, if_neg hid]
    simpa [page, Page.ofAnnals] using congrArg Page.tracked hpage
  case log => exact adds_apply h

/-! ## Either order -/

/-- Two states are the same but for times, and for the order of broadcasts of different rounds. -/
structure Alike (s t : Shared) : Prop where
  seats : ∀ v, s.seat v = t.seat v
  pages : ∀ id, s.page id = t.page id

/-- Notifications of different nodes that do not hold the same round. -/
structure Apart (s : Shared) (n₁ n₂ : Notification) : Prop where
  node : n₁.node ≠ n₂.node
  round : ∀ id, s.net.holding n₁.node = some id → s.net.holding n₂.node ≠ some id

lemma Apart.symm {n₁ n₂ : Notification} (h : s.Apart n₁ n₂) : s.Apart n₂ n₁ :=
  ⟨h.node.symm, fun id h₂ h₁ => h.round id h₁ h₂⟩

lemma holding_eq_of_seat {v : NodeId} (h : s'.seat v = s.seat v) : s'.net.holding v = s.net.holding v := by
  have hnode : s'.net.nodes.get? v = s.net.nodes.get? v := congrArg Seat.node h
  rw [Network.holding, Network.holding, hnode]

section Apart

variable {n₁ n₂ : Notification} {now₁ now₂ : Instant} {clock₁ clock₂ : Nat}

lemma Apart.holding (h : s.Founded) (hapart : s.Apart n₁ n₂) :
    (s.apply settings now₁ clock₁ reserved n₁).1.net.holding n₂.node = s.net.holding n₂.node := by
  apply holding_eq_of_seat
  rw [seat_apply h, if_neg hapart.node.symm]

/-- The other notification is about the same thing as before. -/
lemma Apart.kindOf (h : s.Founded) (hapart : s.Apart n₁ n₂) :
    (s.apply settings now₁ clock₁ reserved n₁).1.kindOf n₂ = s.kindOf n₂ := by
  have hlocal : s.Local n₁ (s.apply settings now₁ clock₁ reserved n₁).1 := local_apply h
  rw [Shared.kindOf, Shared.kindOf, hapart.holding h]
  cases hheld : s.net.holding n₂.node with
  | none => rfl
  | some id =>
      have hround := hlocal.rounds id fun h₁ => hapart.round id h₁ hheld
      simp [Network.phase?, hround]

lemma founded_apply (h : s.Founded) : (s.apply settings now clock reserved n).1.Founded := by
  intro v id hid
  have happlied : Applied settings now reserved n.node (s.kindOf n) s
      (s.apply settings now clock reserved n).1 := .apply (h n.node)
  have hbefore : s.net.holding v = some id := by
    rw [Network.holding, happlied.nodes] at hid
    split at hid
    · rw [Option.bind_map] at hid
      obtain ⟨node, -, hround⟩ := Option.bind_eq_some_iff.1 hid
      cases hround
    · exact hid
  obtain ⟨r, hround⟩ := h v id hbefore
  rw [happlied.rounds, hround]
  split <;> exact ⟨_, rfl⟩

/-- What two such notifications make of the seats, one after the other. -/
lemma Apart.seat_apply_apply (h : s.Founded) (hapart : s.Apart n₁ n₂) (v : NodeId) :
    ((s.apply settings now₁ clock₁ reserved n₁).1.apply settings now₂ clock₂ reserved n₂).1.seat v =
      if v = n₂.node then (s.kindOf n₂).reseat reserved v (s.seat v)
      else if v = n₁.node then (s.kindOf n₁).reseat reserved v (s.seat v)
      else s.seat v := by
  rw [seat_apply (founded_apply h), seat_apply h, hapart.kindOf h]
  by_cases hv : v = n₂.node
  · have hother : v ≠ n₁.node := fun heq => hapart.node (heq.symm.trans hv)
    rw [if_pos hv, if_pos hv, if_neg hother]
  · rw [if_neg hv, if_neg hv]

/-- What two such notifications make of the pages, one after the other. -/
lemma Apart.page_apply_apply (h : s.Founded) (hapart : s.Apart n₁ n₂) (id : RoundId) :
    ((s.apply settings now₁ clock₁ reserved n₁).1.apply settings now₂ clock₂ reserved n₂).1.page id =
      if s.net.holding n₂.node = some id then (s.kindOf n₂).repage n₂.node id (s.page id)
      else if s.net.holding n₁.node = some id then (s.kindOf n₁).repage n₁.node id (s.page id)
      else s.page id := by
  rw [page_apply (founded_apply h), page_apply h, hapart.kindOf h, hapart.holding h]
  by_cases hid : s.net.holding n₂.node = some id
  · have hother : s.net.holding n₁.node ≠ some id := fun h₁ => hapart.round id h₁ hid
    rw [if_pos hid, if_pos hid, if_neg hother]
  · rw [if_neg hid, if_neg hid]

/-- **Either order**: notifications of different nodes that do not hold the same round can be applied one way
round or the other, at any times. -/
theorem alike_apply_apply (h : s.Founded) (hapart : s.Apart n₁ n₂) (now₃ now₄ : Instant) (clock₃ clock₄ : Nat) :
    Alike ((s.apply settings now₁ clock₁ reserved n₁).1.apply settings now₂ clock₂ reserved n₂).1
      ((s.apply settings now₃ clock₃ reserved n₂).1.apply settings now₄ clock₄ reserved n₁).1 := by
  constructor
  case seats =>
    intro v
    rw [hapart.seat_apply_apply h, hapart.symm.seat_apply_apply h]
    by_cases h₁ : v = n₁.node
    · have h₂ : v ≠ n₂.node := fun heq => hapart.node (h₁.symm.trans heq)
      rw [if_neg h₂, if_pos h₁, if_pos h₁]
    · rw [if_neg h₁, if_neg h₁]
  case pages =>
    intro id
    rw [hapart.page_apply_apply h, hapart.symm.page_apply_apply h]
    by_cases h₁ : s.net.holding n₁.node = some id
    · rw [if_neg (hapart.round id h₁), if_pos h₁, if_pos h₁]
    · rw [if_neg h₁, if_neg h₁]

end Apart

end Shared

namespace World

lemma founded_of_sound {w : World} (h : w.roster.Sound) : w.shared.Founded := by
  intro v id hid
  exact exists_round h hid

/-- **Updates are local**, in every state that any run from an idle network reaches: a notification changes nothing
that concerns other nodes or other rounds, and two that have no round in common can be applied in either
order. -/
theorem local_of_run (settings : Settings) (latency : Latency) (isDisabled : NodeId → Bool) {net : Network}
    (wall : Instant) (hidle : net.Idle) (moves : List Move) :
    let s := ((create settings latency isDisabled net wall).run moves).shared
    (∀ now clock reserved n, s.Local n (s.apply settings now clock reserved n).1) ∧
    ∀ reserved n₁ n₂, s.Apart n₁ n₂ → ∀ now₁ clock₁ now₂ clock₂ now₃ clock₃ now₄ clock₄, Shared.Alike
      ((s.apply settings now₁ clock₁ reserved n₁).1.apply settings now₂ clock₂ reserved n₂).1
      ((s.apply settings now₃ clock₃ reserved n₂).1.apply settings now₄ clock₄ reserved n₁).1 := by
  intro s
  have hfounded : s.Founded :=
    founded_of_sound (run_sound (create_sound settings latency isDisabled wall hidle) moves)
  constructor
  · intro now clock reserved n
    exact Shared.local_apply hfounded
  · intro reserved n₁ n₂ hapart now₁ clock₁ now₂ clock₂ now₃ clock₃ now₄ clock₄
    exact Shared.alike_apply_apply hfounded hapart now₃ now₄ clock₃ clock₄

/-- Two nodes, each of them a team of its own. -/
def soloists : World :=
  create { Settings.builtIn with teamSize := 1, poolThreshold := 0, minDelayMs := 0 }
    .builtIn (fun _ => false) (smallNetwork ["a", "b"]) ⟨0, 0⟩

/-- Both are in a round. -/
def bothStarted : List Move :=
  .launch :: (["a", "b"].flatMap fun v => reporting v .waiting ++ .takeProto :: kickoff)

/-- The node `a` reports an error while `b` is banned, or the other way round. -/
theorem local_of_bothStarted :
    let s := (soloists.run bothStarted).shared
    let error : Notification := ⟨"a", .waiting, .error, .active, .active, ⟨0, 0⟩⟩
    let ban : Notification := ⟨"b", .waiting, .waiting, .active, .banned, ⟨0, 0⟩⟩
    (smallNetwork ["a", "b"]).Idle ∧ s.Apart error ban ∧
      s.net.holding "a" = some ⟨1⟩ ∧ s.net.holding "b" = some ⟨2⟩ ∧
      Shared.Alike
        ((s.apply soloists.settings ⟨1, 0⟩ 1000 [] error).1.apply soloists.settings ⟨2, 0⟩ 2000 [] ban).1
        ((s.apply soloists.settings ⟨1, 0⟩ 1000 [] ban).1.apply soloists.settings ⟨2, 0⟩ 2000 [] error).1 := by
  intro s error ban
  have ha : s.net.holding "a" = some ⟨1⟩ := by decide +kernel
  have hb : s.net.holding "b" = some ⟨2⟩ := by decide +kernel
  have hapart : s.Apart error ban := by
    refine ⟨by decide, ?_⟩
    intro id hid hid'
    have hfirst : id = ⟨1⟩ := Option.some.inj (hid.symm.trans ha)
    have hsecond : id = ⟨2⟩ := Option.some.inj (hid'.symm.trans hb)
    rw [hfirst] at hsecond
    exact absurd hsecond (by decide)
  have hlocal := local_of_run soloists.settings .builtIn (fun _ => false) ⟨0, 0⟩
    (idle_smallNetwork ["a", "b"]) bothStarted
  exact ⟨idle_smallNetwork _, hapart, ha, hb, hlocal.2 [] error ban hapart _ _ _ _ _ _ _ _⟩

end World

end MixRounds.Live
