import MixRounds.Live.Apply
import MixRounds.Proofs.Network

/-!
# What a notification does

`Shared.apply` branches on the node, on the round it holds, on the kind of the notification and on the
activity it leads to; behind a standby or a completion another four outcomes are possible.  For
everything that is proved about a scheduler three equations are enough (`Shared.Applied`), and in none of
them a branch is left:

* the node loses its round exactly when the kind of the notification says so (`Kind.detaches`), and
  nothing else changes about any node;
* the round that the node held becomes `Kind.effect` of what it was, and no other round changes;
* the pool stays, or loses the node, or gains it; and it gains only a node that now holds nothing and is
  promised to no team.

**`Shared.Applied.apply`** says that this is what a notification does.

A standby or a completion is refused for want of room exactly when the team was complete before
(`Shared.apply_isOverflow_iff`), and no report is refused for want of a round in the map
(`Shared.apply_ne_unknownRound`).  All of this is under the one proviso that a node holds only rounds
that exist.
-/

namespace MixRounds

namespace Round

/-- One more member is ready, and with the last of them the round moves to `next`, if the life cycle
allows it.  A team that is complete already counts no one. -/
def tallied (r : Round) (id : RoundId) (next : Phase) (stamp : Instant) : Round :=
  match r.countReady id with
  | .error _ => r
  | .ok (counted, complete) =>
      if !complete then counted
      else
        match counted.advance id next stamp with
        | .error _ => counted
        | .ok moved => moved

variable (r : Round) (id : RoundId) (next : Phase) (stamp : Instant)

/-- **What counting a member comes to**: nothing; one more; one more, and the move refused; or the
move. -/
lemma tallied_cases :
    (r.teamSize ≤ r.ready ∧ r.tallied id next stamp = r) ∨
    (r.ready < r.teamSize ∧ (r.ready + 1 < r.teamSize ∨ r.phase.mayAdvance next = false) ∧
      r.tallied id next stamp = { r with ready := r.ready + 1 }) ∨
    (r.ready + 1 = r.teamSize ∧ r.phase.mayAdvance next = true ∧
      r.tallied id next stamp
        = { r with phase := next, ready := 0, stamps := r.stamps.insert next stamp }) := by
  by_cases hfull : r.teamSize ≤ r.ready
  · exact Or.inl ⟨hfull, by simp [tallied, countReady, hfull]⟩
  · by_cases hlast : r.ready + 1 = r.teamSize
    · by_cases hmay : r.phase.mayAdvance next = true
      · exact Or.inr (Or.inr ⟨hlast, hmay, by
          simp [tallied, countReady, hfull, hlast, advance, hmay]⟩)
      · exact Or.inr (Or.inl ⟨by omega, Or.inr (by simpa using hmay), by
          simp [tallied, countReady, hfull, hlast, advance, hmay]⟩)
    · exact Or.inr (Or.inl ⟨by omega, Or.inl (by omega), by
        simp [tallied, countReady, hfull, hlast]⟩)

lemma topology_tallied : (r.tallied id next stamp).topology = r.topology := by
  rcases r.tallied_cases id next stamp with ⟨-, h⟩ | ⟨-, -, h⟩ | ⟨-, -, h⟩ <;> rw [h]

end Round

namespace Live

namespace Kind

/-- After such a notification the node holds no round. -/
def detaches : Kind → Bool
  | .ban | .activity .waiting | .activity .completed | .activity .error => true
  | _ => false

/-- What a notification of this kind makes of the round that its node holds. -/
def effect (settings : Settings) (now : Instant) (id : RoundId) (r : Round) : Kind → Round
  | .ban | .activity .error => (r.fail now).2
  | .activity .standby => r.tallied id .realtime (now.addMillis settings.realtimeDelay)
  | .activity .completed => r.tallied id .completed now
  | _ => r

lemma topology_effect (settings : Settings) (now : Instant) (id : RoundId) (r : Round) (k : Kind) :
    (k.effect settings now id r).topology = r.topology := by
  simp only [effect]
  split
  · exact r.topology_fail now
  · exact r.topology_fail now
  · exact r.topology_tallied _ _ _
  · exact r.topology_tallied _ _ _
  · rfl

end Kind

namespace Shared

/-- What a notification is about, as the loop sees it. -/
def kindOf (s : Shared) (n : Notification) : Kind :=
  classify n ((s.net.holding n.node).bind s.net.phase?)

/-! ## Failing a round -/

section Kill

variable (s : Shared) (now : Instant) (id : RoundId) (cause : Cause)

lemma kill_get?_rounds (node : Option NodeId) (j : RoundId) :
    (s.kill now id node cause).1.net.rounds.get? j
      = if j = id then (s.net.rounds.get? j).map fun r => (r.fail now).2
        else s.net.rounds.get? j := by
  -- detaching the node that gave the reason does not touch the rounds
  have hsame : ∀ r : Round, (r.fail now).1 = false → (r.fail now).2 = r := by
    intro r
    rw [Round.fail]
    split <;> simp
  simp only [kill]
  cases node <;> dsimp only [mapNode, Network.mapNode_rounds] <;>
    cases hround : s.net.rounds.get? id with
    | none =>
        dsimp only
        split <;> simp_all
    | some round =>
        dsimp only
        split
        · have hr := hsame round (by simp_all)
          dsimp only
          split <;> simp_all
        · dsimp only [notify, Network.publish_rounds, Network.publishError]
          rw [Network.get?_setRound]
          split <;> simp_all

lemma kill_nodes (node : Option NodeId) :
    (s.kill now id node cause).1.net.nodes
      = match node with
        | some v => s.net.nodes.modify v Node.detach
        | none => s.net.nodes := by
  simp only [kill]
  cases node <;> dsimp only <;> split <;> try rfl
  all_goals split <;> rfl

lemma kill_pool (node : Option NodeId) : (s.kill now id node cause).1.pool = s.pool := by
  simp only [kill]
  cases node <;> dsimp only <;> split <;> try rfl
  all_goals split <;> rfl

lemma kill_counter (node : Option NodeId) :
    (s.kill now id node cause).1.net.counter = s.net.counter := by
  simp only [kill]
  cases node <;> dsimp only <;> split <;> try rfl
  all_goals split <;> rfl

variable (v : NodeId)

lemma killHeld_fst : (s.killHeld now v (some id) cause).1 = (s.kill now id (some v) cause).1 := by
  dsimp only [killHeld]
  split <;> simp [*]

lemma killHeld_pool (held : Option RoundId) : (s.killHeld now v held cause).1.pool = s.pool := by
  cases held with
  | none => rfl
  | some id => rw [killHeld_fst, kill_pool]

end Kill

/-! ## The effect of a notification -/

/-- `s'` is what a notification of kind `k` about the node `v` makes of `s`. -/
structure Applied (settings : Settings) (now : Instant) (reserved : List NodeId) (v : NodeId)
    (k : Kind) (s s' : Shared) : Prop where
  nodes : ∀ j, s'.net.nodes.get? j =
    if j = v ∧ k.detaches = true then (s.net.nodes.get? j).map Node.detach else s.net.nodes.get? j
  rounds : ∀ j, s'.net.rounds.get? j =
    if s.net.holding v = some j then (s.net.rounds.get? j).map fun r => k.effect settings now j r
    else s.net.rounds.get? j
  pool : s'.pool = s.pool ∨ s'.pool = (s.pool.remove v).2 ∨
    s'.pool = s.pool.add v ∧ k = .activity .waiting ∧ v ∉ reserved ∧ v ∈ s.net.nodes.keys
  counter : s'.net.counter = s.net.counter

section Applied

variable {settings : Settings} {now : Instant} {clock : Nat} {reserved : List NodeId} {v : NodeId}
  {s : Shared}

/-- A kind that detaches nobody and moves no round may leave everything as it is. -/
lemma Applied.refl {k : Kind} (hdetaches : k.detaches = false)
    (heffect : ∀ id r, s.net.holding v = some id → s.net.rounds.get? id = some r →
      k.effect settings now id r = r) :
    Applied settings now reserved v k s s where
  nodes j := by simp [hdetaches]
  rounds j := by
    split
    · rename_i hheld
      cases hround : s.net.rounds.get? j with
      | none => rfl
      | some r => simp [heffect j r hheld hround]
    · rfl
  pool := Or.inl rfl
  counter := rfl

lemma Applied.killHeld {k : Kind} (hk : k = .ban ∨ k = .activity .error) (cause : Cause) :
    Applied settings now reserved v k s (s.killHeld now v (s.net.holding v) cause).1 := by
  have hdetaches : k.detaches = true := by rcases hk with rfl | rfl <;> rfl
  have heffect : ∀ id r, k.effect settings now id r = (r.fail now).2 := by
    rcases hk with rfl | rfl <;> exact fun _ _ => rfl
  cases hheld : s.net.holding v with
  | none =>
      refine ⟨fun j => ?_, fun j => by simp [hheld, Shared.killHeld], Or.inl rfl, rfl⟩
      dsimp only [Shared.killHeld]
      split
      · rename_i hj
        rw [hj.1, Network.map_detach_of_holding_eq_none hheld]
      · rfl
  | some id =>
      rw [killHeld_fst]
      refine ⟨fun j => ?_, fun j => ?_, Or.inl (kill_pool ..), kill_counter ..⟩
      · rw [kill_nodes, Table.get?_modify]
        simp [hdetaches]
      · rw [kill_get?_rounds]
        simp [hheld, heffect, eq_comm]

/-- A standby or a completion counts the node for the round it holds. -/
lemma countAndAdvance_spec {id : RoundId} {r : Round} (hround : s.net.rounds.get? id = some r)
    (next : Phase) (stamp : Instant) (after : Shared → Shared)
    (hafter : ∀ t : Shared, (after t).net = t.net ∧ (after t).pool = t.pool) :
    let s' := (s.countAndAdvance id r next stamp after).1
    s'.net.nodes = s.net.nodes ∧ s'.net.counter = s.net.counter ∧ s'.pool = s.pool ∧
      ∀ j, s'.net.rounds.get? j =
        if j = id then some (r.tallied id next stamp) else s.net.rounds.get? j := by
  rw [countAndAdvance, Round.tallied]
  cases r.countReady id with
  | error fault =>
      refine ⟨rfl, rfl, rfl, fun j => ?_⟩
      by_cases hj : j = id <;> simp [hj, hround]
  | ok result =>
      obtain ⟨counted, complete⟩ := result
      cases complete with
      | false =>
          refine ⟨rfl, rfl, rfl, fun j => ?_⟩
          by_cases hj : j = id <;> simp [hj, hround, Network.get?_setRound]
      | true =>
          simp only [Bool.not_true, Bool.false_eq_true, if_false]
          cases counted.advance id next stamp with
          | error fault =>
              refine ⟨rfl, rfl, rfl, fun j => ?_⟩
              by_cases hj : j = id <;> simp [hj, hround, Network.get?_setRound]
          | ok moved =>
              simp only [hafter]
              refine ⟨rfl, rfl, trivial, fun j => ?_⟩
              by_cases hj : j = id <;> simp [hj, hround, Network.get?_setRound]

/-- `held` is the round that the node holds, with its number. -/
def Holds (s : Shared) (v : NodeId) : Option (RoundId × Round) → Prop
  | none => s.net.holding v = none
  | some (id, r) => s.net.holding v = some id ∧ s.net.rounds.get? id = some r

lemma Applied.applyActivity {node : Node} {held : Option (RoundId × Round)}
    (hnode : s.net.nodes.get? v = some node) (hheld : s.Holds v held) (a : Activity) :
    Applied settings now reserved v (.activity a) s
      (s.applyActivity settings now clock reserved v node held a).1 := by
  cases a with
  | notStarted | precomputing | realtime => exact .refl rfl fun _ _ _ _ => rfl
  | waiting =>
      have hnet : (s.applyActivity settings now clock reserved v node held .waiting).1.net
          = s.net.mapNode v Node.detach := by
        dsimp only [Shared.applyActivity]
        split <;> try split
        all_goals rfl
      refine ⟨fun j => ?_, fun j => ?_, ?_, by rw [hnet]; rfl⟩
      · rw [hnet, Network.mapNode, Table.get?_modify]
        simp [Kind.detaches]
      · rw [hnet, Network.mapNode_rounds]
        simp [Kind.effect]
      · dsimp only [Shared.applyActivity]
        split
        · exact Or.inl rfl
        · split
          · exact Or.inl rfl
          · exact Or.inr (Or.inr ⟨rfl, rfl, ‹_›, Table.mem_keys_iff.2 ⟨node, hnode⟩⟩)
  | standby =>
      cases held with
      | none =>
          have hholding : s.net.holding v = none := hheld
          exact .refl rfl fun id r hid _ => by simp [hholding] at hid
      | some held =>
          obtain ⟨id, r⟩ := held
          obtain ⟨hholding, hround⟩ := hheld
          obtain ⟨hnodes, hcounter, hpool, hrounds⟩ := countAndAdvance_spec hround .realtime
            (now.addMillis settings.realtimeDelay)
            (fun s => s.watch id .realtime (clock + settings.realtimeTimeoutMs.toNat))
            (fun _ => ⟨rfl, rfl⟩)
          refine ⟨fun j => ?_, fun j => ?_, Or.inl hpool, hcounter⟩
          · simp only [Kind.detaches, Bool.false_eq_true, and_false, if_false]
            exact congrArg (fun t => Table.get? t j) hnodes
          · refine (hrounds j).trans ?_
            by_cases hj : j = id
            · simp [hj, hholding, hround, Kind.effect]
            · simp [hj, hholding, Ne.symm hj]
  | completed =>
      cases held with
      | none =>
          have hholding : s.net.holding v = none := hheld
          refine ⟨fun j => ?_, fun j => by simp [hholding, Shared.applyActivity], Or.inl rfl, rfl⟩
          dsimp only [Shared.applyActivity]
          split
          · rename_i hj
            rw [hj.1, Network.map_detach_of_holding_eq_none hholding]
          · rfl
      | some held =>
          obtain ⟨id, r⟩ := held
          obtain ⟨hholding, hround⟩ := hheld
          obtain ⟨hnodes, hcounter, hpool, hrounds⟩ := countAndAdvance_spec
            (s := s.mapNode v Node.detach) hround .completed now (fun s => s)
            (fun _ => ⟨rfl, rfl⟩)
          refine ⟨fun j => ?_, fun j => ?_, Or.inl hpool, hcounter⟩
          · refine (congrArg (fun t => Table.get? t j) hnodes).trans ?_
            simp [mapNode, Network.mapNode, Table.get?_modify, Kind.detaches]
          · refine (hrounds j).trans ?_
            by_cases hj : j = id
            · simp [hj, hholding, hround, Kind.effect]
            · simp [hj, hholding, Ne.symm hj, mapNode]
  | error =>
      have hid : held.map Prod.fst = s.net.holding v := by
        cases held with
        | none => exact hheld.symm
        | some held => exact hheld.1.symm
      dsimp only [Shared.applyActivity]
      rw [hid]
      exact .killHeld (Or.inr rfl) _

lemma exists_holds (h : ∀ id, s.net.holding v = some id → ∃ r, s.net.rounds.get? id = some r) :
    ∃ held, s.Holds v held := by
  cases hholding : s.net.holding v with
  | none => exact ⟨none, hholding⟩
  | some id =>
      obtain ⟨r, hround⟩ := h id hholding
      exact ⟨some (id, r), hholding, hround⟩

variable {n : Notification}

lemma kindOf_of_holds (held : Option (RoundId × Round)) (hheld : s.Holds n.node held) :
    s.kindOf n = classify n (held.map fun h => h.2.phase) := by
  cases held with
  | none => simp [kindOf, show s.net.holding n.node = none from hheld]
  | some held => simp [kindOf, Network.phase?, hheld.1, hheld.2]

/-- **The kind decides.**  What happens to a known node is read off the kind of the notification and the
round that the node holds. -/
lemma apply_eq {node : Node} {held : Option (RoundId × Round)}
    (hnode : s.net.nodes.get? n.node = some node) (hheld : s.Holds n.node held) :
    s.apply settings now clock reserved n = match s.kindOf n with
      | .alreadyBanned | .staleAfterFailure => (s, .ok .nothing)
      | .ban => { s with pool := (s.pool.remove n.node).2 }.killHeld now n.node
          (s.net.holding n.node) .nodeBanned
      | .activity a => s.applyActivity settings now clock reserved n.node node held a := by
  have hround : s.net.holding n.node = node.round := Network.holding_of_get? hnode
  rw [kindOf_of_holds held hheld]
  rw [apply]
  cases held with
  | none =>
      have hnone : node.round = none := hround ▸ hheld
      simp only [hnode, hnone, hround, Option.map_none]
      cases classify n none <;> rfl
  | some held =>
      obtain ⟨id, r⟩ := held
      have hsome : node.round = some id := hround ▸ hheld.1
      simp only [hnode, hsome, hheld.2, hround, Option.map_some]
      cases classify n (some r.phase) <;> rfl

/-- **The pool** loses a node that is banned, and gains a node that waits for a team and is free. -/
lemma apply_pool {node : Node} {held : Option (RoundId × Round)}
    (hnode : s.net.nodes.get? n.node = some node) (hheld : s.Holds n.node held) :
    (s.apply settings now clock reserved n).1.pool = match s.kindOf n with
      | .ban => (s.pool.remove n.node).2
      | .activity .waiting =>
          if node.status = .banned ∨ n.node ∈ reserved then s.pool else s.pool.add n.node
      | _ => s.pool := by
  rw [apply_eq hnode hheld]
  cases s.kindOf n with
  | alreadyBanned | staleAfterFailure => rfl
  | ban => exact killHeld_pool ..
  | activity a =>
      cases a with
      | notStarted | precomputing | realtime => rfl
      | waiting =>
          simp only [applyActivity]
          by_cases hbanned : node.status = .banned
          · simp [hbanned, mapNode]
          · by_cases hreserved : n.node ∈ reserved <;> simp [hbanned, hreserved, mapNode]
      | standby =>
          cases held with
          | none => rfl
          | some held => exact (countAndAdvance_spec hheld.2 _ _ _ (by intro t; exact ⟨rfl, rfl⟩)).2.2.1
      | completed =>
          cases held with
          | none => rfl
          | some held =>
              exact (countAndAdvance_spec (s := s.mapNode n.node Node.detach) hheld.2 _ _ _
                (by intro t; exact ⟨rfl, rfl⟩)).2.2.1
      | error => exact killHeld_pool ..

/-- **What a notification does** to nodes, rounds and pool. -/
theorem Applied.apply
    (h : ∀ id, s.net.holding n.node = some id → ∃ r, s.net.rounds.get? id = some r) :
    Applied settings now reserved n.node (s.kindOf n) s
      (s.apply settings now clock reserved n).1 := by
  obtain ⟨held, hheld⟩ := exists_holds h
  cases hnode : s.net.nodes.get? n.node with
  | none =>
      have hsame : (s.apply settings now clock reserved n).1 = s := by simp [Shared.apply, hnode]
      rw [hsame]
      refine ⟨fun j => ?_, fun j => by simp [Network.holding, hnode], Or.inl rfl, rfl⟩
      split
      · rename_i hj
        rw [hj.1, hnode]
        rfl
      · rfl
  | some node =>
      rw [apply_eq hnode hheld]
      cases s.kindOf n with
      | alreadyBanned | staleAfterFailure => exact .refl rfl fun _ _ _ _ => rfl
      | ban =>
          let removed : Shared := { s with pool := (s.pool.remove n.node).2 }
          have hkill : Applied settings now reserved n.node .ban removed
              (removed.killHeld now n.node (removed.net.holding n.node) .nodeBanned).1 :=
            .killHeld (Or.inl rfl) _
          refine ⟨hkill.nodes, hkill.rounds, ?_, hkill.counter⟩
          rcases hkill.pool with hpool | hpool | ⟨-, hk, -⟩
          · exact Or.inr (Or.inl hpool)
          · refine Or.inr (Or.inl (hpool.trans ?_))
            simp [removed, Pool.remove, Pool.without]
          · cases hk
      | activity a => exact .applyActivity hnode hheld a

end Applied

/-! ## Refusals -/

section Refused

variable {settings : Settings} {now : Instant} {clock : Nat} {reserved : List NodeId}
  {s : Shared} {n : Notification}

/-- The refusal of a report whose round has a complete team already. -/
def isOverflow : Except Fault Effect → Bool
  | .error (.readinessOverflow _ _) => true
  | _ => false

lemma killHeld_ok (s : Shared) (now : Instant) (v : NodeId) (round : Option RoundId)
    (cause : Cause) : ∃ e, (s.killHeld now v round cause).2 = .ok e := by
  simp only [killHeld]
  split
  · exact ⟨_, rfl⟩
  · split <;> exact ⟨_, rfl⟩

/-- **A count overflows** exactly when the team was complete before, and is refused for no other reason
than that or an illegal move of the round. -/
lemma countAndAdvance_result (s : Shared) (id : RoundId) (r : Round) (next : Phase) (stamp : Instant)
    (after : Shared → Shared) :
    let result := (s.countAndAdvance id r next stamp after).2
    (isOverflow result = true ↔ r.teamSize ≤ r.ready) ∧ ∀ j, result ≠ .error (.unknownRound j) := by
  rw [countAndAdvance, Round.countReady]
  by_cases hfull : r.teamSize ≤ r.ready
  · simp [hfull, isOverflow]
  · simp only [hfull, if_false]
    cases r.ready + 1 == r.teamSize with
    | false => simp [isOverflow]
    | true =>
        simp only [Bool.not_true, Bool.false_eq_true, if_false, Round.advance]
        split
        · rename_i fault hfault
          split at hfault
          · cases hfault
          · cases hfault
            simp [isOverflow]
        · simp [isOverflow]

/-- **A report overflows** exactly if it is a standby or a completion and the team was complete
before. -/
lemma apply_isOverflow_iff {id : RoundId} {r : Round} {a : Activity}
    (hheld : s.Holds n.node (some (id, r))) (hk : s.kindOf n = .activity a) :
    isOverflow (s.apply settings now clock reserved n).2 = true ↔
      (a = .standby ∨ a = .completed) ∧ r.teamSize ≤ r.ready := by
  obtain ⟨node, hnode, -⟩ := Option.bind_eq_some_iff.1 hheld.1
  rw [apply_eq hnode hheld, hk]
  cases a with
  | standby =>
      refine Iff.trans (countAndAdvance_result s id r _ _ _).1 ?_
      simp
  | completed =>
      refine Iff.trans (countAndAdvance_result (s.mapNode n.node Node.detach) id r _ _ _).1 ?_
      simp
  | notStarted | precomputing | realtime => simp [applyActivity, isOverflow]
  | waiting =>
      dsimp only [applyActivity]
      split <;> try split
      all_goals simp [isOverflow]
  | error =>
      obtain ⟨e, he⟩ := killHeld_ok s now n.node (some id) .nodeError
      simp [applyActivity, he, isOverflow]

/-- **No notification meets an unknown round**, as long as its node holds only rounds that exist. -/
lemma apply_ne_unknownRound
    (h : ∀ id, s.net.holding n.node = some id → ∃ r, s.net.rounds.get? id = some r) (j : RoundId) :
    (s.apply settings now clock reserved n).2 ≠ .error (.unknownRound j) := by
  obtain ⟨held, hheld⟩ := exists_holds h
  cases hnode : s.net.nodes.get? n.node with
  | none => simp [apply, hnode]
  | some node =>
      rw [apply_eq hnode hheld]
      cases s.kindOf n with
      | alreadyBanned | staleAfterFailure => simp
      | ban =>
          obtain ⟨e, he⟩ := killHeld_ok { s with pool := (s.pool.remove n.node).2 } now n.node
            (s.net.holding n.node) .nodeBanned
          simp [he]
      | activity a =>
          cases a with
          | notStarted | precomputing | realtime => simp [applyActivity]
          | waiting =>
              dsimp only [applyActivity]
              split <;> try split
              all_goals simp
          | standby =>
              cases held with
              | none => simp [applyActivity]
              | some held => exact (countAndAdvance_result s held.1 held.2 _ _ _).2 j
          | completed =>
              cases held with
              | none => simp [applyActivity]
              | some held =>
                  exact (countAndAdvance_result (s.mapNode n.node Node.detach) held.1 held.2 _ _ _).2 j
          | error =>
              obtain ⟨e, he⟩ := killHeld_ok s now n.node (held.map Prod.fst) .nodeError
              simp [applyActivity, he]

end Refused

end Shared

end Live

end MixRounds
