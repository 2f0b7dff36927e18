import MixRounds.Proofs.Live.Reservation
import MixRounds.Proofs.Live.Start
import MixRounds.Proofs.Table

/-!
# A start is all or nothing

A start writes to four places, one after the other: the round map, the tracker, the members and the log.
For a team that the loop has formed the way back is never taken (`Shared.start_cases`).  Here the team is
any: its members may be unknown, named twice, banned or busy, and its number may be in use.

* **Before the first write** the check and the slot refuse, and the state is the old one.  The last write,
  the broadcast, cannot fail.
* **In between** only a member can refuse, and only if it is registered and named twice: it holds the round
  already when its second turn comes.  Until then the members got the round in the order of the team, and
  they held nothing before, so taking the round from those who hold it brings back the nodes as they were
  (`detachAll_attachAll`).  The number was not tracked, because what is tracked has a round.  What stays is
  a round that nobody knew before, and it has failed.

`Shared.start_atomic` puts this together, with the exact condition under which the start succeeds.
-/

namespace MixRounds.Live.Shared

/-! ## The way back -/

section Attach

variable (id : RoundId) {nodes : Table NodeId Node} {team : List NodeId}

/-- However far attaching gets, a node is as it was, or it is a member that held nothing and now holds the
round. -/
lemma get?_attachAll (nodes : Table NodeId Node) (team : List NodeId) (j : NodeId) :
    (attachAll id nodes team).1.get? j = nodes.get? j ∨
      j ∈ team ∧ ∃ node, nodes.get? j = some node ∧ node.round = none ∧
        (attachAll id nodes team).1.get? j = some { node with round := some id } := by
  induction team generalizing nodes with
  | nil => exact Or.inl rfl
  | cons v rest ih =>
      cases hnode : nodes.get? v with
      | none =>
          simp only [attachAll, hnode]
          exact (ih nodes).imp_right (And.imp_left (List.mem_cons_of_mem v))
      | some node =>
          cases hround : node.round with
          | some held => simp [attachAll, hnode, Node.attach, hround]
          | none =>
              simp only [attachAll, hnode, Node.attach, hround]
              rcases ih (nodes.modify v fun _ => { node with round := some id })
                with h | ⟨hj, n, hn, hfree, h⟩
              · by_cases hj : j = v
                · subst hj
                  rw [Table.get?_modify_self, hnode] at h
                  exact Or.inr ⟨List.mem_cons_self, node, hnode, hround, h⟩
                · rw [Table.get?_modify_of_ne _ hj] at h
                  exact Or.inl h
              · by_cases hjv : j = v
                · subst hjv
                  rw [Table.get?_modify_self, hnode] at hn
                  cases hn
                  cases hfree
                · rw [Table.get?_modify_of_ne _ hjv] at hn
                  exact Or.inr ⟨List.mem_cons_of_mem v hj, n, hn, hfree, h⟩

lemma keys_attachAll (nodes : Table NodeId Node) (team : List NodeId) :
    (attachAll id nodes team).1.keys = nodes.keys := by
  induction team generalizing nodes with
  | nil => rfl
  | cons v rest ih =>
      cases hnode : nodes.get? v with
      | none => simp [attachAll, hnode, ih]
      | some node => cases hround : node.round <;> simp [attachAll, hnode, Node.attach, hround, ih]

/-- Who holds a round gets no other, and whoever comes later gets none either. -/
lemma attachAll_of_held {v : NodeId} {node : Node} {held : RoundId} (hv : v ∈ team)
    (hnode : nodes.get? v = some node) (hheld : node.round = some held) :
    (attachAll id nodes team).2 ≠ .ok () := by
  induction team generalizing nodes with
  | nil => cases hv
  | cons u rest ih =>
      by_cases huv : u = v
      · subst huv
        simp [attachAll, hnode, Node.attach, hheld]
      · have hrest : v ∈ rest := (List.mem_cons.1 hv).resolve_left (Ne.symm huv)
        cases hu : nodes.get? u with
        | none =>
            simp only [attachAll, hu]
            exact ih hrest hnode
        | some other =>
            cases hround : other.round with
            | some h => simp [attachAll, hu, Node.attach, hround]
            | none =>
                simp only [attachAll, hu, Node.attach, hround]
                exact ih hrest ((Table.get?_modify_of_ne _ (Ne.symm huv) _).trans hnode)

/-- If everybody got the round, no registered member was named twice. -/
lemma nodup_of_attachAll (h : (attachAll id nodes team).2 = .ok ()) :
    (team.filter nodes.contains).Nodup := by
  induction team generalizing nodes with
  | nil => exact List.nodup_nil
  | cons v rest ih =>
      cases hnode : nodes.get? v with
      | none =>
          simp only [attachAll, hnode] at h
          rw [List.filter_cons_of_neg (by simp [Table.contains, hnode])]
          exact ih h
      | some node =>
          cases hround : node.round with
          | some held => simp [attachAll, hnode, Node.attach, hround] at h
          | none =>
              simp only [attachAll, hnode, Node.attach, hround] at h
              have hcontains : (nodes.modify v fun _ => { node with round := some id }).contains
                  = nodes.contains := by
                funext j
                simp only [Table.contains, Table.get?_modify]
                split <;> simp
              have hrest := ih h
              rw [hcontains] at hrest
              rw [List.filter_cons_of_pos (by simp [Table.contains, hnode]), List.nodup_cons]
              refine ⟨fun hin => ?_, hrest⟩
              have hagain : (nodes.modify v fun _ => { node with round := some id }).get? v
                  = some { node with round := some id } := by
                rw [Table.get?_modify_self, hnode]
                rfl
              exact attachAll_of_held id (List.mem_filter.1 hin).1 hagain rfl h

lemma keys_detachAll (nodes : Table NodeId Node) (team : List NodeId) :
    (detachAll id nodes team).keys = nodes.keys := by
  unfold detachAll
  induction team generalizing nodes with
  | nil => rfl
  | cons v rest ih => rw [List.foldl_cons, ih, Table.keys_modify]

lemma get?_detachAll (nodes : Table NodeId Node) (team : List NodeId) (j : NodeId) :
    (detachAll id nodes team).get? j =
      if j ∈ team then (nodes.get? j).map fun n => if n.round = some id then n.detach else n
      else nodes.get? j := by
  refine Table.get?_foldl_modify (fun n => ?_) team nodes j
  by_cases h : n.round = some id <;> simp [h, Node.detach]

/-- **The way back leads back.**  If no registered member held anything, then detaching undoes attaching,
however far that got. -/
lemma detachAll_attachAll (hfree : ∀ v ∈ team, ∀ node, nodes.get? v = some node → node.round = none) :
    detachAll id (attachAll id nodes team).1 team = nodes := by
  refine Table.ext_get? (by rw [keys_detachAll, keys_attachAll]) fun j => ?_
  rw [get?_detachAll]
  split
  · rename_i hj
    rcases get?_attachAll id nodes team j with h | ⟨-, node, hnode, hround, h⟩
    · rw [h]
      cases hnode : nodes.get? j with
      | none => rfl
      | some node => simp [hfree j hj node hnode]
    · rw [h, hnode]
      simp [Node.detach, ← hround]
  · rename_i hj
    exact (get?_attachAll id nodes team j).resolve_right fun h => hj h.1

end Attach

/-! ## The start -/

/-- What a team must be for its round to start. -/
structure Startable (s : Shared) (p : ProtoRound) : Prop where
  /-- No registered member holds a round or is banned. -/
  free : ∀ v ∈ p.topology, ∀ node, s.net.nodes.get? v = some node →
    node.round = none ∧ node.status ≠ .banned
  /-- The number is not in use. -/
  vacant : s.net.rounds.get? p.id = none
  /-- No registered member is named twice. -/
  once : (p.topology.filter s.net.nodes.contains).Nodup

/-- `s'` is `s` with the start of the round of `p` in each of the four places, and its first timer set. -/
structure Committed (clock : Nat) (p : ProtoRound) (s s' : Shared) : Prop extends Started p s s' where
  vacant : s.net.rounds.get? p.id = none
  tracker : p.id ∉ s.tracker ∧ s'.tracker = s.tracker ++ [p.id]
  /-- One broadcast is appended, and it shows the round as it is now. -/
  log : ∃ r : Round, s'.net.rounds.get? p.id = some r ∧ s'.net.log = { s.net.log with
    updates := s.net.log.updates ++ [.sign s.net.key
      { r.info p.id with updateId := UInt64.ofNat (s.net.log.updates.length + 1) }] }
  key : s'.net.key = s.net.key
  watchers : s'.watchers = s.watchers ++ [⟨p.id, .precomputation, clock + p.precomputationTimeout⟩]
  notices : s'.notices = s.notices

/-- `s'` is `s`, except that the map may have a new round: one under the number of `p`, and it has failed. -/
structure TakenBack (p : ProtoRound) (s s' : Shared) : Prop where
  frame : s' = { s with net := { s.net with rounds := s'.net.rounds } }
  rounds : ∀ j, s'.net.rounds.get? j = s.net.rounds.get? j ∨
    j = p.id ∧ s.net.rounds.get? j = none ∧
      ∃ r : Round, s'.net.rounds.get? j = some r ∧ r.phase = .failed

lemma takenBack_self (p : ProtoRound) (s : Shared) : TakenBack p s s := ⟨rfl, fun _ => Or.inl rfl⟩

section Start

variable {s : Shared} {p : ProtoRound} (now : Instant) (clock : Nat)

lemma start_of_occupied (hcheck : refusal? s.net.nodes p.topology = none)
    (hoccupied : s.net.rounds.contains p.id = true) :
    s.start now clock p = (s, .error (.slotOccupied p.id)) := by
  simp [start, hcheck, Network.addRound, hoccupied]

/-- A member cannot be attached after all. -/
lemma start_of_unattached (htracker : p.id ∉ s.tracker) (hcheck : refusal? s.net.nodes p.topology = none)
    (hvacant : s.net.rounds.get? p.id = none) {fault : Fault}
    (hattach : (attachAll p.id s.net.nodes p.topology).2 = .error fault) :
    (s.start now clock p).2 = .error fault ∧ TakenBack p s (s.start now clock p).1 := by
  have hcontains : s.net.rounds.contains p.id = false := by simp [Table.contains, hvacant]
  have hattach' : attachAll p.id s.net.nodes p.topology
      = ((attachAll p.id s.net.nodes p.topology).1, .error fault) := Prod.ext rfl hattach
  have hback := detachAll_attachAll p.id fun v hv node hnode =>
    (refusal?_eq_none_iff.1 hcheck v hv node hnode).1
  have huntrack : (s.tracker.remove p.id).2 = s.tracker := by rw [Tracker.remove, if_neg htracker]
  rw [start]
  simp only [hcheck, Network.addRound, hcontains, Bool.false_eq_true, if_false, Round.advance,
    Round.phase_allocate, Phase.mayAdvance, if_true, Network.setRound_nodes]
  rw [hattach']
  dsimp only
  rw [hback, huntrack]
  refine ⟨rfl, rfl, fun j => ?_⟩
  simp only [Network.setRound, Table.get?_modify, Table.get?_insert]
  by_cases hj : j = p.id
  · refine Or.inr ⟨hj, hj ▸ hvacant, ((opening p now).fail now).2, ?_, rfl⟩
    simp only [hj, if_true, Option.map_some]
    rfl
  · exact Or.inl (by simp [hj])

/-- Everybody is attached. -/
lemma start_of_attached (htracker : p.id ∉ s.tracker) (h : Startable s p) :
    (s.start now clock p).2 = .ok () ∧ Committed clock p s (s.start now clock p).1 := by
  obtain ⟨after, hafter, hget⟩ :=
    attachAll_of_free p.id h.once fun v hv node hnode => (h.free v hv node hnode).1
  rw [start_of_attachAll now clock (refusal?_eq_none_iff.2 h.free) h.vacant hafter]
  exact ⟨rfl, {
    nodes := hget
    rounds := ⟨opening p now, rfl, rfl, rfl, get?_opening now⟩
    pool := rfl
    counter := rfl
    vacant := h.vacant
    tracker := ⟨htracker, by rw [Tracker.add, if_neg htracker]⟩
    log := ⟨opening p now, (get?_opening now p.id).trans (if_pos rfl), rfl⟩
    key := rfl
    watchers := rfl
    notices := rfl }⟩

/-- The start goes through, or it is taken back. -/
lemma start_outcome (htracked : ∀ id ∈ s.tracker, ∃ r, s.net.rounds.get? id = some r) :
    (Startable s p ∧ (s.start now clock p).2 = .ok () ∧ Committed clock p s (s.start now clock p).1) ∨
      (¬ Startable s p ∧ (∃ fault, (s.start now clock p).2 = .error fault) ∧
        TakenBack p s (s.start now clock p).1) := by
  cases hcheck : refusal? s.net.nodes p.topology with
  | some fault =>
      have hstart : s.start now clock p = (s, .error fault) := by simp [start, hcheck]
      refine Or.inr ⟨fun h => ?_, ?_⟩
      · rw [refusal?_eq_none_iff.2 h.free] at hcheck
        cases hcheck
      · rw [hstart]
        exact ⟨⟨fault, rfl⟩, takenBack_self p s⟩
  | none =>
      cases hround : s.net.rounds.get? p.id with
      | some r =>
          have hstart := start_of_occupied now clock hcheck (by simp [Table.contains, hround])
          refine Or.inr ⟨fun h => ?_, ?_⟩
          · rw [h.vacant] at hround
            cases hround
          · rw [hstart]
            exact ⟨⟨_, rfl⟩, takenBack_self p s⟩
      | none =>
          have htracker : p.id ∉ s.tracker := by
            intro hin
            obtain ⟨r, hr⟩ := htracked _ hin
            rw [hround] at hr
            cases hr
          cases hattach : (attachAll p.id s.net.nodes p.topology).2 with
          | ok _ =>
              have hstartable : Startable s p :=
                ⟨refusal?_eq_none_iff.1 hcheck, hround, nodup_of_attachAll p.id hattach⟩
              exact Or.inl ⟨hstartable, start_of_attached now clock htracker hstartable⟩
          | error fault =>
              have hback := start_of_unattached now clock htracker hcheck hround hattach
              refine Or.inr ⟨fun h => ?_, ⟨fault, hback.1⟩, hback.2⟩
              obtain ⟨after, hafter, -⟩ :=
                attachAll_of_free p.id h.once fun v hv node hnode => (h.free v hv node hnode).1
              rw [hafter] at hattach
              cases hattach

/-- **A start is all or nothing**, for any team and any number, as long as what is tracked has a round.

* It succeeds exactly if the number is free and no registered member holds a round, is banned, or is named
  twice.
* Then the round is new and precomputing, every member that has a node holds it, it is tracked, and there is
  one broadcast more.
* Otherwise nodes, tracker, log and the rounds there were are as before; no node holds a round that it did
  not hold before. -/
theorem start_atomic (s : Shared) (now : Instant) (clock : Nat) (p : ProtoRound)
    (htracked : ∀ id ∈ s.tracker, ∃ r, s.net.rounds.get? id = some r) :
    ((s.start now clock p).2 = .ok () ↔ Startable s p) ∧
    ((s.start now clock p).2 = .ok () → Committed clock p s (s.start now clock p).1) ∧
    (∀ fault, (s.start now clock p).2 = .error fault → TakenBack p s (s.start now clock p).1) := by
  rcases start_outcome now clock htracked with ⟨hstartable, hok, h⟩ | ⟨hnot, ⟨fault, herror⟩, h⟩
  · exact ⟨iff_of_true hok hstartable, fun _ => h, fun fault herror => by simp [hok] at herror⟩
  · exact ⟨iff_of_false (by simp [herror]) hnot, fun hok => by simp [herror] at hok, fun _ _ => h⟩

/-- One of three nodes is in a round.  Of the other two a round is started; with one of them named again, at
the end, it is taken back. -/
theorem start_atomic_of_two :
    let now : Instant := ⟨0, 0⟩
    let s := ((World.small ["a", "b", "c"]).shared.start now 0 ⟨⟨5⟩, ["c"], 8, 30000, 30000⟩).1
    let once : ProtoRound := ⟨⟨7⟩, ["a", "b"], 8, 30000, 30000⟩
    let twice : ProtoRound := { once with topology := ["a", "b", "a"] }
    s.tracker = [⟨5⟩] ∧ (∀ id ∈ s.tracker, ∃ r, s.net.rounds.get? id = some r) ∧
      Committed 0 once s (s.start now 0 once).1 ∧
      (s.start now 0 twice).2 = .error (.holdsRound "a" ⟨7⟩) ∧
      TakenBack twice s (s.start now 0 twice).1 := by
  intro now s once twice
  have htracker : s.tracker = [⟨5⟩] := rfl
  have htracked : ∀ id ∈ s.tracker, ∃ r, s.net.rounds.get? id = some r := by
    intro id hid
    rw [htracker, List.mem_singleton] at hid
    subst hid
    exact ⟨_, rfl⟩
  have htwice : (s.start now 0 twice).2 = .error (.holdsRound "a" ⟨7⟩) := rfl
  exact ⟨htracker, htracked, (start_atomic s now 0 once htracked).2.1 rfl, htwice,
    (start_atomic s now 0 twice htracked).2.2 _ htwice⟩

end Start

end MixRounds.Live.Shared
