import Mathlib.Data.List.Nodup
import Mathlib.Data.List.Perm.Basic
import MixRounds.Proofs.Pool

/-!
# What a sweep moves, and what comes back

A sweep moves exactly the online nodes offline whose last poll is older than the timeout, and a node that
polls again comes back.  That is **`sweep_law`**: what is moved, what is written to the nodes that are, and
that a return undoes it, up to the round that the node held.

`Pool.sweepAfter` moves all stale nodes at once.  They can also be named first and then moved one after the
other, in any order, out of the set that they were named from (`moveEach`).  Whoever is not there when its
turn comes would be passed over; but the stale nodes are distinct and online, and moving one of them leaves
the others where they are, so both come to the same (`moveEach_eq`).
-/

namespace MixRounds.Pool

variable {p q : Pool} {nodes nodes' : Table NodeId Node} {now : Instant} {timeout : Nat}
  {moved : List NodeId} {v : NodeId}

/-! ## One after the other -/

/-- An online node is swept and put offline; no other is. -/
def moveOne (s : Pool × Table NodeId Node) (v : NodeId) : Pool × Table NodeId Node :=
  if v ∈ s.1.online then (⟨without v s.1.online, including v s.1.offline⟩, s.2.modify v sweptNode) else s

/-- The nodes of a list are moved one after the other. -/
def moveEach (p : Pool) (nodes : Table NodeId Node) (moved : List NodeId) : Pool × Table NodeId Node :=
  moved.foldl moveOne (p, nodes)

/-- **Nobody is passed over**: distinct online nodes are moved whole. -/
lemma moveEach_eq (hnodup : moved.Nodup) (honline : ∀ v ∈ moved, v ∈ p.online) :
    p.moveEach nodes moved =
      (⟨p.online.filter fun v => v ∉ moved, moved.foldl (fun ids v => including v ids) p.offline⟩,
        moved.foldl (fun nodes v => nodes.modify v sweptNode) nodes) := by
  induction moved generalizing p nodes with
  | nil => simp [moveEach]
  | cons v rest ih =>
      obtain ⟨hv, hrest⟩ := List.nodup_cons.1 hnodup
      have hone : moveOne (p, nodes) v
          = (⟨without v p.online, including v p.offline⟩, nodes.modify v sweptNode) :=
        if_pos (honline v List.mem_cons_self)
      -- the nodes still to come are others, and so are online yet
      have hlater : ∀ u ∈ rest, u ∈ without v p.online := by
        intro u hu
        refine mem_without.2 ⟨honline u (List.mem_cons_of_mem v hu), ?_⟩
        rintro rfl
        exact hv hu
      have hfilter : (without v p.online).filter (fun u => u ∉ rest)
          = p.online.filter fun u => u ∉ v :: rest := by
        rw [without, List.filter_filter]
        refine List.filter_congr fun u _ => ?_
        simp [Bool.and_comm]
      have hrun : (⟨without v p.online, including v p.offline⟩ : Pool).moveEach
          (nodes.modify v sweptNode) rest = _ := ih hrest hlater
      rw [moveEach, List.foldl_cons, hone, ← moveEach, hrun, hfilter]
      rfl

/-! ## What is moved -/

lemma mem_staleAfter : v ∈ p.staleAfter nodes now timeout ↔
    v ∈ p.online ∧ ∃ n, nodes.get? v = some n ∧ (timeout : Int) < now.since n.lastPoll := by
  rw [staleAfter, List.mem_filter]
  refine and_congr_right fun _ => ?_
  cases nodes.get? v with
  | none => simp
  | some n => simp [Node.isStale]

lemma keys_foldl_modify (moved : List NodeId) (nodes : Table NodeId Node) (f : Node → Node) :
    (moved.foldl (fun nodes v => nodes.modify v f) nodes).keys = nodes.keys := by
  induction moved generalizing nodes with
  | nil => rfl
  | cons v rest ih => rw [List.foldl_cons, ih, Table.keys_modify]

/-- What a node that is moved becomes: it has no round, and it is inactive if it was active. -/
structure Left (n n' : Node) : Prop where
  round : n'.round = none
  status : n'.status = if n.status = .active then .inactive else n.status
  /-- The rest of it stays as it is. -/
  rest : { n' with round := n.round, status := n.status } = n

/-- The moved node `v` has come back: it was `n` before it was moved, and `q` and `nodes'` are what the sweep
had left. -/
structure Returned (p : Pool) (nodes' : Table NodeId Node) (moved : List NodeId) (v : NodeId) (n : Node)
    (back : Bool × Pool × Table NodeId Node) : Prop where
  found : back.1 = true
  /-- The pool is as if this node had not been moved. -/
  online_iff : ∀ u, u ∈ back.2.1.online ↔ u ∈ p.online ∧ (u ∉ moved ∨ u = v)
  offline_iff : ∀ u, u ∈ back.2.1.offline ↔ u ∈ p.offline ∨ u ∈ moved ∧ u ≠ v
  tidy : back.2.1.Tidy
  /-- And the node is as it was, but for its round. -/
  node : back.2.2.get? v = some { n with round := none }
  others : ∀ u, u ≠ v → back.2.2.get? u = nodes'.get? u
  listed : back.2.2.keys = nodes'.keys

/-- What a sweep of the pool `p` comes to: the nodes that it names, the pool that it leaves, and the registry
that was `nodes`. -/
structure Swept (p : Pool) (nodes : Table NodeId Node) (now : Instant) (timeout : Nat)
    (moved : List NodeId) (q : Pool) (nodes' : Table NodeId Node) : Prop where
  /-- The sweep names the online nodes whose last poll is older than the timeout, each once. -/
  moved_iff : ∀ v, v ∈ moved ↔
    v ∈ p.online ∧ ∃ n, nodes.get? v = some n ∧ (timeout : Int) < now.since n.lastPoll
  nodup : moved.Nodup
  /-- They are offline now, and everybody else is where it was. -/
  online_iff : ∀ v, v ∈ q.online ↔ v ∈ p.online ∧ v ∉ moved
  offline_iff : ∀ v, v ∈ q.offline ↔ v ∈ p.offline ∨ v ∈ moved
  tidy : q.Tidy
  /-- The pool has the same nodes, and each of them once. -/
  conserved : (q.online ++ q.offline).Perm (p.online ++ p.offline)
  left : ∀ v ∈ moved, ∀ n, nodes.get? v = some n → ∃ n', nodes'.get? v = some n' ∧ Left n n'
  kept : ∀ v, v ∉ moved → nodes'.get? v = nodes.get? v
  listed : nodes'.keys = nodes.keys
  /-- A node that was active can come back. -/
  returns : ∀ v ∈ moved, ∀ n, nodes.get? v = some n → n.status = .active →
    Returned p nodes' moved v n (q.restore nodes' v)

lemma Tidy.nodup (hp : p.Tidy) : (p.online ++ p.offline).Nodup :=
  hp.online.append hp.offline fun v hon hoff => hp.apart v hon hoff

lemma left_sweptNode (n : Node) : Left n (sweptNode n) := ⟨rfl, rfl, rfl⟩

/-- A node that was active is itself again after both, but for its round. -/
lemma restoredNode_sweptNode {n : Node} (h : n.status = .active) :
    restoredNode (sweptNode n) = { n with round := none } := by
  simp [restoredNode, sweptNode, h]

/-- **A moved node that was active comes back.** -/
lemma returned_restore (hmoved : ∀ u ∈ moved, u ∈ p.online)
    (honline : ∀ u, u ∈ q.online ↔ u ∈ p.online ∧ u ∉ moved)
    (hoffline : ∀ u, u ∈ q.offline ↔ u ∈ p.offline ∨ u ∈ moved) (hp : p.Tidy) (hq : q.Tidy)
    (hv : v ∈ moved) {n : Node} (hnode : nodes'.get? v = some (sweptNode n)) (hactive : n.status = .active) :
    Returned p nodes' moved v n (q.restore nodes' v) := by
  have hrestore : q.restore nodes' v
      = (true, ⟨including v q.online, without v q.offline⟩, nodes'.modify v restoredNode) :=
    if_pos ((hoffline v).2 (Or.inr hv))
  have hvonline := hmoved v hv
  rw [hrestore]
  exact {
    found := rfl
    online_iff := fun u => by
      rw [mem_including, honline u]
      by_cases hu : u = v
      · simp [hu, hvonline]
      · simp [hu]
    offline_iff := fun u => by
      rw [mem_without, hoffline u]
      by_cases hu : u = v
      · simp [hu, hp.apart v hvonline]
      · simp [hu]
    tidy := hq.add v
    node := by rw [Table.get?_modify_self, hnode, Option.map_some, restoredNode_sweptNode hactive]
    others := fun u hu => Table.get?_modify_of_ne nodes' hu restoredNode
    listed := Table.keys_modify nodes' v restoredNode }

/-- **To move the stale nodes one after the other** is a sweep, in whatever order. -/
lemma swept_moveEach (hp : p.Tidy) (hmoved : moved.Perm (p.staleAfter nodes now timeout)) :
    Swept p nodes now timeout moved (p.moveEach nodes moved).1 (p.moveEach nodes moved).2 := by
  have hnodup : moved.Nodup := hmoved.nodup_iff.2 (hp.online.filter _)
  have hmem : ∀ v, v ∈ moved ↔ v ∈ p.online ∧ ∃ n, nodes.get? v = some n ∧
      (timeout : Int) < now.since n.lastPoll := fun v => hmoved.mem_iff.trans mem_staleAfter
  have hin : ∀ v ∈ moved, v ∈ p.online := fun v hv => ((hmem v).1 hv).1
  rw [moveEach_eq hnodup hin]
  have honline : ∀ v, v ∈ p.online.filter (fun v => v ∉ moved) ↔ v ∈ p.online ∧ v ∉ moved := by simp
  have hoffline : ∀ v, v ∈ moved.foldl (fun ids v => including v ids) p.offline ↔
      v ∈ p.offline ∨ v ∈ moved := fun v => mem_foldl_including.trans or_comm
  have htidy : (⟨p.online.filter fun v => v ∉ moved,
      moved.foldl (fun ids v => including v ids) p.offline⟩ : Pool).Tidy := by
    refine ⟨hp.online.filter _, nodup_foldl_including hp.offline, fun v hv hoff => ?_⟩
    obtain ⟨hon, hstays⟩ := (honline v).1 hv
    exact ((hoffline v).1 hoff).elim (hp.apart v hon) hstays
  have hget := Table.get?_foldl_modify sweptNode_sweptNode moved nodes
  have hleft : ∀ v ∈ moved, ∀ n, nodes.get? v = some n →
      (moved.foldl (fun nodes v => nodes.modify v sweptNode) nodes).get? v = some (sweptNode n) := by
    intro v hv n hn
    rw [hget, if_pos hv, hn, Option.map_some]
  exact {
    moved_iff := hmem
    nodup := hnodup
    online_iff := honline
    offline_iff := hoffline
    tidy := htidy
    conserved := by
      rw [List.perm_ext_iff_of_nodup htidy.nodup hp.nodup]
      intro v
      have hvin := hin v
      simp only [List.mem_append, honline, hoffline]
      tauto
    left := fun v hv n hn => ⟨_, hleft v hv n hn, left_sweptNode n⟩
    kept := fun v hv => by rw [hget, if_neg hv]
    listed := keys_foldl_modify moved nodes sweptNode
    returns := fun v hv n hn hactive =>
      returned_restore hin honline hoffline hp htidy hv (hleft v hv n hn) hactive }

/-- The sweep moves the stale nodes in the order in which they came online. -/
lemma sweepAfter_eq (hp : p.Tidy) : p.sweepAfter nodes now timeout
    = (p.staleAfter nodes now timeout, p.moveEach nodes (p.staleAfter nodes now timeout)) := by
  have hnodup : (p.staleAfter nodes now timeout).Nodup := hp.online.filter _
  rw [moveEach_eq hnodup fun v hv => (mem_staleAfter.1 hv).1]
  rfl

/-- **The law of sweeping**, for any pool whose two lists are disjoint sets, any nodes and any timeout in
nanoseconds.

* The online nodes are moved offline whose last poll is more than the timeout ago, and they are named, each
  once; a last poll in the future is not old.  Everybody else stays where it is.
* A node that is moved loses its round, and it is inactive then if it was active; the rest of it and all
  other nodes stay as they are.
* A node that was active and was moved can come back.  Then it is online and active as before, and nothing is
  left of its having been moved but the loss of its round.
* All this holds as well if the stale nodes are moved one after the other in any order. -/
theorem sweep_law (p : Pool) (hp : p.Tidy) (nodes : Table NodeId Node) (now : Instant) (timeout : Nat) :
    Swept p nodes now timeout (p.sweepAfter nodes now timeout).1 (p.sweepAfter nodes now timeout).2.1
      (p.sweepAfter nodes now timeout).2.2 ∧
    ∀ moved : List NodeId, moved.Perm (p.staleAfter nodes now timeout) →
      Swept p nodes now timeout moved (p.moveEach nodes moved).1 (p.moveEach nodes moved).2 := by
  refine ⟨?_, fun moved hmoved => swept_moveEach hp hmoved⟩
  rw [sweepAfter_eq hp]
  exact swept_moveEach hp (List.Perm.refl _)

/-- Of six nodes two are moved after a timeout of three nanoseconds: an active one that holds a round, and a
banned one.  One has polled exactly three nanoseconds ago, one is dated in the future, one is offline
already, and one is nowhere. -/
theorem sweep_law_of_six :
    let node (status : Status) (seen : Nat) : Node :=
      { Node.fresh "Asia" status ⟨9, seen⟩ with round := some ⟨7⟩ }
    let nodes : Table NodeId Node := ⟨[("late", node .active 6), ("edge", node .active 7),
      ("ahead", node .inactive 900), ("banned", node .banned 0), ("gone", node .inactive 0),
      ("away", node .active 0)], by decide⟩
    let p : Pool := ⟨["late", "edge", "ahead", "banned"], ["gone"]⟩
    p.Tidy ∧ (p.sweepAfter nodes ⟨9, 10⟩ 3).1 = ["late", "banned"] ∧
      Swept p nodes ⟨9, 10⟩ 3 (p.sweepAfter nodes ⟨9, 10⟩ 3).1 (p.sweepAfter nodes ⟨9, 10⟩ 3).2.1
        (p.sweepAfter nodes ⟨9, 10⟩ 3).2.2 := by
  intro node nodes p
  have hp : p.Tidy := ⟨by decide, by decide, by decide⟩
  exact ⟨hp, by decide, (sweep_law p hp nodes ⟨9, 10⟩ 3).1⟩

end MixRounds.Pool
