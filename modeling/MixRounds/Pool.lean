import MixRounds.Network

/-!
# The waiting pool

Nodes that wait for a team are online; nodes that stopped polling while they waited are offline.  The
pool holds their names, in order of arrival, and what it does to the nodes themselves — a swept node
loses its round and becomes inactive, a restored one becomes active — it does to the registry.

A team is picked at random.  The chance enters as a `Shuffle`, a rearrangement of the eligible nodes:
`Pool.pick` takes the first `n` of the rearranged list, so every team can be picked by some shuffle and
no law of the pool depends on which.
-/

namespace MixRounds

/-- A rearrangement of any list of nodes. -/
structure Shuffle where
  order : List NodeId → List NodeId
  perm : ∀ ids, (order ids).Perm ids

namespace Shuffle

/-- Everything stays where it is. -/
def still : Shuffle := ⟨id, fun _ => .refl _⟩

instance : Inhabited Shuffle := ⟨still⟩

end Shuffle

/-- Nodes waiting for a team, and nodes that went missing while waiting. -/
structure Pool where
  online : List NodeId
  offline : List NodeId
  deriving DecidableEq, Repr

namespace Pool

def empty : Pool := ⟨[], []⟩

/-- A list of names with `id` among them. -/
def including (id : NodeId) (ids : List NodeId) : List NodeId :=
  if id ∈ ids then ids else ids ++ [id]

/-- A list of names with `id` left out. -/
def without (id : NodeId) (ids : List NodeId) : List NodeId := ids.filter fun i => i ≠ id

theorem mem_including {id j : NodeId} {ids : List NodeId} :
    j ∈ including id ids ↔ j = id ∨ j ∈ ids := by
  unfold including; split
  · rename_i h
    constructor
    · exact Or.inr
    · rintro (rfl | hj)
      · exact h
      · exact hj
  · simp [or_comm]

theorem mem_without {id j : NodeId} {ids : List NodeId} : j ∈ without id ids ↔ j ∈ ids ∧ j ≠ id := by
  simp [without]

/-- Put a node online, whatever set it was in. -/
def add (p : Pool) (id : NodeId) : Pool :=
  ⟨including id p.online, without id p.offline⟩

/-- Take a node out of both sets; says whether it was in one. -/
def remove (p : Pool) (id : NodeId) : Bool × Pool :=
  (decide (id ∈ p.online ∨ id ∈ p.offline), ⟨without id p.online, without id p.offline⟩)

/-- What the sweep does to a node: no round, and no longer active. -/
def sweptNode (n : Node) : Node :=
  { n with round := none, status := if n.status = .active then .inactive else n.status }

/-- The online nodes whose last poll is more than `timeout` nanoseconds old. -/
def staleAfter (p : Pool) (nodes : Table NodeId Node) (now : Instant) (timeout : Nat) : List NodeId :=
  p.online.filter fun id => (nodes.get? id).any fun n => n.isStale now timeout

/-- Move the nodes offline whose last poll is more than `timeout` nanoseconds old; the moved names come
first. -/
def sweepAfter (p : Pool) (nodes : Table NodeId Node) (now : Instant) (timeout : Nat) :
    List NodeId × Pool × Table NodeId Node :=
  let moved := p.staleAfter nodes now timeout
  (moved,
    ⟨p.online.filter fun id => id ∉ moved, moved.foldl (fun ids id => including id ids) p.offline⟩,
    moved.foldl (fun nodes id => nodes.modify id sweptNode) nodes)

/-- The online nodes whose last poll is older than `seconds`. -/
def stale (p : Pool) (nodes : Table NodeId Node) (now : Instant) (seconds : Nat) : List NodeId :=
  p.staleAfter nodes now (seconds * 1000000000)

/-- The sweep with a timeout in seconds. -/
def sweep (p : Pool) (nodes : Table NodeId Node) (now : Instant) (seconds : Nat) :
    List NodeId × Pool × Table NodeId Node :=
  p.sweepAfter nodes now (seconds * 1000000000)

/-- What coming back does to a node that was swept. -/
def restoredNode (n : Node) : Node :=
  { n with status := if n.status = .inactive then .active else n.status }

/-- Bring an offline node back online; refused for a node that is not offline. -/
def restore (p : Pool) (nodes : Table NodeId Node) (id : NodeId) :
    Bool × Pool × Table NodeId Node :=
  if id ∈ p.offline then
    (true, ⟨including id p.online, without id p.offline⟩, nodes.modify id restoredNode)
  else (false, p, nodes)

/-- The online nodes that may be picked. -/
def eligible (p : Pool) (isDisabled : NodeId → Bool) : List NodeId :=
  p.online.filter fun id => !isDisabled id

/-- Pick `n` eligible nodes and take them out, if at least `threshold` and at least `n` are eligible;
otherwise nothing happens. -/
def pick (p : Pool) (threshold n : Nat) (isDisabled : NodeId → Bool) (chance : Shuffle) :
    Except Fault (List NodeId × Pool) :=
  let candidates := p.eligible isDisabled
  if candidates.length < threshold ∨ candidates.length < n then
    .error (.poolTooSmall candidates.length threshold n)
  else
    let picked := (chance.order candidates).take n
    .ok (picked, { p with online := p.online.filter fun id => id ∉ picked })

/-- Where a node is. -/
def place (p : Pool) (id : NodeId) : String :=
  match decide (id ∈ p.online), decide (id ∈ p.offline) with
  | true, true => "both"
  | true, false => "online"
  | false, true => "offline"
  | false, false => "none"

end Pool

/-- The rounds that started and have not finished. -/
abbrev Tracker := List RoundId

namespace Tracker

/-- Track a round; refused if it is tracked already. -/
def add (t : Tracker) (id : RoundId) : Bool × Tracker :=
  if id ∈ t then (false, t) else (true, t ++ [id])

/-- Stop tracking a round; refused if it is not tracked. -/
def remove (t : Tracker) (id : RoundId) : Bool × Tracker :=
  if id ∈ t then (true, t.filter fun i => i ≠ id) else (false, t)

end Tracker

end MixRounds
