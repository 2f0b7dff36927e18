import MixRounds.Ledger.UpdateLog
import MixRounds.Node.Basic
import MixRounds.Table

/-!
# The network

What the loop and the polling front share: the registered nodes, the rounds that were ever allocated,
the update log with its key, and the counter that round numbers are drawn from.
-/

namespace MixRounds

/-- A counter of 64 bits.  The greatest number is never handed out, but asking for it moves the counter
on, and it goes on from zero. -/
structure RoundCounter where
  next : UInt64
  deriving DecidableEq, Repr

namespace RoundCounter

/-- Draw a number. -/
def reserve (c : RoundCounter) : Except Fault RoundId × RoundCounter :=
  if c.next = UInt64.ofNat (UInt64.size - 1) then
    (.error (.roundIds "round id space exhausted"), ⟨c.next + 1⟩)
  else (.ok ⟨c.next⟩, ⟨c.next + 1⟩)

end RoundCounter

/-- The shared state. -/
structure Network where
  nodes : Table NodeId Node
  rounds : Table RoundId Round
  log : UpdateLog
  key : SigningKey
  counter : RoundCounter

namespace Network

/-- A network without nodes and rounds. -/
def empty (key : SigningKey) (first : RoundId) : Network :=
  ⟨.empty, .empty, .empty, key, ⟨first.number⟩⟩

/-- Register a node; one that is known already stays as it is. -/
def register (net : Network) (id : NodeId) (region : String) (status : Status) (now : Instant) :
    Network :=
  if net.nodes.contains id then net
  else { net with nodes := net.nodes.insert id (.fresh region status now) }

/-- The node of that name. -/
def node (net : Network) (id : NodeId) : Except Fault Node :=
  match net.nodes.get? id with
  | some n => .ok n
  | none => .error (.unknownNode id)

/-- The round of that number. -/
def round (net : Network) (id : RoundId) : Except Fault Round :=
  match net.rounds.get? id with
  | some r => .ok r
  | none => .error (.unknownRound id)

/-- Change a node. -/
def mapNode (net : Network) (id : NodeId) (f : Node → Node) : Network :=
  { net with nodes := net.nodes.modify id f }

/-- Put a round in the place of an earlier state of it. -/
def setRound (net : Network) (id : RoundId) (r : Round) : Network :=
  { net with rounds := net.rounds.modify id fun _ => r }

/-- Allocate a round; its number must be free. -/
def addRound (net : Network) (id : RoundId) (r : Round) : Except Fault Network :=
  if net.rounds.contains id then .error (.slotOccupied id)
  else .ok { net with rounds := net.rounds.insert id r }

/-- The nodes that count toward the pool threshold. -/
def activeCount (net : Network) : Nat := net.nodes.count fun n => n.status = .active

/-- Draw a round number. -/
def reserve (net : Network) : Except Fault RoundId × Network :=
  (net.counter.reserve.1, { net with counter := net.counter.reserve.2 })

/-- Sign the state of a round and append it to the log. -/
def publish (net : Network) (id : RoundId) (r : Round) : Network :=
  { net with log := net.log.push net.key (r.info id) }

/-- Sign and store the record of a failure. -/
def publishError (net : Network) (id : RoundId) (node : Option NodeId) (cause : Cause)
    (now : Instant) : Network :=
  { net with log := net.log.pushError (.sign net.key ⟨id, node, cause, now⟩) }

/-- A short description: how many rounds and how many broadcasts there are. -/
def summary (net : Network) : String :=
  "NetworkState \x7b rounds: " ++ toString net.rounds.size ++ ", latest_update_id: " ++
    toString net.log.latest.toNat ++ ", .. \x7d"

@[simp] theorem mapNode_rounds (net : Network) (id : NodeId) (f : Node → Node) :
    (net.mapNode id f).rounds = net.rounds := rfl

@[simp] theorem mapNode_log (net : Network) (id : NodeId) (f : Node → Node) :
    (net.mapNode id f).log = net.log := rfl

@[simp] theorem setRound_nodes (net : Network) (id : RoundId) (r : Round) :
    (net.setRound id r).nodes = net.nodes := rfl

@[simp] theorem publish_nodes (net : Network) (id : RoundId) (r : Round) :
    (net.publish id r).nodes = net.nodes := rfl

@[simp] theorem publish_rounds (net : Network) (id : RoundId) (r : Round) :
    (net.publish id r).rounds = net.rounds := rfl

end Network

end MixRounds
