import MixRounds.Fault
import MixRounds.Node.Handoff
import MixRounds.Node.Notification

/-!
# Nodes

A node carries its region tag, its status and activity, the round it holds, and the times of its last
poll and last change.  It refers to its round by number only.

`Node.poll` is the one place where a report is checked against the activity cycle.  A poll of a node
that is neither unregistered nor banned is counted and stamped before its activity is looked at, so an
illegal report still shows that the node is alive.
-/

namespace MixRounds

/-- What is known about one node. -/
structure Node where
  region : String
  status : Status
  activity : Activity
  round : Option RoundId
  lastPoll : Instant
  lastUpdate : Instant
  polls : Nat
  handoff : Handoff
  deriving DecidableEq, Repr

namespace Node

/-- A node as it is registered. -/
def fresh (region : String) (status : Status) (now : Instant) : Node :=
  ⟨region, status, .notStarted, none, now, now, 0, .released⟩

/-- A report of `activity`: the node after it, and the notification of a change, or none for a
heartbeat. -/
def poll (id : NodeId) (n : Node) (activity : Activity) (now : Instant) :
    Node × Except Fault (Option Notification) :=
  match n.status with
  | .unregistered => (n, .error (.notRegistered id))
  | .banned => (n, .error (.banned id))
  | _ =>
      let seen := { n with lastPoll := now, polls := n.polls + 1 }
      if n.activity = activity then (seen, .ok none)
      else if n.activity.mayBecome activity then
        ({ seen with activity := activity, lastUpdate := now },
          .ok (some (.ofActivity id n.status n.activity activity now)))
      else (seen, .error (.illegalActivity id n.activity activity))

/-- Ban the node; a node that is banned already is notified once more. -/
def ban (id : NodeId) (n : Node) (now : Instant) : Node × Notification :=
  ({ n with status := .banned, lastUpdate := now }, .ofStatus id n.activity n.status .banned now)

/-- Attach a round; a node never holds two. -/
def attach (id : NodeId) (n : Node) (round : RoundId) : Except Fault Node :=
  match n.round with
  | some held => .error (.holdsRound id held)
  | none => .ok { n with round := some round }

/-- Drop the round, if there is one. -/
def detach (n : Node) : Node := { n with round := none }

/-- Give the node free. -/
def release (n : Node) : Node := { n with handoff := .released }

/-- Take the node for a caller. -/
def tryAcquire (n : Node) : Bool × Node :=
  (n.handoff.tryAcquire.1, { n with handoff := n.handoff.tryAcquire.2 })

/-- Take the node over for the loop. -/
def takeOwnership (n : Node) : Bool × Node :=
  (n.handoff.takeOwnership.1, { n with handoff := n.handoff.takeOwnership.2 })

/-- Whether the last poll is more than `timeout` nanoseconds old; a poll dated in the future is not old. -/
def isStale (n : Node) (now : Instant) (timeout : Nat) : Bool := (timeout : Int) < now.since n.lastPoll

/-! ## What a poll does -/

theorem poll_of_heartbeat {id : NodeId} {n : Node} (now : Instant)
    (h : n.status = .active ∨ n.status = .inactive) :
    n.poll id n.activity now = ({ n with lastPoll := now, polls := n.polls + 1 }, .ok none) := by
  rcases h with h | h <;> simp [poll, h]

theorem poll_region (id : NodeId) (n : Node) (a : Activity) (now : Instant) :
    (n.poll id a now).1.region = n.region := by
  unfold poll; split <;> try rfl
  simp only; split <;> try rfl
  split <;> rfl

theorem poll_round (id : NodeId) (n : Node) (a : Activity) (now : Instant) :
    (n.poll id a now).1.round = n.round := by
  unfold poll; split <;> try rfl
  simp only; split <;> try rfl
  split <;> rfl

theorem poll_status (id : NodeId) (n : Node) (a : Activity) (now : Instant) :
    (n.poll id a now).1.status = n.status := by
  unfold poll; split <;> try rfl
  simp only; split <;> try rfl
  split <;> rfl

end Node

end MixRounds
