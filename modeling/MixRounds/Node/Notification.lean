import MixRounds.Instant.Basic
import MixRounds.Node.Activity
import MixRounds.Node.Status
import MixRounds.Round.Id

/-!
# Notifications

A change of a node's activity or status travels to the loop as one immutable record: what it was, what
it is, and when.  A report changes the activity under the same status, a ban the status under the same
activity.
-/

namespace MixRounds

/-- One change of one node. -/
structure Notification where
  node : NodeId
  fromActivity : Activity
  toActivity : Activity
  fromStatus : Status
  toStatus : Status
  time : Instant
  deriving DecidableEq, Repr

namespace Notification

/-- A change of activity under status `status`. -/
def ofActivity (node : NodeId) (status : Status) (old new : Activity) (now : Instant) :
    Notification :=
  ⟨node, old, new, status, status, now⟩

/-- A change of status under activity `activity`. -/
def ofStatus (node : NodeId) (activity : Activity) (old new : Status) (now : Instant) :
    Notification :=
  ⟨node, activity, activity, old, new, now⟩

/-- Whether the status differs before and after. -/
def changesStatus (n : Notification) : Bool := n.fromStatus ≠ n.toStatus

end Notification

end MixRounds
