/-!
# The hand-off of a node

Between a poll and the loop a node is in one pair of hands at a time.  A caller takes it before a
notification is queued, the loop takes it over while the notification is applied, and after that it is
free again.
-/

namespace MixRounds

/-- Who is working on a node. -/
inductive Handoff where
  /-- Nobody. -/
  | released
  /-- A caller, on its way to queueing a notification. -/
  | locked
  /-- The loop, applying the notification. -/
  | owned
  deriving DecidableEq, Repr

namespace Handoff

/-- The word for a state of the hand-off. -/
def word : Handoff → String
  | released => "released"
  | locked => "locked"
  | owned => "owned"

/-- Take a free node; refused while someone else has it. -/
def tryAcquire : Handoff → Bool × Handoff
  | released => (true, locked)
  | other => (false, other)

/-- The loop takes over what a caller has taken; refused for anything else. -/
def takeOwnership : Handoff → Bool × Handoff
  | locked => (true, owned)
  | other => (false, other)

theorem tryAcquire_fst_iff (h : Handoff) : h.tryAcquire.1 = true ↔ h = released := by
  cases h <;> simp [tryAcquire]

theorem takeOwnership_fst_iff (h : Handoff) : h.takeOwnership.1 = true ↔ h = locked := by
  cases h <;> simp [takeOwnership]

end Handoff

end MixRounds
