import MixRounds.Round.Basic

/-!
# What is said about a round

Two payloads leave the library under a signature: the state of a round at the moment it changed, and
the record of why it failed.
-/

namespace MixRounds

/-- The state of a round as it is broadcast. -/
structure RoundInfo where
  id : RoundId
  phase : Phase
  topology : List NodeId
  batch : UInt32
  stamps : Stamps
  /-- Place in the update log, counted from one; zero until published. -/
  updateId : UInt64
  deriving DecidableEq, Repr

/-- The record of a failure. -/
structure RoundError where
  round : RoundId
  /-- The node it is attributed to; a timeout has none. -/
  node : Option NodeId
  cause : Cause
  time : Instant
  deriving DecidableEq, Repr

/-- The state of round `id`, not yet published. -/
def Round.info (id : RoundId) (r : Round) : RoundInfo :=
  ⟨id, r.phase, r.topology, r.batch, r.stamps, 0⟩

end MixRounds
