import MixRounds.Node.Activity
import MixRounds.Round.Phase

/-!
# What a scripted node reports

A scripted node knows its own activity and, from the broadcasts it has read, the phase of the latest
round it was placed in.  It reports the next step of the cycle as soon as its round allows it, falls
into error when its round has failed, and otherwise repeats itself.  It never reports anything that the
activity cycle forbids: `mayBecome_nextActivity`.
-/

namespace MixRounds.Simulation

/-- The activity that a well-behaved node reports next. -/
def nextActivity (current : Activity) (assigned : Option Phase) : Activity :=
  match current, assigned with
  | .notStarted, _ => .waiting
  | .completed, _ => .waiting
  | .error, _ => .waiting
  | _, some .failed => .error
  | .waiting, some .precomputing => .precomputing
  | .precomputing, some .precomputing => .standby
  | .standby, some .realtime => .realtime
  | .realtime, some .realtime => .completed
  | current, _ => current

theorem mayBecome_nextActivity (a : Activity) (p : Option Phase) :
    nextActivity a p = a ∨ a.mayBecome (nextActivity a p) = true := by
  cases a <;> cases p <;> (try (rename_i q; cases q)) <;> decide

end MixRounds.Simulation
