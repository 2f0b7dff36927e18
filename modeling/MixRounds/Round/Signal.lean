import MixRounds.Round.Basic

/-!
# The signal of a round

Whoever waits for a round to leave a phase does not ask again and again: a round has a signal that shows its
phase.  The signal is set in the same go in which the phase changes, and who subscribed to it is woken then
and sees what it shows.

`SignalledRound` is a round with its signal.  It does what a round does, and sets the signal as it goes.
-/

namespace MixRounds

/-- A signal that shows a phase. -/
structure Signal where
  shown : Phase
  /-- How often the signal was set. -/
  version : Nat
  deriving DecidableEq, Repr

namespace Signal

/-- Show another phase. -/
def set (s : Signal) (p : Phase) : Signal := ⟨p, s.version + 1⟩

/-- Whether a subscriber that has last seen `seen` is woken. -/
def hasChanged (s seen : Signal) : Bool := s.version ≠ seen.version

end Signal

/-- A round with the signal that shows its phase. -/
structure SignalledRound where
  round : Round
  signal : Signal
  deriving DecidableEq, Repr

namespace SignalledRound

/-- A pending round. -/
def allocate (topology : List NodeId) (batch : UInt32) (now : Instant) : SignalledRound :=
  ⟨.allocate topology batch now, ⟨.pending, 0⟩⟩

/-- Move to `next` at time `t`. -/
def advance (id : RoundId) (s : SignalledRound) (next : Phase) (t : Instant) :
    Except Fault SignalledRound :=
  match s.round.advance id next t with
  | .ok r => .ok ⟨r, s.signal.set next⟩
  | .error fault => .error fault

/-- Count one more member ready; says whether the team is complete. -/
def countReady (id : RoundId) (s : SignalledRound) : Except Fault (SignalledRound × Bool) :=
  match s.round.countReady id with
  | .ok (r, complete) => .ok (⟨r, s.signal⟩, complete)
  | .error fault => .error fault

/-- Force the round to fail at time `t`; says whether it did. -/
def fail (s : SignalledRound) (t : Instant) : Bool × SignalledRound :=
  match s.round.fail t with
  | (true, r) => (true, ⟨r, s.signal.set .failed⟩)
  | (false, r) => (false, ⟨r, s.signal⟩)

end SignalledRound

end MixRounds
