import MixRounds.Live.World

/-!
# Failing a round

Bans, node errors and timers all end a round through `Shared.kill`.  It can be called any number of
times: only the call that moves the round to failed takes it out of the tracker and publishes, first
the record of the failure and then the state of the round.  The node that gave the reason loses its
round in any case.
-/

namespace MixRounds.Live.Shared

/-- Fail a round for the given cause, attributed to a node or to none; says whether this call did it. -/
def kill (s : Shared) (now : Instant) (id : RoundId) (node : Option NodeId) (cause : Cause) :
    Shared × Bool :=
  let s := match node with
    | some node => s.mapNode node Node.detach
    | none => s
  match s.net.rounds.get? id with
  | none => (s, false)
  | some round =>
      match round.fail now with
      | (false, _) => (s, false)
      | (true, failed) =>
          let net := ((s.net.setRound id failed).publishError id node cause now).publish id failed
          ({ s with net := net, tracker := (s.tracker.remove id).2 }.notify (.killed id cause), true)

end MixRounds.Live.Shared
