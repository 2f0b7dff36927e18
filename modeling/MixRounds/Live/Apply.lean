import MixRounds.Live.Kill

/-!
# Applying a notification

A notification is first classified by the change of status it reports and by the phase of the round
its node holds, then by the activity it leads to.  A ban ends the node's round, whatever the phase; a
report about a round that has failed is ignored unless it reports an error; and of the other reports
waiting, standby, completed and error have an effect.

A report may be refused.  What had happened before the refusal stays: a report of completion drops the
node's round first and is counted afterwards, and a report that completes a team is counted even if the
round cannot move.
-/

namespace MixRounds.Live

/-- What a notification is about. -/
inductive Kind where
  /-- The status moved to banned. -/
  | ban
  /-- The node was banned before. -/
  | alreadyBanned
  /-- The node's round has failed and this is no report of an error. -/
  | staleAfterFailure
  | activity (a : Activity)
  deriving DecidableEq, Repr

/-- Classify a notification, given the phase of the round its node holds. -/
def classify (n : Notification) (phase : Option Phase) : Kind :=
  if n.toStatus = .banned then
    if n.fromStatus = .banned then .alreadyBanned else .ban
  else if phase = some .failed ∧ n.toActivity ≠ .error then .staleAfterFailure
  else .activity n.toActivity

/-- What an applied notification did. -/
inductive Effect where
  | nothing
  /-- The node joined the pool. -/
  | waiting
  /-- The team was complete and the round moved. -/
  | advanced (phase : Phase)
  /-- The round failed. -/
  | killed
  deriving DecidableEq, Repr

namespace Shared

/-- End the node's round, if it holds one. -/
def killHeld (s : Shared) (now : Instant) (node : NodeId) (round : Option RoundId) (cause : Cause) :
    Shared × Except Fault Effect :=
  match round with
  | none => (s, .ok .nothing)
  | some id =>
      match s.kill now id (some node) cause with
      | (s, true) => (s, .ok .killed)
      | (s, false) => (s, .ok .nothing)

/-- Count a member of a round ready and, when the team is complete, move the round on to `next` with
the stamp `stamp`, publish it, and do `after`. -/
def countAndAdvance (s : Shared) (id : RoundId) (round : Round) (next : Phase) (stamp : Instant)
    (after : Shared → Shared) : Shared × Except Fault Effect :=
  match round.countReady id with
  | .error fault => (s, .error fault)
  | .ok (counted, complete) =>
      let s := { s with net := s.net.setRound id counted }
      if !complete then (s, .ok .nothing)
      else
        match counted.advance id next stamp with
        | .error fault => (s, .error fault)
        | .ok moved =>
            (after { s with net := (s.net.setRound id moved).publish id moved },
              .ok (.advanced next))

/-- Apply a report of the node, given the round it holds. -/
def applyActivity (s : Shared) (settings : Settings) (now : Instant) (clock : Nat)
    (reserved : List NodeId) (id : NodeId) (node : Node) (held : Option (RoundId × Round)) :
    Activity → Shared × Except Fault Effect
  | .notStarted | .precomputing | .realtime => (s, .ok .nothing)
  | .waiting =>
      let s := s.mapNode id Node.detach
      if node.status = .banned then (s, .ok .nothing)
      else if id ∈ reserved then (s, .ok .nothing)
      else ({ s with pool := s.pool.add id }, .ok .waiting)
  | .standby =>
      match held with
      | none => (s, .error (.noRound id .standby))
      | some (roundId, round) =>
          s.countAndAdvance roundId round .realtime (now.addMillis settings.realtimeDelay)
            fun s => s.watch roundId .realtime (clock + settings.realtimeTimeoutMs.toNat)
  | .completed =>
      match held with
      | none => (s, .error (.noRound id .completed))
      | some (roundId, round) =>
          (s.mapNode id Node.detach).countAndAdvance roundId round .completed now fun s => s
  | .error => s.killHeld now id (held.map Prod.fst) .nodeError

/-- Apply a notification to node, pool and round.  Members of teams on their way to the starter are
reserved: they stay out of the pool. -/
def apply (s : Shared) (settings : Settings) (now : Instant) (clock : Nat) (reserved : List NodeId)
    (n : Notification) : Shared × Except Fault Effect :=
  match s.net.nodes.get? n.node with
  | none => (s, .error (.unknownNode n.node))
  | some node =>
      match node.round with
      | none =>
          match classify n none with
          | .alreadyBanned => (s, .ok .nothing)
          | .ban => ({ s with pool := (s.pool.remove n.node).2 }, .ok .nothing)
          | .staleAfterFailure => (s, .ok .nothing)
          | .activity a => s.applyActivity settings now clock reserved n.node node none a
      | some roundId =>
          match s.net.rounds.get? roundId with
          | none => (s, .error (.unknownRound roundId))
          | some round =>
              match classify n (some round.phase) with
              | .alreadyBanned => (s, .ok .nothing)
              | .ban =>
                  { s with pool := (s.pool.remove n.node).2 }.killHeld now n.node (some roundId)
                    .nodeBanned
              | .staleAfterFailure => (s, .ok .nothing)
              | .activity a =>
                  s.applyActivity settings now clock reserved n.node node (some (roundId, round)) a

end Shared

end MixRounds.Live
