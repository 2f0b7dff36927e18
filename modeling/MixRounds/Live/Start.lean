import MixRounds.Live.Apply

/-!
# Starting a round

A team is checked member by member before anything is touched: a member that holds a round or is banned
refuses the start.  Then the round is allocated, moved to precomputing and tracked, the members are
attached, and its state is published; a timer is set on its first phase.

A start is all or nothing.  If a member cannot be attached after all — a team may name one twice — the
members attached so far are detached again, the round is failed and no longer tracked, and nothing is
published.
-/

namespace MixRounds.Live.Shared

/-- The first reason why a member cannot join a new round. -/
def refusal? (nodes : Table NodeId Node) : List NodeId → Option Fault
  | [] => none
  | id :: rest =>
      match nodes.get? id with
      | none => refusal? nodes rest
      | some node =>
          match node.round with
          | some held => some (.holdsRound id held)
          | none => if node.status = .banned then some (.banned id) else refusal? nodes rest

/-- Attach a round to the members one after the other, up to the first that cannot take it. -/
def attachAll (round : RoundId) : Table NodeId Node → List NodeId → Table NodeId Node × Except Fault Unit
  | nodes, [] => (nodes, .ok ())
  | nodes, id :: rest =>
      match nodes.get? id with
      | none => attachAll round nodes rest
      | some node =>
          match node.attach id round with
          | .error fault => (nodes, .error fault)
          | .ok attached => attachAll round (nodes.modify id fun _ => attached) rest

/-- Detach a round from those of the members that hold it. -/
def detachAll (round : RoundId) (nodes : Table NodeId Node) (members : List NodeId) :
    Table NodeId Node :=
  members.foldl (fun nodes id =>
    nodes.modify id fun n => if n.round = some round then n.detach else n) nodes

/-- Start a round with the team. -/
def start (s : Shared) (now : Instant) (clock : Nat) (proto : ProtoRound) :
    Shared × Except Fault Unit :=
  match refusal? s.net.nodes proto.topology with
  | some fault => (s, .error fault)
  | none =>
      let pending := Round.allocate proto.topology proto.batch now
      match s.net.addRound proto.id pending with
      | .error fault => (s, .error fault)
      | .ok net =>
          match pending.advance proto.id .precomputing now with
          | .error fault => ({ s with net := net }, .error fault)
          | .ok round =>
              let net := net.setRound proto.id round
              match attachAll proto.id net.nodes proto.topology with
              | (nodes, .error fault) =>
                  let nodes := detachAll proto.id nodes proto.topology
                  ({ s with net := { net with nodes := nodes }.setRound proto.id (round.fail now).2,
                            tracker := (s.tracker.remove proto.id).2 }, .error fault)
              | (nodes, .ok ()) =>
                  let net := { net with nodes := nodes }.publish proto.id round
                  ({ s with net := net, tracker := (s.tracker.add proto.id).2 }.watch proto.id
                    .precomputation (clock + proto.precomputationTimeout), .ok ())

end MixRounds.Live.Shared
