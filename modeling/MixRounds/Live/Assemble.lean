import MixRounds.Live.World

/-!
# Forming teams

While enough nodes wait, the loop picks a team, draws a number for it, puts it in relay order and hands
it to the round starter.  Its members are reserved until the starter reports back.

A team that cannot be put in order goes back to the pool.  If that is a matter of configuration it is
counted, and the loop gives up only after so many failures in a row; any other failure ends the loop at
once.  Each team takes at least one node out of the pool, so the number of waiting nodes bounds the
number of attempts.

If the costs of a team overflow on the search for its order, the loop breaks down where it stands: the
picked nodes are out of the pool and are not put back, and nothing is counted.
-/

namespace MixRounds.Live.World

/-- Whether to try for another team. -/
inductive Attempt where
  | assembled
  /-- Too few nodes wait, or the team could not be formed. -/
  | givenUp
  /-- The loop is over. -/
  | fatal (setback : Setback)
  deriving DecidableEq, Repr

/-- The members with their region tags. -/
def tagged (nodes : Table NodeId Node) (ids : List NodeId) : List (NodeId × String) :=
  ids.map fun id => (id, ((nodes.get? id).map Node.region).getD "")

/-- Draw a number for the team and put it in relay order. -/
def formTeam (w : World) (picked : List NodeId) : Except Setback ProtoRound × Network :=
  let (drawn, net) := w.shared.net.reserve
  match drawn with
  | .error fault => (.error (.fault fault), net)
  | .ok id =>
      match Team.ordered w.latency (tagged net.nodes picked) with
      | .error setback => (.error setback, net)
      | .ok members =>
          (.ok ⟨id, members.map Prod.fst, w.settings.batch, w.settings.precomputationTimeoutMs.toNat,
            w.settings.realtimeTimeoutMs.toNat⟩, net)

/-- The team could not be formed: its members go back, and the failure is counted. -/
def assemblyFailed (w : World) (picked : List NodeId) (fault : Fault) : World × Attempt :=
  let w := w.mapShared fun s => { s with pool := picked.foldl Pool.add s.pool }
  let w := w.count fun c => { c with assemblyFailures := c.assemblyFailures + 1 }
  if !fault.isConfiguration then (w, .fatal (.fault fault))
  else
    let failures := w.loop.failures + 1
    let w := { w with loop := { w.loop with failures := failures } }
    let w := w.mapShared fun s => s.notify (.assemblyFailed failures fault)
    if w.settings.maxAssemblyFailures.toNat ≤ failures then (w, .fatal (.fault fault)) else (w, .givenUp)

/-- The team is formed: it goes to the starter, and its members are reserved. -/
def teamFormed (w : World) (proto : ProtoRound) : World :=
  { w with
    protos := w.protos ++ [proto]
    loop := { w.loop with
      failures := 0
      counters := { w.loop.counters with roundsAssembled := w.loop.counters.roundsAssembled + 1 }
      reserved := proto.topology.foldl (fun ids id => Pool.including id ids) w.loop.reserved
      inFlight := w.loop.inFlight.insert proto.id proto.topology } }

/-- The number of waiting nodes that a pick asks for. -/
def threshold (w : World) : Nat := w.settings.thresholdFor (UInt64.ofNat w.shared.net.activeCount)

/-- Try for one team. -/
def assembleOne (w : World) (chance : Shuffle) : World × Attempt :=
  match w.shared.pool.pick w.threshold w.settings.teamSize.toNat w.isDisabled chance with
  | .error fault => if fault.isSteadyState then (w, .givenUp) else (w, .fatal (.fault fault))
  | .ok (picked, pool) =>
      let w := w.mapShared fun s => { s with pool := pool }
      match w.formTeam picked with
      | (.error (.fault fault), net) =>
          (w.mapShared fun s => { s with net := net }).assemblyFailed picked fault
      | (.error .overflow, net) => (w.mapShared fun s => { s with net := net }, .fatal .overflow)
      | (.ok proto, net) => ((w.mapShared fun s => { s with net := net }).teamFormed proto, .assembled)

/-- Form teams until an attempt is given up; the setback, if one ended the loop. -/
def assembleFrom : Nat → (Nat → Shuffle) → World → World × Option Setback
  | 0, _, w => (w, none)
  | fuel + 1, chance, w =>
      match w.assembleOne (chance 0) with
      | (w, .assembled) => assembleFrom fuel (fun i => chance (i + 1)) w
      | (w, .givenUp) => (w, none)
      | (w, .fatal setback) => (w, some setback)

/-- Form all teams that the pool allows. -/
def assemble (w : World) (chance : Nat → Shuffle) : World × Option Setback :=
  assembleFrom (w.shared.pool.online.length + 1) chance w

end MixRounds.Live.World
