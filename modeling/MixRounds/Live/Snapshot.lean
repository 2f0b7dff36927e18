import MixRounds.Ledger.Row
import MixRounds.Live.World

/-!
# Snapshots of a scheduler

What an operator sees of a running scheduler: where the loop stands, what it has given notice of, and
either every node and round or only how many there are.
-/

namespace MixRounds.Live

def Notice.row : Notice → Json
  | updateRejected node a f => .strings ["update_rejected", node, a.word, f.message]
  | startFailed round f => .strings ["start_failed", round.text, f.message]
  | assemblyFailed n f => .strings ["assembly_failed", toString n, f.message]
  | timerExpired round p => .strings ["timer_expired", round.text, p.word]
  | killed round c => .strings ["killed", round.text, c.text]

def Outcome.toJson : Outcome → Json
  | unchanged => .str "unchanged"
  | enqueued => .str "enqueued"
  | busy => .str "busy"
  | done => .ok .null
  | metrics m => .ok m.toJson
  | refused f => f.toJson

/-- A loop that waits for its starter still counts as running. -/
def Stage.toJson : Stage → Json
  | idle => .str "idle"
  | running | closing _ => .str "running"
  | ended r => .ofUnit r
  | dropped => .str "dropped"

namespace World

/-- A node with its place in the pool. -/
def nodeRow (w : World) (id : NodeId) (n : Node) : Json :=
  .arr [.str id, n.status.toJson, n.activity.toJson, .ofOption RoundId.toJson n.round, .nat n.polls,
    .str (w.shared.pool.place id), .str n.handoff.word]

/-- The regions of the members of a team, unless a member or its region is unknown. -/
def regionsOf? (w : World) (topology : List NodeId) : Option (List Region) :=
  topology.mapM fun id => (w.shared.net.nodes.get? id).bind fun n => Region.ofTag? n.region

/-- A round with the cost of its team in relay order, if that can be told; nothing if it overflows. -/
def roundRow (w : World) (id : RoundId) (r : Round) : Option Json := do
  let cost ← match w.regionsOf? r.topology with
    | none => some .null
    | some regions => (w.latency.cycleCost regions).map fun c => .nat c.toNat
  return .arr [id.toJson, r.phase.toJson, .nat r.ready, .sortedNodes r.topology, cost]

/-- The nodes in the order of their names, as `row` shows them. -/
def nodeRows (w : World) (row : NodeId → Node → Json) : Json :=
  let nodes := w.shared.net.nodes
  .arr ((sortNodes nodes.keys).filterMap fun id => (nodes.get? id).map (row id))

/-- Every node, those of the rounds that are `shown`, and what the log has gained; nothing if the cost of a
round overflows. -/
def details (w : World) (shown : RoundId → Bool) (before : UpdateLog) : Option (List (String × Json)) := do
  let net := w.shared.net
  let known := (RoundId.sort (net.rounds.keys.filter shown)).filterMap fun id =>
    (net.rounds.get? id).map fun r => (id, r)
  let rounds ← known.mapM fun (id, r) => w.roundRow id r
  return [("nodes", w.nodeRows w.nodeRow), ("rounds", .arr rounds),
    ("active", .sortedRounds w.shared.tracker)] ++ net.log.newRows before net.key.pub

/-- How many nodes, rounds and new log entries there are. -/
def totals (w : World) (before : UpdateLog) : List (String × Json) :=
  let net := w.shared.net
  [("online", .nat w.shared.pool.online.length), ("offline", .nat w.shared.pool.offline.length),
    ("holding", .nat (net.nodes.count fun n => n.round.isSome)), ("rounds", .nat net.rounds.size),
    ("active", .nat w.shared.tracker.length),
    ("updates", .nat (net.log.updates.length - before.updates.length)),
    ("errors", .nat (net.log.errors.length - before.errors.length))]

/-- Where the loop stands, and the notices given. -/
def standing (w : World) : List (String × Json) :=
  [("loop", w.loop.stage.toJson), ("log", .arr (w.shared.notices.map Notice.row))]

end World

end MixRounds.Live
