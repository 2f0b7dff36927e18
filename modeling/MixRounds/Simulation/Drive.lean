import MixRounds.Live.Settle
import MixRounds.Simulation.Script

/-!
# Driving a scheduler with scripted nodes

In every tick each node reads the broadcasts it has not seen and polls once; then the metrics are read.
The simulation stops when enough rounds have finished, completed or failed, or when its time is up, and
otherwise sleeps until the next tick.  A node about to report standby may be made to report an error
instead; which of them is the simulation's only chance.
-/

namespace MixRounds.Simulation

open Live

/-- What to simulate. -/
structure Plan where
  nodes : List NodeId
  pollMs : Nat
  /-- Whether the `n`-th report of standby is turned into an error. -/
  injects : Nat → Bool
  rounds : Nat
  deadlineMs : Nat

/-- What came of it. -/
structure Report where
  polls : Nat
  busy : Nat
  rejected : Nat
  injected : Nat
  timedOut : Bool
  metrics : Metrics

namespace Report

/-- Nothing has happened yet. -/
def empty : Report := ⟨0, 0, 0, 0, false, ⟨.running, .zero, 0, 0, 0⟩⟩

/-- The rounds that completed or failed. -/
def finished (r : Report) : Nat := r.metrics.counters.roundsCompleted + r.metrics.counters.roundsFailed

def toJson (r : Report) : Json :=
  .obj [("polls", .nat r.polls), ("busy-polls", .nat r.busy), ("rejected-polls", .nat r.rejected),
    ("injected-errors", .nat r.injected), ("timed-out", .bool r.timedOut),
    ("metrics", r.metrics.toJson)]

end Report

/-- A poll that was refused. -/
structure Rejection where
  node : NodeId
  activity : Activity
  fault : Fault

/-- A simulation under way. -/
structure State where
  world : World
  /-- The last broadcast that was read. -/
  seen : UInt64
  /-- The phase of the latest round of each node that was placed in one. -/
  assigned : Table NodeId Phase
  /-- How many reports of standby have been due. -/
  standbys : Nat
  report : Report
  rejections : List Rejection

namespace State

/-- The beginning of a simulation. -/
def start (w : World) : State := ⟨w, 0, .empty, 0, .empty, []⟩

/-- Read the broadcasts that are new. -/
def read (s : State) : State :=
  (s.world.shared.net.log.since s.seen).foldl (fun s update =>
    let info := update.payload
    { s with
      seen := info.updateId
      assigned := info.topology.foldl (fun t member => t.insert member info.phase) s.assigned }) s

/-- The answer to the only call under way; a call in line is waited for, and no longer. -/
def takeAnswer (w : World) : Outcome × World :=
  let w := w.settleToAnswer
  match w.answers with
  | (_, o) :: _ => (o, { w with answers := [] })
  | [] => (.refused .channelClosed, w)

/-- One poll of one node. -/
def pollNode (plan : Plan) (s : State) (id : NodeId) : Except Fault State :=
  match s.world.shared.net.node id with
  | .error fault => .error fault
  | .ok node =>
      let wanted := nextActivity node.activity (s.assigned.get? id)
      let injects := wanted == .standby && plan.injects s.standbys
      let next := if injects then .error else wanted
      let (o, w) := takeAnswer (s.world.poll 0 id next)
      let s := { s with
        world := w
        standbys := if wanted = .standby then s.standbys + 1 else s.standbys
        report := { s.report with
          polls := s.report.polls + 1
          injected := if injects then s.report.injected + 1 else s.report.injected } }
      match o with
      | .busy => .ok { s with report := { s.report with busy := s.report.busy + 1 } }
      | .enqueued => .ok (if next = .waiting then { s with assigned := s.assigned.erase id } else s)
      | .refused fault =>
          .ok { s with
            report := { s.report with rejected := s.report.rejected + 1 }
            rejections := s.rejections ++ [⟨id, next, fault⟩] }
      | _ => .ok s

/-- One poll of each node. -/
def pollAll (plan : Plan) (s : State) : List NodeId → Except Fault State
  | [] => .ok s
  | id :: rest =>
      match pollNode plan s id with
      | .error fault => .error fault
      | .ok s => pollAll plan s rest

/-- Read the metrics of a world that has settled. -/
def readMetrics (w : World) : Except Fault (Metrics × World) :=
  match takeAnswer (w.request (.metrics 0)).settle with
  | (.metrics m, w) => .ok (m, w)
  | (.refused fault, _) => .error fault
  | _ => .error .channelClosed

/-- A tick: read, poll, read the metrics. -/
def tick (plan : Plan) (s : State) : Except Fault State :=
  match pollAll plan s.read plan.nodes with
  | .error fault => .error fault
  | .ok s =>
      match readMetrics s.world with
      | .error fault => .error fault
      | .ok (m, w) => .ok { s with world := w, report := { s.report with metrics := m } }

/-- Tick until enough rounds have finished or the time is up. -/
def drive (plan : Plan) (began : Nat) : Nat → State → Except Fault State
  | 0, s => .ok { s with report := { s.report with timedOut := true } }
  | fuel + 1, s =>
      match tick plan s with
      | .error fault => .error fault
      | .ok s =>
          if plan.rounds ≤ s.report.finished then .ok s
          else if began + plan.deadlineMs ≤ s.world.clock then
            .ok { s with report := { s.report with timedOut := true } }
          else drive plan began fuel { s with world := s.world.advance plan.pollMs }

end State

/-- As many ticks as fit before the deadline, and one at or after it. -/
def tickLimit (plan : Plan) : Nat :=
  if plan.pollMs = 0 then 10000 else plan.deadlineMs / plan.pollMs + 2

/-- Simulate the plan against a running scheduler. -/
def simulate (plan : Plan) (w : World) : Except Fault State :=
  State.drive plan w.clock (tickLimit plan) (.start w)

/-- Of a fraction of all trials, spread evenly: whether the `n`-th trial is one of them. -/
def evenly (rate : Float) (n : Nat) : Bool :=
  if !(0.0 < rate) then false
  else if 1.0 ≤ rate then true
  else (rate * n.toFloat).floor < (rate * (n + 1).toFloat).floor

/-- The name of the `i`-th registered node. -/
def nodeName (i : Nat) : NodeId :=
  let digits := toString i
  "node-" ++ "".pushn '0' (3 - digits.length) ++ digits

/-- Let time pass from one due time to the next until the call is answered. -/
def untilAnswered (call : CallId) : Nat → World → World
  | 0, w => w
  | fuel + 1, w =>
      if w.answers.any fun a => a.1 == call then w
      else
        match w.deadlines.min? with
        | none => w
        | some due => untilAnswered call fuel (w.advance (due - w.clock))

end MixRounds.Simulation
