import MixRounds.Live.Assemble
import MixRounds.Live.Start

/-!
# One turn of the loop

A turn takes one message — a notification, an event of a worker, or a request — deals with it, forms
teams while the loop admits rounds, and, once a shutdown was asked for and nothing is active or on its
way, acknowledges every shutdown and ends.  An ended loop turns away everyone who still waits for it;
notifications left in its queue are lost, and their nodes stay taken.  A loop that breaks down does all
that too, but nobody hears of a result, and the sweep goes on without it.
-/

namespace MixRounds.Live.World

/-- Apply a notification: the loop takes the node over, and gives it free whatever comes of it. -/
def processUpdate (w : World) (n : Notification) : World :=
  let w := w.count fun c => { c with updatesProcessed := c.updatesProcessed + 1 }
  let w := w.mapNode n.node fun node => node.takeOwnership.2
  let (shared, result) := w.shared.apply w.settings w.wall w.clock w.loop.reserved n
  let w := { w with shared := shared.mapNode n.node Node.release }
  match result with
  | .ok (.advanced .completed) => w.count fun c => { c with roundsCompleted := c.roundsCompleted + 1 }
  | .ok .killed => w.count fun c => { c with roundsFailed := c.roundsFailed + 1 }
  | .ok _ => w
  | .error fault =>
      (w.count fun c => { c with updateErrors := c.updateErrors + 1 }).mapShared fun s =>
        s.notify (.updateRejected n.node n.toActivity fault)

/-- The starter has reported back on a team: its members are no longer reserved. -/
def unreserve (w : World) (id : RoundId) : World :=
  match w.loop.inFlight.get? id with
  | none => w
  | some members =>
      { w with loop := { w.loop with
          inFlight := w.loop.inFlight.erase id
          reserved := w.loop.reserved.filter fun node => node ∉ members } }

/-- Whether a member of a refused team goes back to the pool: it waits, is not banned, and holds no
round. -/
def returns (nodes : Table NodeId Node) (id : NodeId) : Bool :=
  (nodes.get? id).any fun n => n.round.isNone && n.status != .banned && n.activity == .waiting

/-- A phase timer ran out: the round fails, unless it is at its end or the timer is one of
precomputation and the round has left that. -/
def processTimeout (w : World) (id : RoundId) (phase : TimedPhase) : World :=
  match w.shared.net.rounds.get? id with
  | none => w
  | some round =>
      if round.phase.isTerminal then w
      else if phase = .precomputation ∧ round.phase ≠ .precomputing then w
      else
        let w := w.count fun c => { c with timeouts := c.timeouts + 1 }
        match w.shared.kill w.wall id none (.timeout (.classify round.phase)) with
        | (shared, true) =>
            { w with shared := shared }.count fun c => { c with roundsFailed := c.roundsFailed + 1 }
        | (shared, false) => { w with shared := shared }

/-- Deal with an event of a worker. -/
def processEvent (w : World) : Event → World
  | .timedOut round phase => w.processTimeout round phase
  | .started round =>
      (w.unreserve round).count fun c => { c with roundsStarted := c.roundsStarted + 1 }
  | .startFailed proto _ =>
      let w := (w.unreserve proto.id).count fun c => { c with startFailures := c.startFailures + 1 }
      w.mapShared fun s =>
        { s with pool := (proto.topology.filter (returns s.net.nodes)).foldl Pool.add s.pool }
  | .finished _ => w

/-- Deal with a request; a shutdown is acknowledged later. -/
def processRequest (w : World) : Request → World
  | .metrics call => w.answer call (.metrics w.metrics)
  | .shutdown call =>
      { w with loop := { w.loop with
          runState := if w.loop.runState = .running then .draining else w.loop.runState
          acks := w.loop.acks ++ [call] } }

/-- A message of any kind. -/
inductive Message where
  | update (n : Notification)
  | event (e : Event)
  | request (r : Request)
  deriving DecidableEq, Repr

/-- Where a message comes from. -/
inductive Source where
  | updates
  | events
  | requests
  deriving DecidableEq, Repr

/-- Take the oldest message of a queue. -/
def take? (w : World) : Source → Option (Message × World)
  | .updates => w.updates.receive?.map fun (m, ch) => (.update m, { w with updates := ch })
  | .events => w.events.receive?.map fun (m, ch) => (.event m, { w with events := ch })
  | .requests => w.requests.receive?.map fun (m, ch) => (.request m, { w with requests := ch })

/-- Deal with a message. -/
def process (w : World) : Message → World
  | .update n => w.processUpdate n
  | .event e => w.processEvent e
  | .request r => w.processRequest r

/-! ## The end of the loop -/

/-- Give the node of a caller in line free and turn the caller away. -/
def turnAway (w : World) (who : Notifier) : World :=
  (w.mapNode who.node Node.release).answer who.call (.refused .channelClosed)

/-- The queues lose their reader.  Callers in line are turned away, callers waiting for an answer get
none, and workers in line end. -/
def closeQueues (w : World) : World :=
  let w := (w.updates.waiting.map Prod.fst).foldl turnAway w
  let calls := w.requests.messages.map Request.call ++ w.loop.acks
  let w := calls.foldl (fun w call => w.answer call (.refused .channelClosed)) w
  { w with
    updates := w.updates.close
    events := w.events.close
    requests := w.requests.close
    loop := { w.loop with acks := [] }
    starter := if w.starter = .reporting then .absent else w.starter }

/-- Whether a loop that is over has broken down. -/
def brokeDown : Except Setback Unit → Bool
  | .error .overflow => true
  | _ => false

/-- The loop is over, and the sweep ends with it unless the loop has broken down. -/
def finish (w : World) (result : Except Setback Unit) : World :=
  let w := w.closeQueues
  { w with
    nextSweep := if brokeDown result then w.nextSweep else none
    loop := { w.loop with stage := .after result } }

/-- Acknowledge every shutdown that was asked for. -/
def acknowledge (w : World) : World :=
  let w := w.loop.acks.foldl (fun w call => w.answer call .done) w
  { w with loop := { w.loop with acks := [], runState := .stopped } }

/-- What follows every message: form teams while the loop admits rounds, and end a drained loop. -/
def settleTurn (w : World) (chance : Nat → Shuffle) : World :=
  let (w, setback) := if w.loop.runState = .running then w.assemble chance else (w, none)
  match setback with
  | some setback => w.finish (.error setback)
  | none =>
      if w.loop.runState = .draining ∧ w.isQuiescent then w.acknowledge.finish (.ok ())
      else w

/-- One turn of the loop with the oldest message of a queue; without one, nothing. -/
def iterate (w : World) (source : Source) (chance : Nat → Shuffle) : World :=
  if w.isRunning then
    match w.take? source with
    | none => w
    | some (m, w) => (w.process m).settleTurn chance
  else w

end MixRounds.Live.World
