import MixRounds.Live.Channel
import MixRounds.Live.Message
import MixRounds.Pool
import MixRounds.Settings.Basic

/-!
# The state of a running scheduler

`Shared` is what the loop and its workers both reach: the network, the pool, the tracker and the phase
watchers.  `World` adds the loop itself, the round starter, the sweep, the queues between them, the
calls that have not ended, and two clocks.  Timers run on `World.clock`, in milliseconds; stamps and
poll ages are taken from `World.wall`.

Everything that happens to a scheduler is a function on these two types, one for each step that
nothing can interrupt.

Three things are no part of the state.  Of the lines for a log there are only the notices.  A payload always
has a text, so publishing cannot fail for want of one.  And a stamp has no bounds: it may lie past the last
year of a calendar, where a clock with a last year would give up.
-/

namespace MixRounds.Live

/-- A timer on a phase of a round. -/
structure Watcher where
  round : RoundId
  phase : TimedPhase
  deadline : Nat
  deriving DecidableEq, Repr

/-- What the loop and its workers both reach. -/
structure Shared where
  net : Network
  pool : Pool
  tracker : Tracker
  /-- Watchers that have neither fired nor ended, in the order in which they were set. -/
  watchers : List Watcher
  /-- Notices in order, oldest first. -/
  notices : List Notice

namespace Shared

/-- Change a node. -/
def mapNode (s : Shared) (id : NodeId) (f : Node → Node) : Shared :=
  { s with net := s.net.mapNode id f }

/-- Add a notice. -/
def notify (s : Shared) (n : Notice) : Shared := { s with notices := s.notices ++ [n] }

/-- Set a timer on a phase of a round. -/
def watch (s : Shared) (round : RoundId) (phase : TimedPhase) (deadline : Nat) : Shared :=
  { s with watchers := s.watchers ++ [⟨round, phase, deadline⟩] }

end Shared

/-- Where the loop stands. -/
inductive Stage where
  /-- Built, not yet running. -/
  | idle
  | running
  /-- The loop is over and waits for the round starter to stop. -/
  | closing (result : Except Fault Unit)
  | ended (result : Except Fault Unit)
  /-- Destroyed from outside, or broken down; there is no result. -/
  | dropped

/-- Where a loop stands once it has come to this. -/
def Stage.after : Except Setback Unit → Stage
  | .ok () => .closing (.ok ())
  | .error (.fault fault) => .closing (.error fault)
  | .error .overflow => .dropped

/-- What the round starter is doing. -/
inductive Starter where
  /-- Not started, or stopped. -/
  | absent
  /-- Waiting for a team. -/
  | idle
  /-- Holding back a team until the clock shows `due`. -/
  | pausing (proto : ProtoRound) (due : Nat)
  /-- In line with an event. -/
  | reporting
  deriving DecidableEq, Repr

/-- The loop's own bookkeeping. -/
structure Loop where
  stage : Stage
  runState : RunState
  /-- Teams handed to the starter and not yet reported back, with their members. -/
  inFlight : Table RoundId (List NodeId)
  /-- The members of these teams. -/
  reserved : List NodeId
  /-- Failures of assembly since the last success. -/
  failures : Nat
  /-- Shutdown requests to acknowledge. -/
  acks : List CallId
  counters : Counters

/-- The whole of a running scheduler. -/
structure World where
  settings : Settings
  latency : Latency
  /-- Nodes that must not be picked. -/
  isDisabled : NodeId → Bool
  shared : Shared
  loop : Loop
  updates : Channel Notifier Notification
  events : Channel Worker Event
  requests : Channel Request Request
  starter : Starter
  /-- Teams on their way to the starter. -/
  protos : List ProtoRound
  /-- When the next sweep is due. -/
  nextSweep : Option Nat
  /-- Bans that wait for their node to be free. -/
  parked : List (CallId × NodeId)
  /-- Calls that came to an end, oldest first. -/
  answers : List (CallId × Outcome)
  clock : Nat
  wall : Instant

namespace World

/-- A scheduler over a network, with an empty pool. -/
def create (settings : Settings) (latency : Latency) (isDisabled : NodeId → Bool) (net : Network)
    (wall : Instant) : World where
  settings := settings
  latency := latency
  isDisabled := isDisabled
  shared := ⟨net, .empty, [], [], []⟩
  loop := ⟨.idle, .running, .empty, [], 0, [], .zero⟩
  updates := .withCapacity settings.updateBuffer.toNat
  events := .withCapacity settings.eventBuffer.toNat
  requests := .withCapacity settings.eventBuffer.toNat
  starter := .absent
  protos := []
  nextSweep := none
  parked := []
  answers := []
  clock := 0
  wall := wall

/-- A queue with that much room; the room must be more than nothing and at most
`Settings.maxBuffer`. -/
def queue? {σ α : Type} (room : Nat) : Option (Channel σ α) :=
  if 0 < room ∧ room ≤ Settings.maxBuffer then some (.withCapacity room) else none

/-- A scheduler over a network, with an empty pool; nothing if one of its queues cannot be created. -/
def create? (settings : Settings) (latency : Latency) (isDisabled : NodeId → Bool) (net : Network)
    (wall : Instant) : Option World := do
  let updates ← queue? settings.updateBuffer.toNat
  let events ← queue? settings.eventBuffer.toNat
  let requests ← queue? settings.eventBuffer.toNat
  return { create settings latency isDisabled net wall with
    updates := updates, events := events, requests := requests }

/-- Change what is shared. -/
def mapShared (w : World) (f : Shared → Shared) : World := { w with shared := f w.shared }

/-- Change a node. -/
def mapNode (w : World) (id : NodeId) (f : Node → Node) : World :=
  w.mapShared fun s => s.mapNode id f

/-- Report what a call came to. -/
def answer (w : World) (call : CallId) (o : Outcome) : World :=
  { w with answers := w.answers ++ [(call, o)] }

/-- Change the counters. -/
def count (w : World) (f : Counters → Counters) : World :=
  { w with loop := { w.loop with counters := f w.loop.counters } }

/-- Whether the loop takes messages. -/
def isRunning (w : World) : Bool :=
  match w.loop.stage with
  | .running => true
  | _ => false

/-- Whether nothing is active and nothing is on its way to the starter. -/
def isQuiescent (w : World) : Bool := w.shared.tracker.isEmpty && w.loop.inFlight.isEmpty

/-- The counters with the state of the moment. -/
def metrics (w : World) : Metrics :=
  ⟨w.loop.runState, w.loop.counters, w.shared.pool.online.length, w.shared.pool.offline.length,
    w.shared.tracker.length⟩

end World

end MixRounds.Live
