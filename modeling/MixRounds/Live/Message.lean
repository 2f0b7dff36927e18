import MixRounds.Codec.Payload
import MixRounds.Team.Proto

/-!
# Messages of the loop

Three kinds of message reach the loop: notifications from callers, events from its own workers, and
requests.  A caller is known by a number that it chose, and what its call came to is reported under
that number.
-/

namespace MixRounds.Live

/-- The number under which a call is answered. -/
abbrev CallId := Nat

/-- Whether rounds are formed, only finished, or neither. -/
inductive RunState where
  | running
  | draining
  | stopped
  deriving DecidableEq, Repr

namespace RunState

def all : List RunState := [running, draining, stopped]

def word : RunState → String
  | running => "running"
  | draining => "draining"
  | stopped => "stopped"

def ofWord? (s : String) : Option RunState := all.find? fun r => r.word = s

def toJson (r : RunState) : Json := .str r.word

def ofJson? (j : Json) : Option RunState := j.asWord?.bind ofWord?

end RunState

/-- What the loop has counted. -/
structure Counters where
  updatesProcessed : Nat
  updateErrors : Nat
  roundsAssembled : Nat
  roundsStarted : Nat
  roundsCompleted : Nat
  roundsFailed : Nat
  timeouts : Nat
  assemblyFailures : Nat
  startFailures : Nat
  deriving DecidableEq, Repr

/-- Nothing counted yet. -/
def Counters.zero : Counters := ⟨0, 0, 0, 0, 0, 0, 0, 0, 0⟩

/-- The counters with the state they were read in. -/
structure Metrics where
  runState : RunState
  counters : Counters
  poolSize : Nat
  offlineSize : Nat
  activeRounds : Nat
  deriving DecidableEq, Repr

namespace Metrics

def fieldNames : List String :=
  ["run-state", "updates-processed", "update-errors", "rounds-assembled", "rounds-started",
    "rounds-completed", "rounds-failed", "timeouts", "assembly-failures", "start-failures",
    "pool-size", "offline-size", "active-rounds"]

def toJson (m : Metrics) : Json :=
  .obj [("run-state", m.runState.toJson),
    ("updates-processed", .nat m.counters.updatesProcessed),
    ("update-errors", .nat m.counters.updateErrors),
    ("rounds-assembled", .nat m.counters.roundsAssembled),
    ("rounds-started", .nat m.counters.roundsStarted),
    ("rounds-completed", .nat m.counters.roundsCompleted),
    ("rounds-failed", .nat m.counters.roundsFailed),
    ("timeouts", .nat m.counters.timeouts),
    ("assembly-failures", .nat m.counters.assemblyFailures),
    ("start-failures", .nat m.counters.startFailures),
    ("pool-size", .nat m.poolSize),
    ("offline-size", .nat m.offlineSize),
    ("active-rounds", .nat m.activeRounds)]

def ofJson? (j : Json) : Option Metrics := do
  let field ← j.asRecord? fieldNames
  let count (name : String) : Option Nat := (field name).bind fun j => j.asBelow? UInt64.size
  let runState ← (field "run-state").bind RunState.ofJson?
  let updatesProcessed ← count "updates-processed"
  let updateErrors ← count "update-errors"
  let roundsAssembled ← count "rounds-assembled"
  let roundsStarted ← count "rounds-started"
  let roundsCompleted ← count "rounds-completed"
  let roundsFailed ← count "rounds-failed"
  let timeouts ← count "timeouts"
  let assemblyFailures ← count "assembly-failures"
  let startFailures ← count "start-failures"
  let poolSize ← count "pool-size"
  let offlineSize ← count "offline-size"
  let activeRounds ← count "active-rounds"
  return ⟨runState, ⟨updatesProcessed, updateErrors, roundsAssembled, roundsStarted, roundsCompleted,
    roundsFailed, timeouts, assemblyFailures, startFailures⟩, poolSize, offlineSize, activeRounds⟩

end Metrics

/-- What a worker tells the loop. -/
inductive Event where
  /-- A phase timer ran out. -/
  | timedOut (round : RoundId) (phase : TimedPhase)
  /-- The starter started the round. -/
  | started (round : RoundId)
  /-- The starter refused the team. -/
  | startFailed (proto : ProtoRound) (fault : Fault)
  /-- The realtime watcher saw the round leave realtime. -/
  | finished (round : RoundId)
  deriving DecidableEq, Repr

/-- What a caller asks of the loop. -/
inductive Request where
  | metrics (call : CallId)
  | shutdown (call : CallId)
  deriving DecidableEq, Repr

/-- The call that a request belongs to. -/
def Request.call : Request → CallId
  | metrics call => call
  | shutdown call => call

/-- A caller in line with a notification of a node that it has locked. -/
inductive Notifier where
  | poll (call : CallId) (node : NodeId)
  | ban (call : CallId) (node : NodeId)
  deriving DecidableEq, Repr

namespace Notifier

def call : Notifier → CallId
  | poll call _ => call
  | ban call _ => call

def node : Notifier → NodeId
  | poll _ node => node
  | ban _ node => node

end Notifier

/-- A worker in line with an event. -/
inductive Worker where
  | starter
  | watcher (round : RoundId) (phase : TimedPhase)
  deriving DecidableEq, Repr

/-- What a call came to. -/
inductive Outcome where
  /-- A heartbeat: nothing to notify. -/
  | unchanged
  /-- The change was notified. -/
  | enqueued
  /-- Someone else has the node. -/
  | busy
  /-- The ban was notified, or the shutdown acknowledged. -/
  | done
  | metrics (m : Metrics)
  | refused (fault : Fault)
  deriving DecidableEq, Repr

/-- Something worth an operator's attention. -/
inductive Notice where
  | updateRejected (node : NodeId) (activity : Activity) (fault : Fault)
  | startFailed (round : RoundId) (fault : Fault)
  | assemblyFailed (consecutive : Nat) (fault : Fault)
  | timerExpired (round : RoundId) (phase : TimedPhase)
  | killed (round : RoundId) (cause : Cause)
  deriving DecidableEq, Repr

end MixRounds.Live
