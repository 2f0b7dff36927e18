import MixRounds.Live.Call

/-!
# The workers

The round starter takes teams one at a time, holds each back for the configured pause, starts it, and
reports to the loop.  A watcher ends when its timer runs out, which it reports, or when its round leaves
the watched phase; the realtime watcher then retires the round from the tracker and reports that too.
When both have come to pass, either may be what the watcher sees.  The sweep moves nodes offline at fixed
times.

A worker that finds the loop gone stops.  When the starter has nothing more to do, an ended loop gives
its result.
-/

namespace MixRounds.Live.World

/-- Whether the loop still hands out teams. -/
def handsOut (w : World) : Bool :=
  match w.loop.stage with
  | .idle | .running => true
  | _ => false

/-- The starter takes the next team and begins its pause; with no team left and none to come it
stops. -/
def takeProto (w : World) : World :=
  match w.starter, w.protos with
  | .idle, proto :: rest =>
      { w with starter := .pausing proto (w.clock + w.settings.minDelayMs.toNat), protos := rest }
  | .idle, [] => if w.handsOut then w else { w with starter := .absent }
  | _, _ => w

/-- The starter reports to the loop; without a loop it stops. -/
def report (w : World) (e : Event) : World :=
  match w.events.send .starter e with
  | (.accepted, ch) => { w with events := ch, starter := .idle }
  | (.waiting, ch) => { w with events := ch, starter := .reporting }
  | (.refused, ch) => { w with events := ch, starter := .absent, protos := [] }

/-- The pause is over: the starter starts the round and reports. -/
def attempt (w : World) : World :=
  match w.starter with
  | .pausing proto due =>
      if w.clock < due then w
      else
        match w.shared.start w.wall w.clock proto with
        | (shared, .ok ()) => { w with shared := shared }.report (.started proto.id)
        | (shared, .error fault) =>
            { w with shared := shared.notify (.startFailed proto.id fault) }.report
              (.startFailed proto fault)
  | _ => w

/-- The loop that waits for its starter gives its result once the starter has stopped. -/
def conclude (w : World) : World :=
  match w.loop.stage, w.starter with
  | .closing result, .absent => { w with loop := { w.loop with stage := .ended result } }
  | _, _ => w

/-- Whether the round has left the phase that the watcher watches. -/
def hasLeft (w : World) (watcher : Watcher) : Bool :=
  (w.shared.net.rounds.get? watcher.round).any fun r => r.phase != watcher.phase.watched

/-- The watcher is done. -/
def unwatch (w : World) (watcher : Watcher) : World :=
  w.mapShared fun s => { s with watchers := s.watchers.erase watcher }

/-- A watcher tells the loop, if there is one. -/
def tell (w : World) (watcher : Watcher) (e : Event) : World :=
  { w with events := (w.events.send (.watcher watcher.round watcher.phase) e).2 }

/-- The round has left the watched phase, and its watcher ends. -/
def leave (w : World) (watcher : Watcher) : World :=
  if watcher ∈ w.shared.watchers ∧ w.hasLeft watcher then
    let w := w.unwatch watcher
    match watcher.phase with
    | .precomputation => w
    | .realtime =>
        (w.mapShared fun s => { s with tracker := (s.tracker.remove watcher.round).2 }).tell watcher
          (.finished watcher.round)
  else w

/-- The watcher's timer runs out.  The round may have left the watched phase by then: a watcher that finds
both has no preference, and after this end it does not retire the round. -/
def expire (w : World) (watcher : Watcher) : World :=
  if watcher ∈ w.shared.watchers ∧ watcher.deadline ≤ w.clock then
    ((w.unwatch watcher).mapShared fun s => s.notify (.timerExpired watcher.round watcher.phase)).tell
      watcher (.timedOut watcher.round watcher.phase)
  else w

/-- Move the stale nodes offline, whenever that may be. -/
def sweepNow (w : World) : World :=
  let (_, pool, nodes) :=
    w.shared.pool.sweep w.shared.net.nodes w.wall w.settings.offlineTimeoutSecs.toNat
  w.mapShared fun s => { s with pool := pool, net := { s.net with nodes := nodes } }

/-- The sweep, if it is due; the next one is an interval later. -/
def sweep (w : World) : World :=
  match w.nextSweep with
  | none => w
  | some due =>
      if w.clock < due then w
      else { w.sweepNow with nextSweep := some (due + 1000 * w.settings.cleanupIntervalSecs.toNat) }

/-- The loop starts running, with a starter and a sweep. -/
def launch (w : World) : World :=
  match w.loop.stage with
  | .idle =>
      { w with
        loop := { w.loop with stage := .running }
        starter := .idle
        nextSweep := some (w.clock + 1000 * w.settings.cleanupIntervalSecs.toNat) }
  | _ => w

/-- The scheduler is destroyed from outside, and its result, if it had one, is lost.  Workers that run go
on by themselves. -/
def drop (w : World) : World :=
  let w := match w.loop.stage with
    | .idle | .running => w.closeQueues
    | _ => w
  { w with loop := { w.loop with stage := .dropped } }

end MixRounds.Live.World
