import MixRounds.Live.Worker

/-!
# Moves

Everything that can happen to a scheduler in one go.  A move that is not possible changes nothing, so a
history of a scheduler is simply a list of moves, and every list is one: `World.run` is the state it
leads to.  What holds after every list of moves holds at all times, whatever the order of events.
-/

namespace MixRounds.Live

/-- One step that nothing can interrupt. -/
inductive Move where
  | poll (call : CallId) (node : NodeId) (activity : Activity)
  | ban (call : CallId) (node : NodeId)
  | request (r : Request)
  /-- A parked ban whose node is free goes on. -/
  | resumeBan (call : CallId)
  | admitUpdate
  | admitEvent
  | admitRequest
  /-- One turn of the loop, with the chance that its picks meet. -/
  | iterate (source : World.Source) (chance : Nat → Shuffle)
  | takeProto
  | attempt
  | conclude
  | leave (watcher : Watcher)
  | expire (watcher : Watcher)
  | sweep
  | launch
  | drop
  /-- Time passes on the clock of the timers, but not beyond one that is due. -/
  | pass (ms : Nat)
  /-- Time passes on the wall, in nanoseconds. -/
  | wallPass (nanos : Nat)

namespace World

/-- The times at which something is due, in no order. -/
def deadlines (w : World) : List Nat :=
  w.shared.watchers.map Watcher.deadline ++ w.nextSweep.toList ++
    (match w.starter with
    | .pausing _ due => [due]
    | _ => [])

/-- Let time pass, unless something is due before. -/
def pass (w : World) (ms : Nat) : World :=
  if w.deadlines.all fun due => w.clock + ms ≤ due then { w with clock := w.clock + ms } else w

/-- What a move does. -/
def step (w : World) : Move → World
  | .poll call node activity => w.poll call node activity
  | .ban call node => w.ban call node
  | .request r => w.request r
  | .resumeBan call => w.resumeBan call
  | .admitUpdate => w.admitUpdate
  | .admitEvent => w.admitEvent
  | .admitRequest => w.admitRequest
  | .iterate source chance => w.iterate source chance
  | .takeProto => w.takeProto
  | .attempt => w.attempt
  | .conclude => w.conclude
  | .leave watcher => w.leave watcher
  | .expire watcher => w.expire watcher
  | .sweep => w.sweep
  | .launch => w.launch
  | .drop => w.drop
  | .pass ms => w.pass ms
  | .wallPass nanos => { w with wall := .ofNanos (w.wall.total + nanos) }

/-- The state after a history. -/
def run (w : World) (moves : List Move) : World := moves.foldl step w

@[simp] theorem run_nil (w : World) : w.run [] = w := rfl

theorem run_cons (w : World) (m : Move) (moves : List Move) :
    w.run (m :: moves) = (w.step m).run moves := rfl

theorem run_append (w : World) (before after : List Move) :
    w.run (before ++ after) = (w.run before).run after := by simp [run]

theorem run_snoc (w : World) (moves : List Move) (m : Move) :
    w.run (moves ++ [m]) = (w.run moves).step m := by simp [run]

end World

end MixRounds.Live
