import MixRounds.Live.Move

/-!
# Letting a scheduler settle

When nobody decides otherwise, the moves that are possible are made in a fixed order of preference: the
loop first drains its queues — notifications before events before requests — then those in line move
up, parked bans go on, the starter works, watchers whose phase has been left end, and what is due
happens, the earliest first.  `World.settle` goes on until no move is possible, and `World.advance` lets
time pass from one due time to the next.

Chance is left out here: a team is picked from the front of the waiting nodes.
-/

namespace MixRounds.Live.World

/-- Every shuffle leaves everything in place. -/
def still : Nat → Shuffle := fun _ => .still

/-- The queue that the loop reads next. -/
def nextSource? (w : World) : Option Source :=
  if !w.isRunning then none
  else if !w.updates.queue.isEmpty then some .updates
  else if !w.events.queue.isEmpty then some .events
  else if !w.requests.queue.isEmpty then some .requests
  else none

/-- Someone in line or parked who can go on. -/
def nextWaiting? (w : World) : Option Move :=
  if w.updates.admit?.isSome then some .admitUpdate
  else if w.events.admit?.isSome then some .admitEvent
  else if w.requests.admit?.isSome then some .admitRequest
  else (w.parked.find? fun p => w.isFree p.2).map fun p => .resumeBan p.1

/-- What the starter does next. -/
def nextStart? (w : World) : Option Move :=
  match w.starter with
  | .idle => if !w.protos.isEmpty || !w.handsOut then some .takeProto else none
  | .pausing _ due => if due ≤ w.clock then some .attempt else none
  | .absent =>
      match w.loop.stage with
      | .closing _ => some .conclude
      | _ => none
  | .reporting => none

/-- The watcher that ends or fires next: the one with the earliest deadline, the oldest of several. -/
def nextWatcher? (w : World) : Option Move :=
  match w.shared.watchers.find? w.hasLeft with
  | some watcher => some (.leave watcher)
  | none =>
      let due := w.shared.watchers.filter fun watcher => watcher.deadline ≤ w.clock
      match due.mergeSort fun a b => a.deadline ≤ b.deadline with
      | watcher :: _ => some (.expire watcher)
      | [] => none

/-- The sweep, when it is due. -/
def nextSweep? (w : World) : Option Move :=
  match w.nextSweep with
  | some due => if due ≤ w.clock then some .sweep else none
  | none => none

/-- The move to make next, if one is possible at this instant. -/
def nextMove? (w : World) : Option Move :=
  match w.nextSource? with
  | some source => some (.iterate source still)
  | none => w.nextWaiting?.or (w.nextStart?.or (w.nextWatcher?.or w.nextSweep?))

/-- Make up to `fuel` moves. -/
def settleFor : Nat → World → World
  | 0, w => w
  | fuel + 1, w =>
      match w.nextMove? with
      | none => w
      | some m => settleFor fuel (w.step m)

/-- More moves than a scheduler of this size can make at one instant. -/
def patience (w : World) : Nat :=
  let size := w.shared.net.nodes.size + w.shared.net.rounds.size + w.protos.length +
    w.updates.messages.length + w.events.messages.length + w.requests.messages.length +
    w.shared.watchers.length + w.parked.length
  1000 + 50 * (size * size)

/-- Make every move that is possible at this instant. -/
def settle (w : World) : World := settleFor w.patience w

/-- Make up to `fuel` moves, and none after a call has been answered. -/
def settleToAnswerFor : Nat → World → World
  | 0, w => w
  | fuel + 1, w =>
      if w.answers.isEmpty then
        match w.nextMove? with
        | none => w
        | some m => settleToAnswerFor fuel (w.step m)
      else w

/-- Make the moves that are possible at this instant until a call has been answered.  A caller who was in
line leaves its message in the queue. -/
def settleToAnswer (w : World) : World := settleToAnswerFor w.patience w

/-- The earliest time after now at which something is due, up to `limit`. -/
def nextDue? (w : World) (limit : Nat) : Option Nat :=
  ((w.deadlines.filter fun due => w.clock < due && due ≤ limit).min?)

/-- Settle at every due time up to `limit`; the fuel bounds their number. -/
def advanceTo (limit : Nat) : Nat → World → World
  | 0, w => w
  | fuel + 1, w =>
      match w.nextDue? limit with
      | none => { w with clock := limit }
      | some due => advanceTo limit fuel ({ w with clock := due }.settle)

/-- Let time pass, settling at each due time and at the end. -/
def advance (w : World) (ms : Nat) : World :=
  (advanceTo (w.clock + ms) (ms + 1) w.settle).settle

end MixRounds.Live.World
