import MixRounds.Live.Iterate

/-!
# Calls from outside

Pollers report activities, operators ban nodes, read metrics and ask for shutdown.  A poll or a ban
takes its node before it queues anything; a poll that finds the node taken is turned away as busy,
while a ban waits for the node to be free.  A heartbeat and a refused report give the node free at once,
and so does a notification that finds the loop gone; for any other it is the loop that does.
-/

namespace MixRounds.Live.World

/-- Queue a notification for a caller that has taken the node; `sent` is the answer of the call. -/
def enqueue (w : World) (who : Notifier) (n : Notification) (sent : Outcome) : World :=
  match w.updates.send who n with
  | (.accepted, ch) => { w with updates := ch }.answer who.call sent
  | (.waiting, ch) => { w with updates := ch }
  | (.refused, ch) => { w with updates := ch }.turnAway who

/-- What a call came to once its notification is queued. -/
def Notifier.sent : Notifier → Outcome
  | .poll _ _ => .enqueued
  | .ban _ _ => .done

/-- A poll brings a node back that the sweep moved offline. -/
def bringOnline (w : World) (id : NodeId) : World :=
  match w.shared.net.nodes.get? id with
  | none => w
  | some node =>
      if node.status ≠ .inactive then w
      else
        match w.shared.pool.restore w.shared.net.nodes id with
        | (true, pool, nodes) =>
            w.mapShared fun s => { s with pool := pool, net := { s.net with nodes := nodes } }
        | (false, _, _) => w.mapNode id fun n => { n with status := .active }

/-- A poll that reports an activity. -/
def poll (w : World) (call : CallId) (id : NodeId) (activity : Activity) : World :=
  match w.shared.net.nodes.get? id with
  | none => w.answer call (.refused (.unknownNode id))
  | some node =>
      match node.tryAcquire with
      | (false, _) => w.answer call .busy
      | (true, taken) =>
          match taken.poll id activity w.wall with
          | (seen, .error fault) =>
              (w.mapNode id fun _ => seen.release).answer call (.refused fault)
          | (seen, .ok none) =>
              let w := (w.mapNode id fun _ => seen).bringOnline id
              (w.mapNode id Node.release).answer call .unchanged
          | (seen, .ok (some n)) =>
              let w := (w.mapNode id fun _ => seen).bringOnline id
              w.enqueue (.poll call id) n .enqueued

/-- A ban of a node that nobody has. -/
def banFree (w : World) (call : CallId) (id : NodeId) (node : Node) : World :=
  let (banned, n) := node.tryAcquire.2.ban id w.wall
  (w.mapNode id fun _ => banned).enqueue (.ban call id) n .done

/-- A ban: at once if nobody has the node, otherwise the call is parked. -/
def ban (w : World) (call : CallId) (id : NodeId) : World :=
  match w.shared.net.nodes.get? id with
  | none => w.answer call (.refused (.unknownNode id))
  | some node =>
      if node.handoff = .released then w.banFree call id node
      else { w with parked := w.parked ++ [(call, id)] }

/-- Whether a parked ban can go on. -/
def isFree (w : World) (id : NodeId) : Bool :=
  (w.shared.net.nodes.get? id).any fun n => n.handoff == .released

/-- Let a parked ban go on if its node is free by now. -/
def resumeBan (w : World) (call : CallId) : World :=
  match w.parked.find? fun p => p.1 = call with
  | none => w
  | some (_, id) =>
      match w.shared.net.nodes.get? id with
      | none => w
      | some node =>
          if node.handoff = .released then
            { w with parked := w.parked.filter fun p => p.1 ≠ call }.banFree call id node
          else w

/-- Ask something of the loop. -/
def request (w : World) (r : Request) : World :=
  match w.requests.send r r with
  | (.accepted, ch) => { w with requests := ch }
  | (.waiting, ch) => { w with requests := ch }
  | (.refused, ch) => { w with requests := ch }.answer r.call (.refused .channelClosed)

/-- The first caller in line queues its notification, if there is room. -/
def admitUpdate (w : World) : World :=
  match w.updates.admit? with
  | none => w
  | some (who, ch) => { w with updates := ch }.answer who.call (Notifier.sent who)

/-- The first request in line is queued, if there is room. -/
def admitRequest (w : World) : World :=
  match w.requests.admit? with
  | none => w
  | some (_, ch) => { w with requests := ch }

/-- The first worker in line queues its event, if there is room; the starter is then free for the next
team, and a watcher is done. -/
def admitEvent (w : World) : World :=
  match w.events.admit? with
  | none => w
  | some (.starter, ch) => { w with events := ch, starter := .idle }
  | some (.watcher _ _, ch) => { w with events := ch }

end MixRounds.Live.World
