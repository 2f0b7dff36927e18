import MixRounds.Live.Move
import MixRounds.Proofs.Live.Picture

/-!
# In the middle of a move

A poll, a ban, and a turn of the loop that applies a notification are moves: they happen in one go.
Taken by itself each is a handful of steps, and others act in between.  A poll takes its node, has its
report recorded, brings the node back online if it was away, and then sends the notification or gives
the node free; a ban takes its node, bans it, and sends.  The loop receives a notification, takes the
node over, applies the notification, gives the node free, and looks at what it can do now.

A `Scene` is a scheduler in the middle of all this: the world, the calls under way with the nodes they
have taken (`Errand`), and what the loop has in hand (`Hand`).  Any number of calls are under way at a
time, and every act is one step of one of them.  The scene also keeps a record of the notifications that
were made, and of those that the loop is through with.

**`Scene.exists_run`** says that nothing is lost by taking the moves apart: the acts are made of what the
moves are made of, and whatever a history of moves leads to, a history of acts leads to as well.
-/

namespace MixRounds.Live

/-- A call that has taken its node. -/
inductive Errand where
  /-- A poll whose report is still to be recorded. -/
  | polling (call : CallId) (node : NodeId) (activity : Activity)
  /-- A poll whose report was recorded, with the notification of a change. -/
  | recorded (call : CallId) (node : NodeId) (change : Option Notification)
  /-- A ban that is still to be carried out. -/
  | banning (call : CallId) (node : NodeId)
  | sending (who : Notifier) (n : Notification)
  /-- A call that has nothing to send and gives its node free. -/
  | leaving (call : CallId) (node : NodeId) (outcome : Outcome)
  deriving DecidableEq, Repr

/-- What the loop has in hand. -/
inductive Hand where
  | empty
  | received (n : Notification)
  /-- The loop has taken the node over. -/
  | owned (n : Notification)
  | applied (n : Notification) (result : Except Fault Effect)
  /-- The node is free again; the turn is not yet over. -/
  | settling
  deriving DecidableEq, Repr

/-- What someone who has a node has it for: nothing that is known yet, or a notification. -/
inductive Claim where
  | bare (node : NodeId)
  | noted (n : Notification)
  deriving DecidableEq, Repr

namespace Claim

def node : Claim → NodeId
  | bare v => v
  | noted n => n.node

def note? : Claim → Option Notification
  | bare _ => none
  | noted n => some n

end Claim

namespace Errand

/-- What the call has its node for. -/
def claim : Errand → Claim
  | polling _ v _ | recorded _ v none | banning _ v | leaving _ v _ => .bare v
  | recorded _ _ (some n) | sending _ n => .noted n

/-- The next step of the call, and where it leaves the call. -/
def proceed (w : World) : Errand → World × Option Errand
  | polling call v a =>
      match w.shared.net.nodes.get? v with
      | none => (w, some (polling call v a))
      | some node =>
          match node.poll v a w.wall with
          | (seen, .error fault) => (w.mapNode v fun _ => seen, some (leaving call v (.refused fault)))
          | (seen, .ok change) => (w.mapNode v fun _ => seen, some (recorded call v change))
  | recorded call v none => (w.bringOnline v, some (leaving call v .unchanged))
  | recorded call v (some n) => (w.bringOnline v, some (sending (.poll call v) n))
  | banning call v =>
      match w.shared.net.nodes.get? v with
      | none => (w, some (banning call v))
      | some node =>
          let (banned, n) := node.ban v w.wall
          (w.mapNode v fun _ => banned, some (sending (.ban call v) n))
  | sending who n => (w.enqueue who n (World.Notifier.sent who), none)
  | leaving call v outcome => ((w.mapNode v Node.release).answer call outcome, none)

/-- The notification that is made when a call moves on. -/
def made? (e : Errand) (next : Option Errand) : Option Notification :=
  match e.claim with
  | .bare _ => next.bind fun e' => e'.claim.note?
  | .noted _ => none

end Errand

/-- What the loop has a node for. -/
def Hand.claim? : Hand → Option Claim
  | received n | owned n | applied n _ => some (.noted n)
  | empty | settling => none

namespace World

/-- The loop takes stock of what came of a notification. -/
def reckon (w : World) (n : Notification) : Except Fault Effect → World
  | .ok (.advanced .completed) => w.count fun c => { c with roundsCompleted := c.roundsCompleted + 1 }
  | .ok .killed => w.count fun c => { c with roundsFailed := c.roundsFailed + 1 }
  | .ok _ => w
  | .error fault =>
      (w.count fun c => { c with updateErrors := c.updateErrors + 1 }).mapShared fun s =>
        s.notify (.updateRejected n.node n.toActivity fault)

end World

/-- A scheduler with everything that is under way. -/
structure Scene where
  world : World
  errands : List Errand
  hand : Hand
  /-- The notifications that were made, oldest first. -/
  made : List Notification
  /-- The notifications that were applied, oldest first. -/
  applied : List Notification

/-- A move that is not taken apart. -/
def Move.isWhole : Move → Bool
  | .poll .. | .ban .. | .resumeBan _ | .iterate .updates _ => false
  | _ => true

/-- A move that the loop itself makes, or that ends it. -/
def Move.isOfLoop : Move → Bool
  | .iterate .. | .drop => true
  | _ => false

/-- One step of a call, of the loop, or of someone else. -/
inductive Act where
  /-- A poll comes in and tries its node. -/
  | poll (call : CallId) (node : NodeId) (activity : Activity)
  /-- A ban comes in and tries its node. -/
  | ban (call : CallId) (node : NodeId)
  /-- A parked ban tries its node again. -/
  | resumeBan (call : CallId)
  /-- A call under way takes its next step. -/
  | proceed (e : Errand)
  | receive
  | takeOver
  | apply
  | release
  /-- The loop ends a turn, with the chance that its picks meet. -/
  | settle (chance : Nat → Shuffle)
  /-- A move that is not taken apart. -/
  | move (m : Move)

namespace Scene

/-- Nothing is under way. -/
def of (w : World) : Scene := ⟨w, [], .empty, [], []⟩

/-- Replace the world. -/
def withWorld (s : Scene) (w : World) : Scene := { s with world := w }

/-- A call takes its node. -/
def take (s : Scene) (taken : Node) (e : Errand) : Scene :=
  { s with world := s.world.mapNode e.claim.node fun _ => taken, errands := e :: s.errands }

/-- Everyone who has a node: the calls under way, the notifications in the queue and in line, and the
loop. -/
def claims (s : Scene) : List Claim :=
  s.errands.map Errand.claim ++ s.world.updates.messages.map Claim.noted ++ s.hand.claim?.toList

/-- What an act does; one that is not possible does nothing. -/
def step (s : Scene) : Act → Scene
  | .poll call v a =>
      match s.world.shared.net.nodes.get? v with
      | none => s.withWorld (s.world.answer call (.refused (.unknownNode v)))
      | some node =>
          match node.tryAcquire with
          | (false, _) => s.withWorld (s.world.answer call .busy)
          | (true, taken) => s.take taken (.polling call v a)
  | .ban call v =>
      match s.world.shared.net.nodes.get? v with
      | none => s.withWorld (s.world.answer call (.refused (.unknownNode v)))
      | some node =>
          match node.tryAcquire with
          | (false, _) => s.withWorld { s.world with parked := s.world.parked ++ [(call, v)] }
          | (true, taken) => s.take taken (.banning call v)
  | .resumeBan call =>
      match s.world.parked.find? fun p => p.1 = call with
      | none => s
      | some (_, v) =>
          match s.world.shared.net.nodes.get? v with
          | none => s
          | some node =>
              match node.tryAcquire with
              | (false, _) => s
              | (true, taken) =>
                  (s.withWorld { s.world with
                    parked := s.world.parked.filter fun p => p.1 ≠ call }).take taken (.banning call v)
  | .proceed e =>
      if e ∈ s.errands then
        let (w, next) := e.proceed s.world
        { s with
          world := w
          errands := next.toList ++ s.errands.erase e
          made := s.made ++ (e.made? next).toList }
      else s
  | .receive =>
      match s.hand, s.world.isRunning, s.world.updates.receive? with
      | .empty, true, some (n, ch) =>
          { s with world := { s.world with updates := ch }, hand := .received n }
      | _, _, _ => s
  | .takeOver =>
      match s.hand with
      | .received n => { s with world := s.world.takenOver n, hand := .owned n }
      | _ => s
  | .apply =>
      match s.hand with
      | .owned n =>
          let (shared, result) := s.world.shared.apply s.world.settings s.world.wall s.world.clock
            s.world.loop.reserved n
          { s with world := { s.world with shared := shared }, hand := .applied n result }
      | _ => s
  | .release =>
      match s.hand with
      | .applied n result =>
          { s with
            world := (s.world.mapNode n.node Node.release).reckon n result
            hand := .settling
            applied := s.applied ++ [n] }
      | _ => s
  | .settle chance =>
      match s.hand with
      | .settling => { s with world := s.world.settleTurn chance, hand := .empty }
      | _ => s
  | .move m =>
      if m.isWhole ∧ (m.isOfLoop → s.hand = .empty) then s.withWorld (s.world.step m) else s

/-- The scene after a history. -/
def run (s : Scene) (acts : List Act) : Scene := acts.foldl step s

@[simp] lemma run_nil (s : Scene) : s.run [] = s := rfl

@[simp] lemma run_cons (s : Scene) (x : Act) (acts : List Act) :
    s.run (x :: acts) = (s.step x).run acts := rfl

lemma run_append (s : Scene) (before after : List Act) :
    s.run (before ++ after) = (s.run before).run after := by simp [run]

end Scene

/-! ## Moves, taken apart -/

namespace World

lemma mapNode_mapNode (w : World) (v : NodeId) (f g : Node → Node) :
    (w.mapNode v f).mapNode v g = w.mapNode v fun node => g (f node) := by
  have hnodes : (w.shared.net.nodes.modify v f).modify v g
      = w.shared.net.nodes.modify v fun node => g (f node) := by
    simp only [Table.modify, Table.modifyIn, List.map_map, Table.mk.injEq]
    refine List.map_congr_left fun e _ => ?_
    dsimp only [Function.comp]
    split <;> simp [*]
  simp only [mapNode, mapShared, Shared.mapNode, Network.mapNode, hnodes]

lemma get?_mapNode {w : World} {v : NodeId} {node : Node} (h : w.shared.net.nodes.get? v = some node)
    (f : Node → Node) : (w.mapNode v f).shared.net.nodes.get? v = some (f node) := by
  simp [mapNode, mapShared, Shared.mapNode, Network.mapNode, h]

lemma processUpdate_eq (w : World) (n : Notification) :
    let applied := (w.takenOver n).shared.apply w.settings w.wall w.clock w.loop.reserved n
    w.processUpdate n
      = (({ w.takenOver n with shared := applied.1 } : World).mapNode n.node Node.release).reckon n
        applied.2 :=
  rfl

end World

namespace Scene

variable {s : Scene}

/-- No call is under way, and the loop has nothing in hand. -/
structure Quiet (s : Scene) : Prop where
  errands : s.errands = []
  hand : s.hand = .empty

/-- Some acts lead to the world `w`, with nothing under way. -/
def Reaches (s : Scene) (w : World) : Prop := ∃ acts, (s.run acts).Quiet ∧ (s.run acts).world = w

lemma Quiet.reaches (h : s.Quiet) : s.Reaches s.world := ⟨[], h, rfl⟩

lemma Reaches.of_step {w : World} (x : Act) (h : (s.step x).Reaches w) : s.Reaches w := by
  obtain ⟨acts, hquiet, hworld⟩ := h
  exact ⟨x :: acts, hquiet, hworld⟩

/-- The only call under way takes its last step. -/
lemma reaches_of_last {e : Errand} (he : s.errands = [e]) (hhand : s.hand = .empty) {w : World}
    (h : e.proceed s.world = (w, none)) : s.Reaches w := by
  refine .of_step (.proceed e) ?_
  have hstep : s.step (.proceed e) = { s with
      world := w, errands := [], made := s.made ++ (e.made? none).toList } := by simp [step, he, h]
  rw [hstep]
  exact Quiet.reaches (s := { s with world := w, errands := [], made := _ }) ⟨rfl, hhand⟩

/-- The only call under way goes on. -/
lemma reaches_of_next {e e' : Errand} (he : s.errands = [e]) (hhand : s.hand = .empty) {w w' : World}
    (h : e.proceed s.world = (w, some e'))
    (hrest : ∀ s' : Scene, s'.world = w → s'.errands = [e'] → s'.hand = .empty → s'.Reaches w') :
    s.Reaches w' := by
  refine .of_step (.proceed e) ?_
  have hstep : s.step (.proceed e) = { s with
      world := w, errands := [e'], made := s.made ++ (e.made? (some e')).toList } := by
    simp [step, he, h]
  rw [hstep]
  exact hrest _ rfl rfl hhand

/-- **A poll** is what becomes of a node that it has taken. -/
lemma reaches_polling {call : CallId} {v : NodeId} {a : Activity} {taken : Node}
    (he : s.errands = [.polling call v a]) (hhand : s.hand = .empty)
    (htaken : s.world.shared.net.nodes.get? v = some taken) :
    s.Reaches (match taken.poll v a s.world.wall with
      | (seen, .error fault) => (s.world.mapNode v fun _ => seen.release).answer call (.refused fault)
      | (seen, .ok none) =>
          (((s.world.mapNode v fun _ => seen).bringOnline v).mapNode v Node.release).answer call
            .unchanged
      | (seen, .ok (some n)) =>
          ((s.world.mapNode v fun _ => seen).bringOnline v).enqueue (.poll call v) n .enqueued) := by
  rcases hpoll : taken.poll v a s.world.wall with ⟨seen, fault | change⟩
  · have hnext : (Errand.polling call v a).proceed s.world
        = (s.world.mapNode v fun _ => seen, some (.leaving call v (.refused fault))) := by
      simp only [Errand.proceed, htaken, hpoll]
    refine reaches_of_next he hhand hnext fun s' hworld he' hhand' => ?_
    refine reaches_of_last he' hhand' ?_
    simp only [Errand.proceed, hworld, World.mapNode_mapNode]
  · have hnext : (Errand.polling call v a).proceed s.world
        = (s.world.mapNode v fun _ => seen, some (.recorded call v change)) := by
      simp only [Errand.proceed, htaken, hpoll]
    refine reaches_of_next he hhand hnext fun s' hworld he' hhand' => ?_
    cases change with
    | none =>
        refine reaches_of_next he' hhand' rfl fun s'' hworld' he'' hhand'' => ?_
        refine reaches_of_last he'' hhand'' ?_
        simp only [Errand.proceed, hworld', hworld]
    | some n =>
        refine reaches_of_next he' hhand' rfl fun s'' hworld' he'' hhand'' => ?_
        refine reaches_of_last he'' hhand'' ?_
        simp only [Errand.proceed, hworld', hworld, World.Notifier.sent]

lemma reaches_poll (h : s.Quiet) (call : CallId) (v : NodeId) (a : Activity) :
    s.Reaches (s.world.poll call v a) := by
  have hquiet : ∀ w, (s.withWorld w).Reaches w := fun w =>
    Quiet.reaches (s := s.withWorld w) ⟨h.errands, h.hand⟩
  refine .of_step (.poll call v a) ?_
  cases hnode : s.world.shared.net.nodes.get? v with
  | none =>
      simp only [step, World.poll, hnode]
      exact hquiet _
  | some node =>
      rcases hacquire : node.tryAcquire with ⟨free, taken⟩
      cases free with
      | false =>
          simp only [step, World.poll, hnode, hacquire]
          exact hquiet _
      | true =>
          have hrest := reaches_polling (s := s.take taken (.polling call v a))
            (congrArg (List.cons _) h.errands) h.hand (World.get?_mapNode hnode fun _ => taken)
          simp only [step, World.poll, hnode, hacquire]
          simp only [take, Errand.claim, Claim.node, World.mapNode_mapNode] at hrest ⊢
          exact hrest

/-- **A ban** is what becomes of a node that it has taken. -/
lemma reaches_banFree (h : s.Quiet) {call : CallId} {v : NodeId} {node taken : Node}
    (hnode : s.world.shared.net.nodes.get? v = some node) (hacquire : node.tryAcquire = (true, taken)) :
    (s.take taken (.banning call v)).Reaches (s.world.banFree call v node) := by
  have htaken := World.get?_mapNode hnode fun _ => taken
  have hnext : (Errand.banning call v).proceed (s.take taken (.banning call v)).world
      = (s.world.mapNode v fun _ => (taken.ban v s.world.wall).1,
        some (.sending (.ban call v) (taken.ban v s.world.wall).2)) := by
    simp only [Errand.proceed, take, Errand.claim, Claim.node, htaken, World.mapNode_mapNode]
    rfl
  refine reaches_of_next (s := s.take taken (.banning call v)) (congrArg (List.cons _) h.errands) h.hand
    hnext fun s' hworld he hhand => ?_
  refine reaches_of_last he hhand ?_
  simp only [Errand.proceed, hworld, World.Notifier.sent, World.banFree, hacquire]

/-- A node can be taken exactly if it is free. -/
lemma handoff_of_tryAcquire {node taken : Node} {free : Bool}
    (h : node.tryAcquire = (free, taken)) : free = true ↔ node.handoff = .released := by
  have hfst : node.handoff.tryAcquire.1 = free := congrArg Prod.fst h
  rw [← hfst]
  exact node.handoff.tryAcquire_fst_iff

lemma reaches_ban (h : s.Quiet) (call : CallId) (v : NodeId) : s.Reaches (s.world.ban call v) := by
  have hquiet : ∀ w, (s.withWorld w).Reaches w := fun w =>
    Quiet.reaches (s := s.withWorld w) ⟨h.errands, h.hand⟩
  refine .of_step (.ban call v) ?_
  cases hnode : s.world.shared.net.nodes.get? v with
  | none =>
      simp only [step, World.ban, hnode]
      exact hquiet _
  | some node =>
      rcases hacquire : node.tryAcquire with ⟨free, taken⟩
      have hfree := handoff_of_tryAcquire hacquire
      cases free with
      | false =>
          have htaken : node.handoff ≠ .released := fun heq => Bool.false_ne_true (hfree.2 heq)
          simp only [step, World.ban, hnode, hacquire, if_neg htaken]
          exact hquiet _
      | true =>
          simp only [step, World.ban, hnode, hacquire, if_pos (hfree.1 rfl)]
          exact reaches_banFree h hnode hacquire

lemma reaches_resumeBan (h : s.Quiet) (call : CallId) : s.Reaches (s.world.resumeBan call) := by
  refine .of_step (.resumeBan call) ?_
  cases hparked : s.world.parked.find? fun p => p.1 = call with
  | none =>
      simp only [step, World.resumeBan, hparked]
      exact h.reaches
  | some p =>
      cases hnode : s.world.shared.net.nodes.get? p.2 with
      | none =>
          simp only [step, World.resumeBan, hparked, hnode]
          exact h.reaches
      | some node =>
          rcases hacquire : node.tryAcquire with ⟨free, taken⟩
          have hfree := handoff_of_tryAcquire hacquire
          cases free with
          | false =>
              have htaken : node.handoff ≠ .released := fun heq => Bool.false_ne_true (hfree.2 heq)
              simp only [step, World.resumeBan, hparked, hnode, hacquire, if_neg htaken]
              exact h.reaches
          | true =>
              simp only [step, World.resumeBan, hparked, hnode, hacquire, if_pos (hfree.1 rfl)]
              exact reaches_banFree (s := s.withWorld { s.world with
                parked := s.world.parked.filter fun p => p.1 ≠ call }) ⟨h.errands, h.hand⟩ hnode hacquire

/-- **A turn of the loop with a notification.** -/
lemma reaches_iterate (h : s.Quiet) (chance : Nat → Shuffle) :
    s.Reaches (s.world.iterate .updates chance) := by
  rw [World.iterate]
  split
  · rename_i hrunning
    cases hreceive : s.world.updates.receive? with
    | none =>
        simp only [World.take?, hreceive, Option.map_none]
        exact h.reaches
    | some m =>
        obtain ⟨n, ch⟩ := m
        refine ⟨[.receive, .takeOver, .apply, .release, .settle chance], ?_⟩
        simp only [run_cons, run_nil, step, h.hand, hrunning, hreceive, World.take?, Option.map_some,
          World.process, World.processUpdate_eq]
        exact ⟨⟨h.errands, rfl⟩, rfl⟩
  · exact h.reaches

/-- What a move does, some acts do. -/
lemma reaches_step (h : s.Quiet) (m : Move) : s.Reaches (s.world.step m) := by
  have hwhole : m.isWhole = true → s.Reaches (s.world.step m) := by
    intro hm
    refine .of_step (.move m) ?_
    have hstep : s.step (.move m) = s.withWorld (s.world.step m) := by simp [step, hm, h.hand]
    rw [hstep]
    exact Quiet.reaches (s := s.withWorld (s.world.step m)) ⟨h.errands, h.hand⟩
  cases m with
  | poll call v a => exact reaches_poll h call v a
  | ban call v => exact reaches_ban h call v
  | resumeBan call => exact reaches_resumeBan h call
  | iterate source chance =>
      cases source with
      | updates => exact reaches_iterate h chance
      | events | requests => exact hwhole rfl
  | _ => exact hwhole rfl

/-- **Whatever moves lead to, acts lead to as well.** -/
theorem exists_run (w : World) (moves : List Move) :
    ∃ acts, ((of w).run acts).Quiet ∧ ((of w).run acts).world = w.run moves := by
  suffices h : ∀ s : Scene, s.Quiet → s.Reaches (s.world.run moves) from h (of w) ⟨rfl, rfl⟩
  induction moves with
  | nil => exact fun s hs => hs.reaches
  | cons m rest ih =>
      intro s hs
      obtain ⟨acts, hquiet, hworld⟩ := reaches_step hs m
      obtain ⟨acts', hquiet', hworld'⟩ := ih _ hquiet
      rw [← run_append] at hquiet' hworld'
      rw [hworld, ← World.run_cons] at hworld'
      exact ⟨_, hquiet', hworld'⟩

end Scene

end MixRounds.Live
