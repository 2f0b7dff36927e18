import Mathlib.Algebra.GroupWithZero.Nat
import MixRounds.Proofs.Live.Aftermath

/-!
# What hangs on a loop that is gone

A loop can end at any moment: acknowledging a shutdown, giving up, or destroyed from outside.  Polls and
bans are to come to their end all the same, with a result of their own or because the loop is gone
(`World.Serves`), and none is to wait for ever (`Scene.Unhung`).

**`Scene.unhung_iff`** says when that is so: exactly if no notification was lost with the loop.  A caller
that waits in line is turned away and gives its node free, and so does one that comes later.  But a
notification that is in the queue when the loop ends is dropped with it, and the node, which the loop
would have given free, stays taken for good; every later poll of it finds it busy, and a ban of it waits
for ever (`Scene.not_unhung_of_unheard`).

Without a lost notification every call under way is at its end after a few steps of its own
(`Scene.Bereft.exists_atRest`): each step makes the scene lighter (`Scene.load`).
-/

namespace MixRounds.Live

namespace World

variable {w : World}

/-- What a poll of a free node comes to with the loop gone: what the node has to say, and for a change
that would have to be notified, that the loop is gone. -/
def verdict (w : World) (v : NodeId) (a : Activity) : Outcome :=
  match w.shared.net.nodes.get? v with
  | none => .refused (.unknownNode v)
  | some node =>
      match (node.poll v a w.wall).2 with
      | .error fault => .refused fault
      | .ok none => .unchanged
      | .ok (some _) => .refused .channelClosed

/-- What a ban comes to with the loop gone. -/
def farewell (w : World) (v : NodeId) : Outcome :=
  match w.shared.net.nodes.get? v with
  | none => .refused (.unknownNode v)
  | some _ => .refused .channelClosed

/-- Polls and bans are answered at once. -/
def Serves (w : World) : Prop :=
  ∀ call v, (∀ a, (w.poll call v a).answers = w.answers ++ [(call, w.verdict v a)]) ∧
    (w.ban call v).answers = w.answers ++ [(call, w.farewell v)]

lemma verdict_ne_busy (w : World) (v : NodeId) (a : Activity) : w.verdict v a ≠ .busy := by
  rw [verdict]
  split
  · exact Outcome.noConfusion
  · split <;> exact Outcome.noConfusion

/-- Who has a node decides nothing about what it says. -/
lemma poll_snd_tryAcquire (v : NodeId) (node : Node) (a : Activity) (now : Instant) :
    (node.tryAcquire.2.poll v a now).2 = (node.poll v a now).2 := by
  unfold Node.poll Node.tryAcquire
  cases node.status with
  | unregistered | banned => rfl
  | active | inactive =>
      dsimp only
      split_ifs <;> rfl

/-- Once the loop is gone, a caller that has a notification is turned away. -/
lemma answers_enqueue_of_closed (hclosed : w.updates.closed = true) (who : Notifier) (n : Notification)
    (sent : Outcome) :
    (w.enqueue who n sent).answers = w.answers ++ [(who.call, .refused .channelClosed)] := by
  rw [enqueue_of_closed hclosed]
  rfl

/-- A node that somebody has is busy. -/
lemma answers_poll_of_taken {v : NodeId} {node : Node} (hnode : w.shared.net.nodes.get? v = some node)
    (htaken : node.handoff ≠ .released) (call : CallId) (a : Activity) :
    (w.poll call v a).answers = w.answers ++ [(call, .busy)] := by
  have hacquire : node.tryAcquire.1 = false := by
    rw [Bool.eq_false_iff]
    exact fun hfree => htaken (node.handoff.tryAcquire_fst_iff.1 hfree)
  rw [poll, hnode]
  dsimp only
  rw [show node.tryAcquire = (false, node.tryAcquire.2) from Prod.ext hacquire rfl]
  rfl

/-- **With the loop gone and every node free**, polls and bans are answered at once. -/
theorem serves_of_free (hclosed : w.updates.closed = true)
    (hfree : ∀ v h, w.hands v = some h → h = .released) : w.Serves := by
  intro call v
  cases hnode : w.shared.net.nodes.get? v with
  | none =>
      simp only [poll, ban, verdict, farewell, hnode]
      exact ⟨fun _ => rfl, rfl⟩
  | some node =>
      have hreleased : node.handoff = .released := hfree v _ (by simp [hands, hnode])
      refine ⟨fun a => ?_, ?_⟩
      · have hacquire : node.tryAcquire = (true, node.tryAcquire.2) :=
          Prod.ext ((node.handoff.tryAcquire_fst_iff).2 hreleased) rfl
        have hsaid := poll_snd_tryAcquire v node a w.wall
        simp only [poll, verdict, hnode]
        rw [hacquire]
        dsimp only
        rcases hpoll : node.tryAcquire.2.poll v a w.wall with ⟨seen, fault | _ | n⟩ <;>
          rw [hpoll] at hsaid <;> rw [← hsaid]
        · rfl
        · show ((w.mapNode v fun _ => seen).bringOnline v).answers ++ [(call, .unchanged)] = _
          rw [answers_bringOnline]
          rfl
        · have hclosed' : ((w.mapNode v fun _ => seen).bringOnline v).updates.closed = true := by
            rw [updates_bringOnline]
            exact hclosed
          dsimp only
          rw [answers_enqueue_of_closed hclosed', answers_bringOnline]
          rfl
      · simp only [ban, farewell, hnode, hreleased, if_true, banFree]
        exact answers_enqueue_of_closed (w := w.mapNode v fun _ => _) hclosed _ _ _

end World

/-- A step of a poll or ban that is in progress. -/
def Act.isOfCaller : Act → Bool
  | .proceed _ | .resumeBan _ => true
  | _ => false

namespace Scene

variable {s : Scene}

/-- No poll and no ban is in progress. -/
structure AtRest (s : Scene) : Prop where
  errands : s.errands = []
  line : s.world.updates.waiting = []
  parked : s.world.parked = []

/-- **Nothing hangs**: whatever comes in, all polls and bans can come to their end by themselves; and while
none is in progress, the next one is answered at once. -/
structure Unhung (s : Scene) : Prop where
  ends : ∀ later, ∃ more : List Act, (∀ x ∈ more, x.isOfCaller = true) ∧
    ((s.run later).run more).AtRest
  serves : ∀ later, (s.run later).AtRest → (s.run later).world.Serves

/-! ## Every call comes to its end -/

/-- How many steps the calls in progress have at most before them. -/
def load (s : Scene) : Nat := (s.errands.map Errand.weight).sum + 3 * s.world.parked.length

variable {lost : List Notification}

lemma load_proceed (h : s.Manned) {e : Errand} (he : e ∈ s.errands) :
    (s.step (.proceed e)).load < s.load := by
  have hstep : s.step (.proceed e) = s.moved e (e.proceed s.world).1 (e.proceed s.world).2 := by
    rw [step, if_pos he]
    rfl
  have hsum : (s.errands.map Errand.weight).sum
      = e.weight + ((s.errands.erase e).map Errand.weight).sum := by
    rw [((List.perm_cons_erase he).map Errand.weight).sum_nat, List.map_cons, List.sum_cons]
  rw [hstep, load, load, hsum]
  rcases e.proceed_cases s.world (h.errands e he) with ⟨e', hnext, hgoes⟩ | ⟨who, n, rfl⟩ |
    ⟨call, v, outcome, rfl⟩
  · have hlighter := hgoes.lighter (h.taken e he)
    rw [hnext]
    simp only [moved, hgoes.parked, Option.toList_some, List.singleton_append, List.map_cons,
      List.sum_cons]
    omega
  · have hparked := s.world.parked_enqueue who n (World.Notifier.sent who)
    simp only [moved, Errand.proceed, hparked, Option.toList_none, List.nil_append, Errand.weight]
    omega
  · simp only [moved, Errand.proceed, Option.toList_none, List.nil_append, Errand.weight]
    have hparked : ((s.world.mapNode v Node.release).answer call outcome).parked = s.world.parked := rfl
    rw [hparked]
    omega

/-- With no call under way a parked ban can go on, as every node is free. -/
lemma Bereft.load_resumeBan (h : s.Bereft []) (herrands : s.errands = []) {p : CallId × NodeId}
    {rest : List (CallId × NodeId)} (hparked : s.world.parked = p :: rest) :
    (s.step (.resumeBan p.1)).load < s.load := by
  have hfind : (s.world.parked.find? fun q => q.1 = p.1) = some p := by simp [hparked]
  have hknown := h.manned.parked p (by rw [hparked]; exact List.mem_cons_self)
  obtain ⟨hands, hhands⟩ := Option.ne_none_iff_exists'.1 hknown
  obtain ⟨node, hnode, rfl⟩ := Option.map_eq_some_iff.1 hhands
  have hfree : node.handoff = .released :=
    (h.fair.released_iff p.2 _ hhands).2 (by simp [holders, herrands])
  have hacquire : node.tryAcquire = (true, node.tryAcquire.2) :=
    Prod.ext ((node.handoff.tryAcquire_fst_iff).2 hfree) rfl
  have hfewer : (s.world.parked.filter fun q => q.1 ≠ p.1).length ≤ rest.length := by
    rw [hparked]
    simpa using List.length_filter_le _ rest
  have hstep : s.step (.resumeBan p.1) = (s.withWorld { s.world with
      parked := s.world.parked.filter fun q => q.1 ≠ p.1 }).take node.tryAcquire.2
        (.banning p.1 p.2) := by
    rw [Scene.step, hfind]
    dsimp only
    rw [hnode]
    dsimp only
    rw [hacquire]
  have hload : s.load = 3 * (rest.length + 1) := by simp [load, herrands, hparked]
  rw [hstep, hload]
  show ((Errand.banning p.1 p.2 :: s.errands).map Errand.weight).sum
    + 3 * (s.world.parked.filter fun q => q.1 ≠ p.1).length < _
  rw [herrands]
  simp only [List.map_cons, List.map_nil, List.sum_cons, List.sum_nil, Errand.weight]
  omega

/-- **Without a lost notification** every call comes to its end by itself. -/
theorem Bereft.exists_atRest (h : s.Bereft []) :
    ∃ more : List Act, (∀ x ∈ more, x.isOfCaller = true) ∧ (s.run more).AtRest := by
  induction hload : s.load using Nat.strongRecOn generalizing s with
  | _ k ih =>
      have hnext : ∀ x : Act, x.isOfCaller = true → (s.step x).load < s.load →
          ∃ more : List Act, (∀ x ∈ more, x.isOfCaller = true) ∧ (s.run more).AtRest := by
        intro x hx hlighter
        obtain ⟨more, hcallers, hrest⟩ := ih _ (hload ▸ hlighter) (h.step x) rfl
        exact ⟨x :: more, List.forall_mem_cons.2 ⟨hx, hcallers⟩, hrest⟩
      cases herrands : s.errands with
      | cons e rest =>
          exact hnext (.proceed e) rfl
            (load_proceed h.manned (by rw [herrands]; exact List.mem_cons_self))
      | nil =>
          cases hparked : s.world.parked with
          | cons p rest => exact hnext (.resumeBan p.1) rfl (h.load_resumeBan herrands hparked)
          | nil =>
              have hline : s.world.updates.queue = [] ∧ s.world.updates.waiting = [] := by
                have hempty : s.world.updates.messages = [] := h.deaf.empty
                simpa [Channel.messages] using hempty
              exact ⟨[], by simp, herrands, hline.2, hparked⟩

/-! ## Exactly if nothing is lost -/

/-- At rest, the nodes that are not free are those of lost notifications. -/
lemma Bereft.released_iff (h : s.Bereft lost) (hrest : s.AtRest) {v : NodeId} {node : Node}
    (hnode : s.world.shared.net.nodes.get? v = some node) :
    node.handoff = .released ↔ ∀ n ∈ lost, n.node ≠ v := by
  rw [h.fair.released_iff v node.handoff (by simp [World.hands, hnode]), holders, hrest.errands]
  simp

lemma Bereft.unhung (h : s.Bereft []) : s.Unhung where
  ends later := (h.run later).exists_atRest
  serves later hrest := by
    have hlater := h.run later
    refine World.serves_of_free hlater.deaf.closed fun v hands hv => ?_
    obtain ⟨node, hnode, rfl⟩ := Option.map_eq_some_iff.1 hv
    exact (hlater.released_iff hrest hnode).2 (by simp)

/-- The node of a lost notification is busy for ever. -/
lemma Bereft.not_unhung (h : s.Bereft lost) {n : Notification} (hn : n ∈ lost) : ¬ s.Unhung := by
  intro hunhung
  obtain ⟨more, -, hrest⟩ := hunhung.ends []
  rw [run_nil] at hrest
  have hmore := h.run more
  have hknown := hmore.fair.known n.node (List.mem_append_right _ (List.mem_map_of_mem hn))
  obtain ⟨hands, hhands⟩ := Option.ne_none_iff_exists'.1 hknown
  obtain ⟨node, hnode, -⟩ := Option.map_eq_some_iff.1 hhands
  have htaken : node.handoff ≠ .released := fun hfree =>
    (hmore.released_iff hrest hnode).1 hfree n hn rfl
  have hbusy := World.answers_poll_of_taken hnode htaken 0 .waiting
  have hserved := (hunhung.serves more hrest 0 n.node).1 .waiting
  rw [hbusy] at hserved
  have hverdict : Outcome.busy = (s.run more).world.verdict n.node .waiting := by
    simpa using hserved
  exact World.verdict_ne_busy _ _ _ hverdict.symm

lemma create_manned (settings : Settings) (latency : Latency) (isDisabled : NodeId → Bool)
    (net : Network) (wall : Instant) :
    (of (World.create settings latency isDisabled net wall)).Manned where
  errands e he := by cases he
  line p hp := by cases hp
  taken e he := by cases he
  parked p hp := by cases hp

/-- **Nothing hangs on a loop that is gone** exactly if no notification was lost with it, in every scene
that any acts lead to; and while no call is in progress, the nodes of lost notifications are the only ones
that are not free. -/
theorem unhung_iff (settings : Settings) (latency : Latency) (isDisabled : NodeId → Bool)
    {net : Network} (wall : Instant) (hidle : net.Idle) (hfree : net.Free) (acts : List Act) :
    let start := of (World.create settings latency isDisabled net wall)
    let s := start.run acts
    s.world.handsOut = false →
      (s.Unhung ↔ start.lostBy acts = []) ∧
        (s.AtRest → ∀ v node, s.world.shared.net.nodes.get? v = some node →
          (node.handoff = .released ↔ ∀ n ∈ start.lostBy acts, n.node ≠ v)) := by
  intro start s hends
  have hsound := create_sound settings latency isDisabled wall hidle hfree
  have hbereft : s.Bereft (start.lostBy acts) := bereft_of_run hsound
    (create_manned settings latency isDisabled net wall) rfl hends
  refine ⟨⟨fun hunhung => ?_, fun hnone => ?_⟩, fun hrest v node hnode =>
    hbereft.released_iff hrest hnode⟩
  · rw [List.eq_nil_iff_forall_not_mem]
    exact fun n hn => hbereft.not_unhung hn hunhung
  · rw [hnone] at hbereft
    exact hbereft.unhung

/-- A node polls, and the scheduler is destroyed before the call has sent anything. -/
def timely : List Act :=
  [.move .launch, .poll 0 "a" .waiting, .proceed (.polling 0 "a" .waiting), .move .drop]

/-- The call finds the loop gone and gives the node free. -/
theorem unhung_iff_of_timely : (World.smallNetwork ["a"]).Idle ∧ (World.smallNetwork ["a"]).Free ∧
    let start := of (World.small ["a"])
    let s := start.run timely
    s.world.handsOut = false ∧ s.errands.length = 1 ∧ start.lostBy timely = [] ∧
      (s.Unhung ↔ start.lostBy timely = []) := by
  have hends : ((of (World.small ["a"])).run timely).world.handsOut = false := by decide +kernel
  exact ⟨World.idle_smallNetwork _, World.free_smallNetwork _, hends, by decide +kernel,
    by decide +kernel,
    (unhung_iff _ _ _ _ (World.idle_smallNetwork _) (World.free_smallNetwork _) timely hends).1⟩

/-- A node polls, its notification is queued, and the loop acknowledges a shutdown first. -/
def unheard : List Act :=
  let n : Notification := .ofActivity "a" .active .notStarted .waiting ⟨0, 0⟩
  [.move .launch, .poll 0 "a" .waiting, .proceed (.polling 0 "a" .waiting),
    .proceed (.recorded 0 "a" (some n)), .proceed (.sending (.poll 0 "a") n),
    .move (.request (.shutdown 1)), .move (.iterate .requests fun _ => .still)]

/-- The shutdown is acknowledged and no call is in progress, but the node is not free: a poll finds it
busy, and a ban has to wait. -/
theorem not_unhung_of_unheard :
    let w := ((of (World.small ["a"])).run unheard).world
    w.handsOut = false ∧ ((of (World.small ["a"])).run unheard).AtRest ∧
      w.answers = [(0, .enqueued), (1, .done)] ∧ w.hands "a" = some .locked ∧
        (w.poll 2 "a" .error).answers = w.answers ++ [(2, .busy)] ∧
          (w.ban 3 "a").answers = w.answers ∧ (w.ban 3 "a").parked = [(3, "a")] := by
  intro w
  exact ⟨by decide +kernel, ⟨by decide +kernel, by decide +kernel, by decide +kernel⟩, by decide +kernel,
    by decide +kernel, by decide +kernel, by decide +kernel, by decide +kernel⟩

end Scene

end MixRounds.Live
