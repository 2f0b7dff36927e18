import MixRounds.Proofs.Live.Frame
import MixRounds.Proofs.Live.Reservation

/-!
# Rounds and their timers

Three things decide whether a round is done with: the phase it is in, whether it is tracked, and which
timers are set on it.  `Timers` is this picture alone, and `Timers.Step` lists everything that one move
can do to it:

* a round starts, and is tracked and timed from then on;
* it moves to realtime, where the second timer is set, and on to completed;
* it fails, and is tracked no more;
* the watcher of a phase that the round has left ends, and the one of realtime stops tracking the round;
* a timer runs out, whether its round has left the phase or not.  The step is labelled with its watcher.

The loop hears of the last only later, in a move of its own: failing the round is that move's step, and
the round may have moved on by then.

**`World.step_timers`** says that every move is one of these steps.  All callers, the pool and the
forming of teams drop out here.
-/

namespace MixRounds.Live

/-- The phases of the rounds, which rounds are tracked, and the timers that have neither run out nor
ended. -/
@[ext]
structure Timers where
  phase : RoundId → Option Phase
  tracker : Tracker
  watchers : List Watcher

namespace Timers

/-- The round is in phase `p` now. -/
def enter (t : Timers) (id : RoundId) (p : Phase) : Timers :=
  { t with phase := fun j => if j = id then some p else t.phase j }

/-- The round is tracked. -/
def track (t : Timers) (id : RoundId) : Timers := { t with tracker := (t.tracker.add id).2 }

/-- The round is tracked no more. -/
def untrack (t : Timers) (id : RoundId) : Timers := { t with tracker := (t.tracker.remove id).2 }

/-- A timer is set. -/
def set (t : Timers) (x : Watcher) : Timers := { t with watchers := t.watchers ++ [x] }

/-- A watcher is done. -/
def drop (t : Timers) (x : Watcher) : Timers := { t with watchers := t.watchers.erase x }

/-- What one move can do, labelled with the watcher whose timer runs out in it. -/
inductive Step (t : Timers) : Option Watcher → Timers → Prop
  | still : Step t none t
  | start {id : RoundId} {due : Nat} (hnew : t.phase id = none) :
      Step t none (((t.enter id .precomputing).track id).set ⟨id, .precomputation, due⟩)
  | realtime {id : RoundId} {due : Nat} (hphase : t.phase id = some .precomputing) :
      Step t none ((t.enter id .realtime).set ⟨id, .realtime, due⟩)
  | complete {id : RoundId} (hphase : t.phase id = some .realtime) :
      Step t none (t.enter id .completed)
  | fail {id : RoundId} {p : Phase} (hphase : t.phase id = some p) (hlive : p.isTerminal = false) :
      Step t none ((t.enter id .failed).untrack id)
  | quit {x : Watcher} (hx : x ∈ t.watchers) (hwatched : x.phase = .precomputation) :
      Step t none (t.drop x)
  | retire {x : Watcher} {p : Phase} (hx : x ∈ t.watchers) (hwatched : x.phase = .realtime)
      (hphase : t.phase x.round = some p) (hleft : p ≠ .realtime) :
      Step t none ((t.drop x).untrack x.round)
  | expire {x : Watcher} (hx : x ∈ t.watchers) : Step t (some x) (t.drop x)

end Timers

namespace Shared

/-- The rounds of a scheduler and their timers. -/
def timers (s : Shared) : Timers := ⟨s.net.phase?, s.tracker, s.watchers⟩

@[simp] lemma timers_mapNode (s : Shared) (v : NodeId) (f : Node → Node) :
    (s.mapNode v f).timers = s.timers := rfl

@[simp] lemma timers_notify (s : Shared) (n : Notice) : (s.notify n).timers = s.timers := rfl

/-- A round that is put in the place of an earlier state of it is in its new phase. -/
lemma timers_setRound (s : Shared) {id : RoundId} {r₀ : Round}
    (hround : s.net.rounds.get? id = some r₀) (r : Round) :
    ({ s with net := s.net.setRound id r } : Shared).timers = s.timers.enter id r.phase := by
  ext1
  · funext j
    simp only [timers, Timers.enter, Network.phase?, Network.get?_setRound]
    by_cases hj : j = id
    · simp [hj, hround]
    · simp [hj]
  · rfl
  · rfl

lemma enter_same {s : Shared} {id : RoundId} {r : Round} (hround : s.net.rounds.get? id = some r) :
    s.timers.enter id r.phase = s.timers := by
  ext1
  · funext j
    simp only [timers, Timers.enter, Network.phase?]
    by_cases hj : j = id
    · simp [hj, hround]
    · simp [hj]
  · rfl
  · rfl

lemma phase_timers {s : Shared} {id : RoundId} {r : Round} (hround : s.net.rounds.get? id = some r) :
    s.timers.phase id = some r.phase := by simp [timers, Network.phase?, hround]

/-! ## Failing a round -/

/-- **A round fails once**, and then it is tracked no more. -/
lemma step_kill (s : Shared) (now : Instant) (id : RoundId) (node : Option NodeId) (cause : Cause) :
    Timers.Step s.timers none (s.kill now id node cause).1.timers := by
  -- the node that gave the reason plays no part: to part it from its round touches no round
  cases hround : s.net.rounds.get? id with
  | none => cases node <;> simp only [kill, mapNode, Network.mapNode_rounds, hround] <;> exact .still
  | some r =>
      cases hterminal : r.phase.isTerminal with
      | true =>
          cases node <;> simp only [kill, mapNode, Network.mapNode_rounds, hround, Round.fail,
            hterminal, if_true] <;> exact .still
      | false =>
          have hfail := Timers.Step.fail (phase_timers hround) hterminal
          rw [← timers_setRound s hround
            { r with phase := .failed, stamps := r.stamps.insert .failed now }] at hfail
          cases node <;> simp only [kill, mapNode, Network.mapNode_rounds, hround, Round.fail,
            hterminal, Bool.false_eq_true, if_false] <;> exact hfail

lemma step_killHeld (s : Shared) (now : Instant) (v : NodeId) (held : Option RoundId)
    (cause : Cause) : Timers.Step s.timers none (s.killHeld now v held cause).1.timers := by
  cases held with
  | none => exact .still
  | some id =>
      have hkill := s.step_kill now id (some v) cause
      dsimp only [killHeld]
      split <;> rename_i heq <;> rw [heq] at hkill <;> exact hkill

/-! ## A notification -/

/-- **Counting a member** leaves the phase alone, or moves the round as far as the life cycle allows. -/
lemma timers_countAndAdvance (s : Shared) {id : RoundId} {r : Round}
    (hround : s.net.rounds.get? id = some r) (next : Phase) (stamp : Instant)
    (after : Shared → Shared) :
    (s.countAndAdvance id r next stamp after).1.timers = s.timers ∨
      r.phase.mayAdvance next = true ∧ ∃ s' : Shared, s'.timers = s.timers.enter id next ∧
        (s.countAndAdvance id r next stamp after).1 = after s' := by
  rw [countAndAdvance]
  split
  · exact Or.inl rfl
  · rename_i counted complete hcount
    have hphase : counted.phase = r.phase := by
      rw [Round.countReady] at hcount
      split at hcount <;> cases hcount
      rfl
    have hcounted : ({ s with net := s.net.setRound id counted } : Shared).timers = s.timers := by
      rw [timers_setRound s hround, hphase, enter_same hround]
    have hthere : (s.net.setRound id counted).rounds.get? id = some counted := by
      simp [Network.get?_setRound, hround]
    dsimp only
    split
    · exact Or.inl hcounted
    · split
      · exact Or.inl hcounted
      · rename_i moved hadvance
        rw [Round.advance] at hadvance
        split at hadvance
        · rename_i hmay
          cases hadvance
          refine Or.inr ⟨hphase ▸ hmay, _, ?_, rfl⟩
          have hmoved := timers_setRound { s with net := s.net.setRound id counted } hthere
            { counted with phase := next, ready := 0, stamps := counted.stamps.insert next stamp }
          rw [hcounted] at hmoved
          exact hmoved
        · cases hadvance

section Apply

variable {settings : Settings} {now : Instant} {clock : Nat} {reserved : List NodeId} {s : Shared}

lemma step_applyActivity {v : NodeId} {held : Option (RoundId × Round)} (node : Node)
    (hheld : s.Holds v held) (a : Activity) : Timers.Step s.timers none
      (s.applyActivity settings now clock reserved v node held a).1.timers := by
  cases a with
  | notStarted | precomputing | realtime => exact .still
  | waiting =>
      dsimp only [applyActivity]
      split
      · exact .still
      · split <;> exact .still
  | standby =>
      cases held with
      | none => exact .still
      | some held =>
          obtain ⟨id, r⟩ := held
          dsimp only [applyActivity]
          rcases s.timers_countAndAdvance hheld.2 .realtime (now.addMillis settings.realtimeDelay)
            (fun s => s.watch id .realtime (clock + settings.realtimeTimeoutMs.toNat)) with
            heq | ⟨hmay, s', hs', heq⟩ <;> rw [heq]
          · exact .still
          · have hphase : r.phase = .precomputing := by
              cases hr : r.phase <;> simp_all [Phase.mayAdvance]
            have hstep : Timers.Step s.timers none ((s.timers.enter id .realtime).set
                ⟨id, .realtime, clock + settings.realtimeTimeoutMs.toNat⟩) :=
              .realtime (hphase ▸ phase_timers hheld.2)
            rw [← hs'] at hstep
            exact hstep
  | completed =>
      cases held with
      | none => exact .still
      | some held =>
          obtain ⟨id, r⟩ := held
          dsimp only [applyActivity]
          rcases (s.mapNode v Node.detach).timers_countAndAdvance hheld.2 .completed now
            (fun s => s) with heq | ⟨hmay, s', hs', heq⟩ <;> rw [heq]
          · exact .still
          · have hphase : r.phase = .realtime := by
              cases hr : r.phase <;> simp_all [Phase.mayAdvance]
            rw [hs']
            exact .complete (hphase ▸ phase_timers hheld.2)
  | error => exact s.step_killHeld now v _ _

/-- **A notification** moves its node's round, or fails it, or does nothing to it. -/
lemma step_apply {n : Notification}
    (h : ∀ id, s.net.holding n.node = some id → ∃ r, s.net.rounds.get? id = some r) :
    Timers.Step s.timers none (s.apply settings now clock reserved n).1.timers := by
  obtain ⟨held, hheld⟩ := exists_holds h
  cases hnode : s.net.nodes.get? n.node with
  | none =>
      simp only [apply, hnode]
      exact .still
  | some node =>
      rw [apply_eq hnode hheld]
      cases s.kindOf n with
      | alreadyBanned | staleAfterFailure => exact .still
      | ban => exact step_killHeld { s with pool := (s.pool.remove n.node).2 } now n.node _ _
      | activity a => exact step_applyActivity node hheld a

end Apply

/-! ## A start -/

/-- **What a start does that succeeds**: the number of the round was free, and the round is there in its
first phase, tracked and watched. -/
lemma start_eq_ok {s s' : Shared} {now : Instant} {clock : Nat} {p : ProtoRound}
    (hstart : s.start now clock p = (s', .ok ())) : s.net.rounds.get? p.id = none ∧
      ∃ r : Round, r.phase = .precomputing ∧
        (∀ j, s'.net.rounds.get? j = if j = p.id then some r else s.net.rounds.get? j) ∧
        s'.tracker = (s.tracker.add p.id).2 ∧
        s'.watchers = s.watchers ++ [⟨p.id, .precomputation, clock + p.precomputationTimeout⟩] := by
  simp only [start] at hstart
  split at hstart
  · cases hstart
  split at hstart
  · cases hstart
  rename_i net hadd
  split at hstart
  · cases hstart
  rename_i round hadvance
  split at hstart
  · cases hstart
  obtain rfl := (Prod.mk.inj hstart).1
  rw [Network.addRound] at hadd
  split at hadd
  · cases hadd
  rename_i hfree
  cases hadd
  refine ⟨by simpa [Table.contains] using hfree, round, ?_, fun j => ?_, rfl, rfl⟩
  · rw [Round.advance] at hadvance
    split at hadvance <;> cases hadvance
    rfl
  · simp only [watch, Network.publish_rounds, Network.get?_setRound, Table.get?_insert]
    by_cases hj : j = p.id
    · simp [hj]
    · simp [hj]

/-- **A start that succeeds** tracks the round and sets its first timer. -/
lemma step_start {s s' : Shared} {now : Instant} {clock : Nat} {p : ProtoRound}
    (hstart : s.start now clock p = (s', .ok ())) : Timers.Step s.timers none s'.timers := by
  obtain ⟨hnew, r, hphase, hrounds, htracker, hwatchers⟩ := start_eq_ok hstart
  have htimers : s'.timers = ((s.timers.enter p.id .precomputing).track p.id).set
      ⟨p.id, .precomputation, clock + p.precomputationTimeout⟩ := by
    refine Timers.ext (funext fun j => ?_) htracker hwatchers
    simp only [timers, Timers.enter, Timers.track, Timers.set, Network.phase?, hrounds]
    split
    · simp [hphase]
    · rfl
  rw [htimers]
  exact .start (by simp [timers, Network.phase?, hnew])

end Shared

namespace World

/-- The rounds of a scheduler and their timers. -/
def timers (w : World) : Timers := w.shared.timers

/-- The watcher whose timer runs out in a move. -/
def expired? (w : World) : Move → Option Watcher
  | .expire x =>
      if x ∈ w.shared.watchers ∧ x.deadline ≤ w.clock then some x else none
  | _ => none

variable {w : World}

lemma timers_of_interior {w w' : World} (h : w'.interior = w.interior) : w'.timers = w.timers := by
  have hrounds : w'.shared.net.rounds = w.shared.net.rounds := congrArg Interior.rounds h
  have htracker : w'.shared.tracker = w.shared.tracker := congrArg Interior.tracker h
  have hwatchers : w'.shared.watchers = w.shared.watchers := congrArg Interior.watchers h
  have hphase : w'.shared.net.phase? = w.shared.net.phase? := by
    funext j
    simp only [Network.phase?, hrounds]
  simp only [timers, Shared.timers, hphase, htracker, hwatchers]

/-! ## The end of a turn -/

lemma timers_closeQueues (w : World) : w.closeQueues.timers = w.timers :=
  read_closeQueues timers (fun _ _ => rfl) (fun _ _ => rfl) (fun _ => rfl) w

lemma timers_finish (w : World) (result : Except Setback Unit) : (w.finish result).timers = w.timers :=
  timers_closeQueues w

lemma timers_assemble (w : World) (chance : Nat → Shuffle) :
    (w.assemble chance).1.timers = w.timers := by
  obtain ⟨-, hrounds, -, -⟩ := assembleFrom_frame (w.shared.pool.online.length + 1) chance w
  have hrest : (w.assemble chance).1.remainder = w.remainder := remainder_assembleFrom _ chance w
  have hphase : (w.assemble chance).1.shared.net.phase? = w.shared.net.phase? := by
    funext j
    exact congrArg (fun t => (Table.get? t j).map Round.phase) hrounds
  exact Timers.ext hphase (congrArg Remainder.tracker hrest) (congrArg Remainder.watchers hrest)

lemma timers_settleTurn (w : World) (chance : Nat → Shuffle) :
    (w.settleTurn chance).timers = w.timers :=
  read_settleTurn timers (timers_assemble w chance)
    (fun w => congrArg Shared.timers (shared_acknowledge w)) timers_finish

/-! ## The turn -/

lemma step_processUpdate (hr : w.roster.Sound) (n : Notification) :
    Timers.Step w.timers none (w.processUpdate n).timers := by
  have htaken : (w.takenOver n).roster.Sound := (roster_takenOver w n).symm ▸ hr
  have hstep : Timers.Step w.timers none ((w.takenOver n).shared.apply w.settings w.wall w.clock
      w.loop.reserved n).1.timers := Shared.step_apply (s := (w.takenOver n).shared)
    fun id hid => exists_round htaken hid
  rw [processUpdate]
  dsimp only
  split <;> exact hstep

lemma step_processEvent (w : World) (e : Event) :
    Timers.Step w.timers none (w.processEvent e).timers := by
  cases e with
  | timedOut id phase =>
      dsimp only [processEvent]
      obtain ⟨s, f, heq, rfl | ⟨cause, rfl⟩⟩ := processTimeout_cases w id phase <;> rw [heq]
      · exact .still
      · exact w.shared.step_kill w.wall id none cause
  | started id | startFailed p fault =>
      dsimp only [processEvent, unreserve]
      split <;> exact .still
  | finished id => exact .still

lemma step_iterate (hr : w.roster.Sound) (source : Source) (chance : Nat → Shuffle) :
    Timers.Step w.timers none (w.iterate source chance).timers := by
  rw [iterate]
  split
  · split
    · exact .still
    · rename_i m w' htake
      rw [timers_settleTurn]
      cases source <;> simp only [take?, Option.map_eq_some_iff] at htake <;>
        obtain ⟨⟨message, ch⟩, -, heq⟩ := htake <;> cases heq
      · exact step_processUpdate (w := { w with updates := ch }) hr message
      · exact step_processEvent { w with events := ch } message
      · cases message <;> exact .still
  · exact .still

/-! ## The workers -/

lemma timers_report (w : World) (e : Event) : (w.report e).timers = w.timers := by
  rw [report]
  split <;> rfl

lemma step_attempt (hr : w.roster.Sound) : Timers.Step w.timers none w.attempt.timers := by
  rw [attempt]
  split
  · rename_i p due hstarter
    split
    · exact .still
    · have hp : p ∈ w.pending := by simp [pending, hstarter]
      rcases start_pending hr hp w.wall w.clock with ⟨v, -, hstart⟩ | ⟨s', hstart, -⟩
      · simp only [hstart]
        rw [timers_report]
        exact .still
      · simp only [hstart]
        rw [timers_report]
        exact Shared.step_start hstart
  · exact .still

/-- Whether a round has left the phase that is watched, seen from its phase. -/
lemma hasLeft_iff (w : World) (x : Watcher) :
    w.hasLeft x = true ↔ ∃ p, w.timers.phase x.round = some p ∧ p ≠ x.phase.watched := by
  simp only [hasLeft, timers, Shared.timers, Network.phase?]
  cases w.shared.net.rounds.get? x.round with
  | none => simp
  | some r => simp

lemma step_leave (w : World) (x : Watcher) : Timers.Step w.timers none (w.leave x).timers := by
  rw [leave]
  split
  · rename_i hx
    obtain ⟨hmem, hleft⟩ := hx
    obtain ⟨p, hphase, hp⟩ := (hasLeft_iff w x).1 hleft
    dsimp only
    split <;> rename_i hwatched
    · exact .quit hmem hwatched
    · rw [hwatched] at hp
      exact .retire hmem hwatched hphase hp
  · exact .still

lemma step_expire (w : World) (x : Watcher) :
    Timers.Step w.timers (w.expired? (.expire x)) (w.expire x).timers := by
  rw [expire, expired?]
  by_cases hx : x ∈ w.shared.watchers ∧ x.deadline ≤ w.clock
  · rw [if_pos hx, if_pos hx]
    exact .expire hx.1
  · rw [if_neg hx, if_neg hx]
    exact .still

/-! ## Every move -/

/-- **Every move is one step** of the rounds and their timers. -/
theorem step_timers (hr : w.roster.Sound) (m : Move) :
    Timers.Step w.timers (w.expired? m) (w.step m).timers := by
  have hsame : ∀ w' : World, w'.timers = w.timers → Timers.Step w.timers none w'.timers :=
    fun w' heq => heq.symm ▸ .still
  cases hprivate : m.isPrivate with
  | true =>
      have hstep := hsame _ (congrArg Shared.timers (shared_of_isPrivate (w := w) hprivate))
      cases m <;> first | exact hstep | cases hprivate
  | false =>
      cases m with
      | iterate source chance => exact step_iterate hr source chance
      | attempt => exact step_attempt hr
      | leave x => exact step_leave w x
      | expire x => exact step_expire w x
      | poll call v a => exact hsame _ (timers_of_interior (interior_poll w call v a))
      | ban call v => exact hsame _ (timers_of_interior (interior_ban w call v))
      | resumeBan call => exact hsame _ (timers_of_interior (interior_resumeBan w call))
      | drop =>
          refine hsame _ ?_
          dsimp only [step, drop]
          split
          · exact timers_closeQueues w
          · exact timers_closeQueues w
          · rfl
      | sweep =>
          refine hsame _ ?_
          dsimp only [step, sweep]
          split
          · rfl
          · split <;> rfl
      | _ => cases hprivate

end World

end MixRounds.Live
