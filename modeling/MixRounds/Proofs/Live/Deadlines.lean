import Mathlib.Data.List.Basic
import MixRounds.Proofs.Live.Clocks
import MixRounds.Proofs.Live.Winding

/-!
# When timers are set

A round goes forward through its phases and does not come back (`Timers.Step.rank_le`).  The timer of a phase
is set in the move in which the round enters the phase (`Timers.Step.set_or_sublist`), so that no round has a
second one of the same phase (**`World.timersSet_spec`**).  It is set for the whole of the time that the
settings give for the phase (**`World.deadline_of_step`**): for precomputing the team has brought this time
along since it was formed (`World.Briefed`).
-/

namespace MixRounds

/-- How long a round may stay in a timed phase, in milliseconds. -/
def Settings.timeoutOf (s : Settings) : TimedPhase → Nat
  | .precomputation => s.precomputationTimeoutMs.toNat
  | .realtime => s.realtimeTimeoutMs.toNat

lemma Phase.eq_of_rank_eq {p q : Phase} (h : p.rank = q.rank) : p = q := by
  cases p <;> cases q <;> first | rfl | cases h

namespace Live

namespace Timers

variable {t t' : Timers} {expired : Option Watcher} {id : RoundId} {p : TimedPhase}

/-- The round has come as far as the phase that is timed. -/
def Reached (t : Timers) (id : RoundId) (p : TimedPhase) : Prop :=
  ∃ q, t.phase id = some q ∧ p.watched.rank ≤ q.rank

/-- **Rounds go forward.** -/
lemma Step.rank_le (hstep : t.Step expired t') {q : Phase} (hq : t.phase id = some q) :
    ∃ q', t'.phase id = some q' ∧ q.rank ≤ q'.rank := by
  have henter : ∀ (j : RoundId) (next : Phase), (∀ r, t.phase j = some r → r.rank ≤ next.rank) →
      ∃ q', (t.enter j next).phase id = some q' ∧ q.rank ≤ q'.rank := by
    intro j next hnext
    by_cases hj : id = j
    · subst hj
      exact ⟨next, by simp [enter], hnext q hq⟩
    · exact ⟨q, by simp [enter, hj, hq], Nat.le_refl _⟩
  cases hstep with
  | still | quit | retire | expire => exact ⟨q, hq, Nat.le_refl _⟩
  | start hnew => exact henter _ .precomputing fun r hr => by simp [hnew] at hr
  | realtime hphase => exact henter _ .realtime fun r hr => by cases hphase.symm.trans hr; decide
  | complete hphase => exact henter _ .completed fun r hr => by cases hphase.symm.trans hr; decide
  | fail => exact henter _ .failed fun r _ => by cases r <;> decide

namespace Reached

lemma of_phase (h : t.phase id = some p.watched) : t.Reached id p := ⟨_, h, Nat.le_refl _⟩

lemma step (h : t.Reached id p) (hstep : t.Step expired t') : t'.Reached id p := by
  obtain ⟨q, hq, hle⟩ := h
  obtain ⟨q', hq', hle'⟩ := hstep.rank_le hq
  exact ⟨q', hq', Nat.le_trans hle hle'⟩

/-- **A round that has come as far does not enter the phase any more**: if it is there now, it was before. -/
lemma phase_of_step (h : t.Reached id p) (hstep : t.Step expired t') (hthere : t'.phase id = some p.watched) :
    t.phase id = some p.watched := by
  obtain ⟨q, hq, hle⟩ := h
  obtain ⟨q', hq', hle'⟩ := hstep.rank_le hq
  obtain rfl : q' = p.watched := Option.some.inj (hq'.symm.trans hthere)
  rw [hq, Phase.eq_of_rank_eq (Nat.le_antisymm hle' hle)]

end Reached

/-- **A timer is set** in the move in which its round enters the phase; otherwise timers only go. -/
lemma Step.set_or_sublist (hstep : t.Step expired t') : t'.watchers.Sublist t.watchers ∨
    ∃ x, t'.watchers = t.watchers ++ [x] ∧ ¬ t.Reached x.round x.phase ∧
      t'.phase x.round = some x.phase.watched := by
  cases hstep with
  | still | complete | fail => exact Or.inl (List.Sublist.refl _)
  | quit | retire | expire => exact Or.inl List.erase_sublist
  | start hnew =>
      refine Or.inr ⟨_, rfl, ?_, by simp [enter, track, set, TimedPhase.watched]⟩
      rintro ⟨q, hq, -⟩
      simp [hnew] at hq
  | realtime hphase =>
      refine Or.inr ⟨_, rfl, ?_, by simp [enter, set, TimedPhase.watched]⟩
      rintro ⟨q, hq, hle⟩
      cases hphase.symm.trans hq
      simp [TimedPhase.watched, Phase.rank] at hle

end Timers

/-! ## One timer for each phase -/

/-- What was added at the end is what is left when the rest is taken away. -/
lemma diff_of_append {α : Type} [DecidableEq α] (xs ys : List α) : (xs ++ ys).diff xs = ys := by
  induction xs with
  | nil => rfl
  | cons x rest ih => simpa using ih

lemma diff_of_sublist {α : Type} [DecidableEq α] {xs ys : List α} (h : xs.Sublist ys) : xs.diff ys = [] := by
  have hnone : ys.diff ys = [] := by simpa using diff_of_append ys []
  have hsub : (xs.diff ys).Sublist (ys.diff ys) := h.diff_right
  rw [hnone] at hsub
  exact List.sublist_nil.1 hsub

namespace World

/-- The timers that are set in a run, in order. -/
def timersSet (w : World) : List Move → List Watcher
  | [] => []
  | m :: rest => (w.step m).shared.watchers.diff w.shared.watchers ++ (w.step m).timersSet rest

variable {w : World}

/-- A timer that is set is of a phase that its round has not come to before. -/
lemma timersSet_spec (hr : w.roster.Sound) (moves : List Move) :
    ((w.timersSet moves).map fun x => (x.round, x.phase)).Nodup ∧
      ∀ x ∈ w.timersSet moves, ¬ w.timers.Reached x.round x.phase := by
  induction moves generalizing w with
  | nil => exact ⟨List.nodup_nil, fun x hx => by cases hx⟩
  | cons m rest ih =>
      have hstep := step_timers hr m
      obtain ⟨hnodup, hlater⟩ := ih (step_sound hr m)
      have hbefore : ∀ x ∈ (w.step m).timersSet rest, ¬ w.timers.Reached x.round x.phase :=
        fun x hx hreached => hlater x hx (hreached.step hstep)
      rw [timersSet]
      rcases hstep.set_or_sublist with hsub | ⟨x, hset, hnew, hthere⟩
      · rw [diff_of_sublist (show (w.step m).shared.watchers.Sublist w.shared.watchers from hsub)]
        exact ⟨hnodup, hbefore⟩
      · rw [show (w.step m).shared.watchers = w.shared.watchers ++ [x] from hset, diff_of_append]
        -- the round is in the phase now, and the timers that are set later are of other phases
        refine ⟨List.nodup_cons.2 ⟨fun hmem => ?_, hnodup⟩, ?_⟩
        · obtain ⟨y, hy, heq⟩ := List.mem_map.1 hmem
          obtain ⟨hround, hphase⟩ := Prod.mk.inj heq
          refine hlater y hy ?_
          rw [hround, hphase]
          exact .of_phase hthere
        · rintro y (_ | ⟨_, hy⟩)
          · exact hnew
          · exact hbefore y hy

/-! ## The time that a team brings along -/

/-- The teams on their way to the starter bring along what the settings give for precomputing. -/
def Briefed (w : World) : Prop :=
  ∀ p ∈ w.pending, p.precomputationTimeout = w.settings.timeoutOf .precomputation

lemma Briefed.congr {w' : World} (h : w.Briefed) (hsettings : w'.settings = w.settings)
    (hpending : ∀ p ∈ w'.pending, p ∈ w.pending) : w'.Briefed := by
  intro p hp
  rw [hsettings]
  exact h p (hpending p hp)

lemma timeout_of_formTeam {picked : List NodeId} {p : ProtoRound} {net : Network}
    (hform : w.formTeam picked = (.ok p, net)) :
    p.precomputationTimeout = w.settings.timeoutOf .precomputation := by
  rw [formTeam] at hform
  dsimp only at hform
  split at hform
  · cases hform
  · split at hform
    · cases hform
    · cases hform
      rfl

lemma mem_pending_teamFormed {p q : ProtoRound} (h : q ∈ (w.teamFormed p).pending) :
    q ∈ w.pending ∨ q = p := by
  simp only [pending, teamFormed] at h ⊢
  split at h <;> simpa [or_assoc] using h

/-- **A team is briefed when it is formed.** -/
lemma briefed_assembleOne (h : w.Briefed) (chance : Shuffle) : (w.assembleOne chance).1.Briefed := by
  have hsame : ∀ {w' : World}, w'.settings = w.settings → w'.pending = w.pending → w'.Briefed :=
    fun hsettings hpending => h.congr hsettings fun p hp => hpending ▸ hp
  rw [assembleOne]
  split
  · split <;> exact h
  · rename_i picked pool hpick
    dsimp only
    split
    · rw [assemblyFailed]
      dsimp only
      split
      · exact hsame rfl rfl
      · split <;> exact hsame rfl rfl
    · exact hsame rfl rfl
    · rename_i p net hform
      intro q hq
      rcases mem_pending_teamFormed hq with hold | rfl
      · exact h q hold
      · exact timeout_of_formTeam (w := w.mapShared fun s => { s with pool := pool }) hform

lemma briefed_settleTurn (h : w.Briefed) (chance : Nat → Shuffle) : (w.settleTurn chance).Briefed := by
  refine settleTurn_induction (P := Briefed) (fun w chance h => briefed_assembleOne h chance)
    (fun w h => ?_) (fun w result h => ?_) h chance
  · have hsettings : w.acknowledge.settings = w.settings :=
      read_acknowledge settings (fun _ _ => rfl) (fun _ => rfl) w
    have hpending : w.acknowledge.pending = w.pending := congrArg Roster.pending (roster_acknowledge w)
    exact h.congr hsettings fun p hp => hpending ▸ hp
  · have hsettings : (w.finish result).settings = w.settings :=
      congrArg Conditions.settings (conditions_closeQueues w)
    have hpending : (w.finish result).pending = w.pending := pending_closeQueues w
    exact h.congr hsettings fun p hp => hpending ▸ hp

/-- **Every move leaves the teams briefed.** -/
lemma step_briefed (h : w.Briefed) (m : Move) : (w.step m).Briefed := by
  cases htaken : w.taken? m with
  | none =>
      exact h.congr (settings_of_step w m) fun p hp => mem_pending_of_taken_eq_none htaken hp
  | some message =>
      obtain ⟨source, chance, w', -, htake, hstep⟩ := step_of_taken htaken
      rw [hstep]
      have hprocessed : (w'.process message).settings = w.settings ∧
          (w'.process message).pending = w.pending := by
        rw [process_eq, take?_eq htake]
        exact ⟨rfl, rfl⟩
      exact briefed_settleTurn (h.congr hprocessed.1 fun p hp => hprocessed.2 ▸ hp) chance

end World

/-! ## For how long a timer is set -/

namespace Shared

variable {s : Shared} {settings : Settings} {now : Instant} {clock : Nat} {reserved : List NodeId}
  {n : Notification} {x : Watcher}

lemma watchers_kill (s : Shared) (now : Instant) (id : RoundId) (node : Option NodeId) (cause : Cause) :
    (s.kill now id node cause).1.watchers = s.watchers := by
  cases node <;> dsimp only [kill] <;> split <;> first | rfl | split <;> rfl

lemma watchers_killHeld (s : Shared) (now : Instant) (v : NodeId) (held : Option RoundId) (cause : Cause) :
    (s.killHeld now v held cause).1.watchers = s.watchers := by
  cases held with
  | none => rfl
  | some id =>
      have hkill := s.watchers_kill now id (some v) cause
      dsimp only [killHeld]
      split <;> rename_i heq <;> rw [heq] at hkill <;> exact hkill

/-- The watchers are those of before, up to what follows the change of the phase. -/
lemma watchers_countAndAdvance {id : RoundId} {r : Round} (hround : s.net.rounds.get? id = some r)
    (next : Phase) (stamp : Instant) (after : Shared → Shared) :
    (s.countAndAdvance id r next stamp after).1.watchers = s.watchers ∨
      ∃ s' : Shared, s'.watchers = s.watchers ∧
        (s.countAndAdvance id r next stamp after).1 = after s' := by
  rcases s.timers_countAndAdvance hround next stamp after with heq | ⟨-, s', hs', heq⟩
  · exact Or.inl (congrArg Timers.watchers heq)
  · exact Or.inr ⟨s', congrArg Timers.watchers hs', heq⟩

lemma deadline_applyActivity {v : NodeId} {held : Option (RoundId × Round)} (node : Node)
    (hheld : s.Holds v held) (a : Activity)
    (hx : x ∈ (s.applyActivity settings now clock reserved v node held a).1.watchers) :
    x ∈ s.watchers ∨ x.deadline = clock + settings.timeoutOf x.phase := by
  cases a with
  | notStarted | precomputing | realtime => exact Or.inl hx
  | waiting =>
      dsimp only [applyActivity] at hx
      split at hx
      · exact Or.inl hx
      · split at hx <;> exact Or.inl hx
  | standby =>
      cases held with
      | none => exact Or.inl hx
      | some held =>
          obtain ⟨id, r⟩ := held
          dsimp only [applyActivity] at hx
          rcases s.watchers_countAndAdvance hheld.2 .realtime (now.addMillis settings.realtimeDelay)
            (fun s => s.watch id .realtime (clock + settings.realtimeTimeoutMs.toNat)) with
            heq | ⟨s', hs', heq⟩ <;> rw [heq] at hx
          · exact Or.inl hx
          · simp only [watch, hs', List.mem_append, List.mem_singleton] at hx
            rcases hx with hold | rfl
            · exact Or.inl hold
            · exact Or.inr rfl
  | completed =>
      cases held with
      | none => exact Or.inl hx
      | some held =>
          obtain ⟨id, r⟩ := held
          dsimp only [applyActivity] at hx
          rcases (s.mapNode v Node.detach).watchers_countAndAdvance hheld.2 .completed now
            (fun s => s) with heq | ⟨s', hs', heq⟩ <;> rw [heq] at hx
          · exact Or.inl hx
          · exact Or.inl (hs' ▸ hx)
  | error =>
      dsimp only [applyActivity] at hx
      rw [watchers_killHeld] at hx
      exact Or.inl hx

lemma deadline_apply (h : ∀ id, s.net.holding n.node = some id → ∃ r, s.net.rounds.get? id = some r)
    (hx : x ∈ (s.apply settings now clock reserved n).1.watchers) :
    x ∈ s.watchers ∨ x.deadline = clock + settings.timeoutOf x.phase := by
  obtain ⟨held, hheld⟩ := exists_holds h
  cases hnode : s.net.nodes.get? n.node with
  | none =>
      simp only [apply, hnode] at hx
      exact Or.inl hx
  | some node =>
      rw [apply_eq hnode hheld] at hx
      cases hkind : s.kindOf n <;> rw [hkind] at hx <;> dsimp only at hx
      case ban =>
        rw [watchers_killHeld] at hx
        exact Or.inl hx
      case activity a => exact deadline_applyActivity node hheld a hx
      all_goals exact Or.inl hx

end Shared

namespace World

variable {w : World} {x : Watcher}

lemma watchers_settleTurn (w : World) (chance : Nat → Shuffle) :
    (w.settleTurn chance).shared.watchers = w.shared.watchers :=
  congrArg Timers.watchers (timers_settleTurn w chance)

lemma deadline_processUpdate (hr : w.roster.Sound) {n : Notification}
    (hx : x ∈ (w.processUpdate n).shared.watchers) :
    x ∈ w.shared.watchers ∨ x.deadline = w.clock + w.settings.timeoutOf x.phase := by
  have htaken : (w.takenOver n).roster.Sound := (roster_takenOver w n).symm ▸ hr
  have hx' : x ∈ ((w.takenOver n).shared.apply w.settings w.wall w.clock w.loop.reserved n).1.watchers := by
    rw [processUpdate] at hx
    dsimp only at hx
    split at hx <;> exact hx
  exact Shared.deadline_apply (s := (w.takenOver n).shared) (fun id hid => exists_round htaken hid) hx'

lemma watchers_processEvent (w : World) (e : Event) :
    (w.processEvent e).shared.watchers = w.shared.watchers := by
  cases e with
  | timedOut id phase =>
      dsimp only [processEvent]
      obtain ⟨s, f, heq, rfl | ⟨cause, rfl⟩⟩ := processTimeout_cases w id phase <;> rw [heq]
      · rfl
      · exact w.shared.watchers_kill w.wall id none cause
  | started id | startFailed p fault =>
      dsimp only [processEvent, unreserve]
      split <;> rfl
  | finished id => rfl

lemma deadline_iterate (hr : w.roster.Sound) {source : Source} {chance : Nat → Shuffle}
    (hx : x ∈ (w.iterate source chance).shared.watchers) :
    x ∈ w.shared.watchers ∨ x.deadline = w.clock + w.settings.timeoutOf x.phase := by
  rcases w.iterate_cases source chance with heq | ⟨m, w', htaken, heq⟩ <;> rw [heq] at hx
  · exact Or.inl hx
  · rw [watchers_settleTurn] at hx
    cases htaken with
    | @update n ch => exact deadline_processUpdate (w := { w with updates := ch }) hr hx
    | @event e ch => exact Or.inl (watchers_processEvent { w with events := ch } e ▸ hx)
    | @request r => cases r <;> exact Or.inl hx

lemma deadline_attempt (hr : w.roster.Sound) (hb : w.Briefed) (hx : x ∈ w.attempt.shared.watchers) :
    x ∈ w.shared.watchers ∨ x.deadline = w.clock + w.settings.timeoutOf x.phase := by
  rcases attempt_cases hr with heq | ⟨p, hp, ⟨v, -, heq⟩ | ⟨s, hstart, -, heq⟩⟩ <;> rw [heq] at hx
  · exact Or.inl hx
  · rw [shared_report] at hx
    exact Or.inl hx
  · obtain ⟨-, -, -, -, -, hwatchers⟩ := Shared.start_eq_ok hstart
    simp only [shared_report, hwatchers, List.mem_append, List.mem_singleton] at hx
    rcases hx with hold | rfl
    · exact Or.inl hold
    · exact Or.inr (by rw [hb p hp])

/-- **A timer is set for the whole of the time** that the settings give for its phase. -/
theorem deadline_of_step (hr : w.roster.Sound) (hb : w.Briefed) {m : Move}
    (hx : x ∈ (w.step m).shared.watchers) :
    x ∈ w.shared.watchers ∨ x.deadline = w.clock + w.settings.timeoutOf x.phase := by
  cases hprivate : m.isPrivate with
  | true =>
      rw [shared_of_isPrivate hprivate] at hx
      exact Or.inl hx
  | false =>
      have hcalled : ∀ {w' : World}, w'.interior = w.interior → x ∈ w'.shared.watchers →
          x ∈ w.shared.watchers := by
        intro w' heq hx'
        rwa [show w'.shared.watchers = w.shared.watchers from congrArg Interior.watchers heq] at hx'
      cases m with
      | iterate source chance => exact deadline_iterate hr hx
      | attempt => exact deadline_attempt hr hb hx
      | poll call v a => exact Or.inl (hcalled (interior_poll w call v a) hx)
      | ban call v => exact Or.inl (hcalled (interior_ban w call v) hx)
      | resumeBan call => exact Or.inl (hcalled (interior_resumeBan w call) hx)
      | leave y =>
          dsimp only [step, leave] at hx
          split at hx
          · split at hx <;> exact Or.inl (List.mem_of_mem_erase hx)
          · exact Or.inl hx
      | expire y =>
          dsimp only [step, expire] at hx
          split at hx
          · exact Or.inl (List.mem_of_mem_erase hx)
          · exact Or.inl hx
      | sweep =>
          dsimp only [step, sweep] at hx
          split at hx
          · exact Or.inl hx
          · split at hx <;> exact Or.inl hx
      | drop =>
          have hclosed : w.closeQueues.shared.watchers = w.shared.watchers :=
            congrArg Timers.watchers (timers_closeQueues w)
          dsimp only [step, drop] at hx
          split at hx
          · exact Or.inl (hclosed ▸ hx)
          · exact Or.inl (hclosed ▸ hx)
          · exact Or.inl hx
      | _ => cases hprivate

end World

end Live

end MixRounds
