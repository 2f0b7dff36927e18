import MixRounds.Proofs.Live.Draining
import MixRounds.Proofs.Live.Membership
import MixRounds.Proofs.Live.Timers

/-!
# Which rounds are tracked

A round is tracked from its start until it is done with.  When it fails, the call that fails it stops
tracking it.  When it completes, this is left to the watcher of realtime, which sees that the round has
left that phase.  But the watcher may end the other way, when its timer runs out:

* while the round is in realtime, and before the loop hears of that the last member completes the round;
* or when the round is completed already, and the watcher, which finds the end of the phase and the end of
  its time at once, takes the latter.

In both cases the loop finds the round at its end and leaves it alone, and nobody is left to stop tracking
it.

**`World.retired_iff`** says that nothing else goes wrong.  In every reachable state the tracked rounds are
those in precomputing or realtime, and the completed ones whose realtime watcher has not ended *or has run
out*.  So rounds are retired as they should be — whoever is tracked at its end still has its watcher, and a
drained loop with nothing left to do has stopped — exactly if the timer of realtime of no completed round
has run out, before the round was completed or after.  `World.not_retired_of_overdue` has a run for each, in
which the loop never stops.
-/

namespace MixRounds.Live

namespace Timers

/-- The rounds with a timer set on realtime. -/
def timed (t : Timers) : List RoundId :=
  (t.watchers.filter fun x => x.phase = .realtime).map Watcher.round

lemma mem_timed {t : Timers} {id : RoundId} :
    id ∈ t.timed ↔ ∃ x ∈ t.watchers, x.round = id ∧ x.phase = .realtime := by
  simp only [timed, List.mem_map, List.mem_filter, decide_eq_true_eq]
  constructor
  · rintro ⟨x, ⟨hx, hphase⟩, hround⟩
    exact ⟨x, hx, hround, hphase⟩
  · rintro ⟨x, hx, hround, hphase⟩
    exact ⟨x, ⟨hx, hphase⟩, hround⟩

lemma timed_set_precomputation (t : Timers) (id : RoundId) (due : Nat) :
    (t.set ⟨id, .precomputation, due⟩).timed = t.timed := by simp [timed, set]

lemma timed_set_realtime (t : Timers) (id : RoundId) (due : Nat) :
    (t.set ⟨id, .realtime, due⟩).timed = t.timed ++ [id] := by simp [timed, set]

lemma timed_drop_of_ne {t : Timers} {x : Watcher} (hx : x ∈ t.watchers) (hphase : x.phase ≠ .realtime) :
    t.timed.Perm (t.drop x).timed := by
  have hperm := ((List.perm_cons_erase hx).filter fun x => decide (x.phase = .realtime)).map
    Watcher.round
  rwa [List.filter_cons_of_neg (by simpa using hphase)] at hperm

lemma timed_drop {t : Timers} {x : Watcher} (hx : x ∈ t.watchers) (hphase : x.phase = .realtime) :
    t.timed.Perm (x.round :: (t.drop x).timed) := by
  have hperm := ((List.perm_cons_erase hx).filter fun x => decide (x.phase = .realtime)).map
    Watcher.round
  rwa [List.filter_cons_of_pos (by simpa using hphase), List.map_cons] at hperm

/-- What holds of rounds and timers at all times; `out` are the rounds whose realtime timer has run
out. -/
structure Tracked (t : Timers) (out : RoundId → Prop) : Prop where
  mem_iff : ∀ id, id ∈ t.tracker ↔ t.phase id = some .precomputing ∨ t.phase id = some .realtime ∨
    t.phase id = some .completed ∧ (id ∈ t.timed ∨ out id)
  realtime : ∀ id, t.phase id = some .realtime → id ∈ t.timed ∨ out id
  late : ∀ id, id ∈ t.timed ∨ out id →
    t.phase id = some .realtime ∨ t.phase id = some .completed ∨ t.phase id = some .failed
  nodup : t.timed.Nodup
  apart : ∀ id, out id → id ∉ t.timed

namespace Tracked

variable {t t' : Timers} {out : RoundId → Prop}

/-- A timer of realtime is set once the round is there, and not before. -/
lemma not_late (h : t.Tracked out) {id : RoundId}
    (hphase : t.phase id = none ∨ t.phase id = some .precomputing) : id ∉ t.timed ∧ ¬ out id := by
  rw [← not_or]
  intro hlate
  rcases hphase with hphase | hphase <;> simpa [hphase] using h.late id hlate

/-- Rounds may move as long as no timer is touched. -/
lemma enter (h : t.Tracked out) {id : RoundId} {p : Phase} (tracker : Tracker)
    (hmem : ∀ j, j ∈ tracker ↔ (t.enter id p).phase j = some .precomputing ∨
      (t.enter id p).phase j = some .realtime ∨
      (t.enter id p).phase j = some .completed ∧ (j ∈ t.timed ∨ out j))
    (hrealtime : p = .realtime → id ∈ t.timed ∨ out id)
    (hlate : id ∈ t.timed ∨ out id → p = .realtime ∨ p = .completed ∨ p = .failed) :
    { t.enter id p with tracker := tracker }.Tracked out where
  mem_iff := hmem
  realtime j hj := by
    by_cases heq : j = id
    · subst heq
      exact hrealtime (by simpa [Timers.enter] using hj)
    · exact h.realtime j (by simpa [Timers.enter, heq] using hj)
  late j hj := by
    by_cases heq : j = id
    · subst heq
      simpa [Timers.enter] using hlate hj
    · simpa [Timers.enter, heq] using h.late j hj
  nodup := h.nodup
  apart := h.apart

/-- **A round starts.** -/
lemma start (h : t.Tracked out) {id : RoundId} (due : Nat) (hnew : t.phase id = none) :
    (((t.enter id .precomputing).track id).set ⟨id, .precomputation, due⟩).Tracked out := by
  obtain ⟨hfree, hin⟩ := h.not_late (Or.inl hnew)
  have hstarted : ((t.enter id .precomputing).track id).Tracked out := by
    refine h.enter _ (fun j => ?_) (fun hp => by cases hp)
      (fun hlate => absurd hlate (not_or.2 ⟨hfree, hin⟩))
    refine Tracker.mem_add.trans ?_
    by_cases hj : j = id
    · simp [Timers.enter, hj]
    · simpa [Timers.enter, hj] using h.mem_iff j
  have hsame := timed_set_precomputation ((t.enter id .precomputing).track id) id due
  refine ⟨fun j => ?_, fun j => ?_, fun j => ?_, ?_, fun j => ?_⟩ <;> rw [hsame]
  · exact hstarted.mem_iff j
  · exact hstarted.realtime j
  · exact hstarted.late j
  · exact hstarted.nodup
  · exact hstarted.apart j

/-- **A round moves to realtime**, where its second timer is set. -/
lemma advance (h : t.Tracked out) {id : RoundId} (due : Nat) (hphase : t.phase id = some .precomputing) :
    ((t.enter id .realtime).set ⟨id, .realtime, due⟩).Tracked out := by
  obtain ⟨hfree, hin⟩ := h.not_late (Or.inr hphase)
  have htimed : ((t.enter id .realtime).set ⟨id, .realtime, due⟩).timed = t.timed ++ [id] :=
    timed_set_realtime _ id due
  refine ⟨fun j => ?_, fun j hj => ?_, fun j hj => ?_, ?_, fun j hj => ?_⟩
  · rw [htimed]
    have hold := h.mem_iff j
    by_cases hj : j = id
    · subst hj
      simpa [Timers.enter, Timers.set, hphase] using hold
    · simpa [Timers.enter, Timers.set, hj] using hold
  · rw [htimed]
    by_cases heq : j = id
    · exact Or.inl (by simp [heq])
    · have hold := h.realtime j (by simpa [Timers.enter, Timers.set, heq] using hj)
      exact hold.imp (fun hmem => List.mem_append_left _ hmem) fun hout => hout
  · rw [htimed] at hj
    by_cases heq : j = id
    · exact Or.inl (by simp [Timers.enter, Timers.set, heq])
    · simpa [Timers.enter, Timers.set, heq] using h.late j (by simpa [heq] using hj)
  · rw [htimed]
    exact h.nodup.append (List.nodup_singleton _) (by simpa using hfree)
  · rw [htimed]
    have hne : j ≠ id := fun heq => hin (heq ▸ hj)
    simpa [hne] using h.apart j hj

/-- **A watcher of precomputing is done.** -/
lemma drop_of_ne (h : t.Tracked out) {x : Watcher} (hx : x ∈ t.watchers)
    (hphase : x.phase ≠ .realtime) : (t.drop x).Tracked out := by
  have hperm := timed_drop_of_ne hx hphase
  refine ⟨fun j => ?_, fun j hj => ?_, fun j hj => ?_, hperm.nodup_iff.1 h.nodup, fun j hj => ?_⟩
  · rw [← hperm.mem_iff]
    exact h.mem_iff j
  · rw [← hperm.mem_iff]
    exact h.realtime j hj
  · rw [← hperm.mem_iff] at hj
    exact h.late j hj
  · rw [← hperm.mem_iff]
    exact h.apart j hj

/-- **The watcher of realtime sees that its round has left**, and stops tracking it. -/
lemma retire (h : t.Tracked out) {x : Watcher} (hx : x ∈ t.watchers) (hwatched : x.phase = .realtime)
    (hleft : t.phase x.round ≠ some .realtime) : ((t.drop x).untrack x.round).Tracked out := by
  have hperm := timed_drop hx hwatched
  have hmem : ∀ j, j ∈ t.timed ↔ j = x.round ∨ j ∈ (t.drop x).timed :=
    fun j => hperm.mem_iff.trans List.mem_cons
  obtain ⟨hgone, hnodup⟩ := List.nodup_cons.1 (hperm.nodup_iff.1 h.nodup)
  have hin : ¬ out x.round := fun hout => h.apart _ hout ((hmem _).2 (Or.inl rfl))
  have hlate := h.late x.round (Or.inl ((hmem _).2 (Or.inl rfl)))
  refine ⟨fun j => ?_, fun j hj => ?_, fun j hj => ?_, hnodup, fun j hj hin' => ?_⟩
  · refine Tracker.mem_remove.trans ?_
    by_cases hj : j = x.round
    · subst hj
      -- the round is at its end, and no timer of it is left
      have hend : t.phase x.round ≠ some .precomputing := by
        rcases hlate with heq | heq | heq <;> simp [heq]
      have hnone : ¬ (x.round ∈ (t.drop x).timed ∨ out x.round) := not_or.2 ⟨hgone, hin⟩
      constructor
      · rintro ⟨-, hne⟩
        exact absurd rfl hne
      · rintro (hp | hp | ⟨-, hp⟩)
        · exact absurd hp hend
        · exact absurd hp hleft
        · exact absurd hp hnone
    · have hold := h.mem_iff j
      simp only [hmem, hj, false_or] at hold
      exact ⟨fun hin => hold.1 hin.1, fun hp => ⟨hold.2 hp, hj⟩⟩
  · have hne : j ≠ x.round := fun heq => hleft (heq ▸ hj)
    have hold := h.realtime j hj
    rw [hmem] at hold
    exact hold.imp (fun hm => hm.resolve_left hne) fun hout => hout
  · exact h.late j (hj.imp (fun hm => (hmem j).2 (Or.inr hm)) fun hout => hout)
  · exact h.apart j hj ((hmem j).2 (Or.inr hin'))

/-- **The timer of realtime runs out.** -/
lemma expire (h : t.Tracked out) {x : Watcher} (hx : x ∈ t.watchers) (hwatched : x.phase = .realtime) :
    (t.drop x).Tracked fun id => out id ∨ x.round = id := by
  have hperm := timed_drop hx hwatched
  have hmem : ∀ j, j ∈ t.timed ∨ out j ↔ j ∈ (t.drop x).timed ∨ out j ∨ x.round = j := by
    intro j
    rw [hperm.mem_iff, List.mem_cons, eq_comm]
    tauto
  obtain ⟨hgone, hnodup⟩ := List.nodup_cons.1 (hperm.nodup_iff.1 h.nodup)
  refine ⟨fun j => ?_, fun j hj => ?_, fun j hj => ?_, hnodup, fun j hj hin => ?_⟩
  · rw [← hmem]
    exact h.mem_iff j
  · rw [← hmem]
    exact h.realtime j hj
  · rw [← hmem] at hj
    exact h.late j hj
  · rcases hj with hj | rfl
    · exact h.apart j hj (hperm.mem_iff.2 (List.mem_cons_of_mem _ hin))
    · exact hgone hin

/-- The rounds whose realtime timer has run out, if the timer of the watcher runs out now. -/
def outAfter (out : RoundId → Prop) (expired : Option Watcher) (id : RoundId) : Prop :=
  out id ∨ ∃ x, expired = some x ∧ x.phase = .realtime ∧ x.round = id

/-- **Every step keeps what is tracked right.** -/
theorem step (h : t.Tracked out) {expired : Option Watcher} (hstep : t.Step expired t') :
    t'.Tracked (outAfter out expired) := by
  have hsame : outAfter out none = out := by
    funext id
    simp [outAfter]
  cases hstep with
  | still => rwa [hsame]
  | start hnew =>
      rw [hsame]
      exact h.start _ hnew
  | realtime hphase =>
      rw [hsame]
      exact h.advance _ hphase
  | @complete id hphase =>
      rw [hsame]
      refine h.enter t.tracker (fun j => ?_) (fun hp => by cases hp) fun _ => Or.inr (Or.inl rfl)
      have hold := h.mem_iff j
      by_cases hj : j = id
      · subst hj
        have htimed := h.realtime j hphase
        simpa [Timers.enter, hphase, htimed] using hold
      · simpa [Timers.enter, hj] using hold
  | @fail id p hphase hlive =>
      rw [hsame]
      refine h.enter _ (fun j => ?_) (fun hp => by cases hp) fun _ => Or.inr (Or.inr rfl)
      refine Tracker.mem_remove.trans ?_
      by_cases hj : j = id
      · simp [Timers.enter, hj]
      · simpa [Timers.enter, hj] using h.mem_iff j
  | quit hx hwatched =>
      rw [hsame]
      exact h.drop_of_ne hx (by simp [hwatched])
  | retire hx hwatched hphase hleft =>
      rw [hsame]
      exact h.retire hx hwatched (by simpa [hphase] using hleft)
  | @expire x hx =>
      by_cases hwatched : x.phase = .realtime
      · have hout : outAfter out (some x) = fun id => out id ∨ x.round = id := by
          funext id
          simp [outAfter, hwatched]
        rw [hout]
        exact h.expire hx hwatched
      · have hout : outAfter out (some x) = out := by
          funext id
          simp [outAfter, hwatched]
        rw [hout]
        exact h.drop_of_ne hx hwatched

end Tracked

end Timers

namespace World

variable {w : World}

/-! ## Every run -/

/-- In the run the timer of realtime of the round runs out, be the round still in realtime or not. -/
def RanOut (w : World) (id : RoundId) : List Move → Prop
  | [] => False
  | m :: rest =>
      (∃ x, w.expired? m = some x ∧ x.phase = .realtime ∧ x.round = id) ∨ (w.step m).RanOut id rest

lemma run_tracked {out : RoundId → Prop} (hr : w.roster.Sound) (h : w.timers.Tracked out)
    (moves : List Move) : (w.run moves).timers.Tracked fun id => out id ∨ w.RanOut id moves := by
  induction moves generalizing w out with
  | nil => simpa [RanOut] using h
  | cons m rest ih =>
      have hrest := ih (step_sound hr m) (h.step (step_timers hr m))
      have hout : (fun id => Timers.Tracked.outAfter out (w.expired? m) id ∨
          (w.step m).RanOut id rest) = fun id => out id ∨ w.RanOut id (m :: rest) := by
        funext id
        simp only [Timers.Tracked.outAfter, RanOut, or_assoc]
      rw [hout] at hrest
      exact hrest

lemma create_tracked (settings : Settings) (latency : Latency) (isDisabled : NodeId → Bool)
    {net : Network} (wall : Instant) (h : net.Idle) :
    (create settings latency isDisabled net wall).timers.Tracked fun _ => False := by
  have hphase : ∀ id, (create settings latency isDisabled net wall).timers.phase id = none := by
    intro id
    have hnone : net.rounds.get? id = none := h.rounds id
    simp [timers, Shared.timers, create, Network.phase?, hnone]
  refine ⟨fun id => ?_, fun id hid => ?_, fun id hid => ?_, List.nodup_nil, fun id hid => hid.elim⟩
  · simp [hphase]
    simp [timers, Shared.timers, create]
  · simp [hphase] at hid
  · simp [timers, Shared.timers, create, Timers.timed] at hid

/-- Rounds are retired as they should be. -/
structure Retired (w : World) : Prop where
  /-- Every round in precomputing or realtime is tracked. -/
  live : ∀ id r, w.shared.net.rounds.get? id = some r → r.IsLive → id ∈ w.shared.tracker
  /-- A round that is tracked at its end still has its realtime watcher. -/
  finished : ∀ id r, w.shared.net.rounds.get? id = some r → r.phase.isTerminal = true →
    id ∈ w.shared.tracker → ∃ x ∈ w.shared.watchers, x.round = id ∧ x.phase = .realtime
  /-- A drained loop has stopped if all rounds are at their end, no watcher of realtime is left, nothing
  is in flight, and no message is on its way. -/
  stopped : w.loop.runState = .draining →
    (∀ id r, w.shared.net.rounds.get? id = some r → r.phase.isTerminal = true) →
    (∀ x ∈ w.shared.watchers, x.phase ≠ .realtime) → w.loop.inFlight.isEmpty = true →
    w.updates.messages = [] → w.events.messages = [] → w.requests.messages = [] →
    w.isRunning = false

lemma phase_timers_eq_some {id : RoundId} {p : Phase} :
    w.timers.phase id = some p ↔ ∃ r, w.shared.net.rounds.get? id = some r ∧ r.phase = p :=
  Option.map_eq_some_iff

/-- Rounds are retired as they should be if none that is tracked at its end has run out of time. -/
lemma retired_of_tracked {out : RoundId → Prop} (h : w.timers.Tracked out) (hw : w.Wakeful)
    (hout : ∀ id, w.timers.phase id = some .completed → ¬ out id) : w.Retired := by
  have hfinished : ∀ id r, w.shared.net.rounds.get? id = some r → r.phase.isTerminal = true →
      id ∈ w.shared.tracker → id ∈ w.timers.timed := by
    intro id r hround hterminal htracked
    have hphase : w.timers.phase id = some r.phase := phase_timers_eq_some.2 ⟨r, hround, rfl⟩
    rcases (h.mem_iff id).1 htracked with hp | hp | ⟨hp, htimed | hran⟩
    · rw [Option.some.inj (hphase.symm.trans hp)] at hterminal
      cases hterminal
    · rw [Option.some.inj (hphase.symm.trans hp)] at hterminal
      cases hterminal
    · exact htimed
    · exact absurd hran (hout id hp)
  refine ⟨fun id r hround hlive => ?_, fun id r hround hterminal htracked => ?_, ?_⟩
  · refine (h.mem_iff id).2 ?_
    rcases hlive with hp | hp
    · exact Or.inl (phase_timers_eq_some.2 ⟨r, hround, hp⟩)
    · exact Or.inr (Or.inl (phase_timers_eq_some.2 ⟨r, hround, hp⟩))
  · exact Timers.mem_timed.1 (hfinished id r hround hterminal htracked)
  · intro hdraining hall hunwatched hflight _ hevents _
    -- nothing is tracked any more, and then the loop would have an event to take
    have htracker : w.shared.tracker = [] := by
      refine List.eq_nil_iff_forall_not_mem.2 fun id htracked => ?_
      have hround : ∃ r, w.shared.net.rounds.get? id = some r := by
        rcases (h.mem_iff id).1 htracked with hp | hp | ⟨hp, -⟩ <;>
          exact (phase_timers_eq_some.1 hp).imp fun _ => And.left
      obtain ⟨r, hr⟩ := hround
      have htimed := hfinished id r hr (hall id r hr) htracked
      obtain ⟨x, hx, -, hphase⟩ := Timers.mem_timed.1 htimed
      exact hunwatched x hx hphase
    have hquiet : w.isQuiescent = true := by simp [isQuiescent, htracker, hflight]
    by_contra hrunning
    have hrun : w.handsOut = true := handsOut_of_isRunning (by simpa using hrunning)
    exact hw.event hrun hdraining hquiet hevents

/-- **Which rounds are tracked**, in every state that any run from an idle network reaches; and when this
is as it should be. -/
theorem retired_iff (settings : Settings) (latency : Latency) (isDisabled : NodeId → Bool)
    {net : Network} (wall : Instant) (hidle : net.Idle) (moves : List Move) :
    let w := create settings latency isDisabled net wall
    (∀ id, id ∈ (w.run moves).shared.tracker ↔
      ∃ r, (w.run moves).shared.net.rounds.get? id = some r ∧ (r.IsLive ∨ r.phase = .completed ∧
        ((∃ x ∈ (w.run moves).shared.watchers, x.round = id ∧ x.phase = .realtime) ∨
          w.RanOut id moves))) ∧
    ((w.run moves).Retired ↔ ∀ id r, (w.run moves).shared.net.rounds.get? id = some r →
      r.phase = .completed → ¬ w.RanOut id moves) := by
  intro w
  have htracked := run_tracked (create_sound settings latency isDisabled wall hidle)
    (create_tracked settings latency isDisabled wall hidle) moves
  simp only [false_or] at htracked
  have hmem : ∀ id, id ∈ (w.run moves).shared.tracker ↔
      ∃ r, (w.run moves).shared.net.rounds.get? id = some r ∧ (r.IsLive ∨ r.phase = .completed ∧
        ((∃ x ∈ (w.run moves).shared.watchers, x.round = id ∧ x.phase = .realtime) ∨
          w.RanOut id moves)) := by
    intro id
    refine (htracked.mem_iff id).trans ?_
    rw [Timers.mem_timed, phase_timers_eq_some, phase_timers_eq_some, phase_timers_eq_some]
    constructor
    · rintro (⟨r, hr, hp⟩ | ⟨r, hr, hp⟩ | ⟨⟨r, hr, hp⟩, hlate⟩)
      · exact ⟨r, hr, Or.inl (Or.inl hp)⟩
      · exact ⟨r, hr, Or.inl (Or.inr hp)⟩
      · exact ⟨r, hr, Or.inr ⟨hp, hlate⟩⟩
    · rintro ⟨r, hr, (hp | hp) | ⟨hp, hlate⟩⟩
      · exact Or.inl ⟨r, hr, hp⟩
      · exact Or.inr (Or.inl ⟨r, hr, hp⟩)
      · exact Or.inr (Or.inr ⟨⟨r, hr, hp⟩, hlate⟩)
  refine ⟨hmem, fun hretired id r hr hcompleted hran => ?_, fun hnone => ?_⟩
  · -- a completed round that has run out is tracked, and its watcher is gone
    have hin : id ∈ (w.run moves).shared.tracker :=
      (hmem id).2 ⟨r, hr, Or.inr ⟨hcompleted, Or.inr hran⟩⟩
    have hwatched := hretired.finished id r hr (by simp [hcompleted, Phase.isTerminal]) hin
    exact htracked.apart id hran (Timers.mem_timed.2 hwatched)
  · refine retired_of_tracked htracked (run_wakeful settings latency isDisabled net wall moves) ?_
    intro id hphase
    obtain ⟨r, hr, hcompleted⟩ := phase_timers_eq_some.1 hphase
    exact hnone id r hr hcompleted

/-- A round of one member, from its start to its end in good time. -/
def oneRound : List Move :=
  gather ["a"] ++ kickoff ++
    [.precomputing, .standby, .realtime, .completed].flatMap (reporting "a")

/-- No timer runs out in it. -/
theorem retired_iff_of_oneRound : (smallNetwork ["a"]).Idle ∧
    ((small ["a"]).run oneRound).Retired := by
  refine ⟨idle_smallNetwork _, (retired_iff _ _ _ _ (idle_smallNetwork _) oneRound).2.2 ?_⟩
  intro id r _ _
  simp [oneRound, gather, kickoff, reporting, RanOut, expired?]

/-! ## A round that completes too late -/

/-- The only member of a round is in realtime. -/
def underway : List Move :=
  gather ["a"] ++ kickoff ++ reporting "a" .precomputing ++ reporting "a" .standby ++
    [.leave ⟨⟨1⟩, .precomputation, 60000⟩] ++ reporting "a" .realtime

/-- The loop hears of the timer of realtime, and then it is asked to shut down. -/
def shutting : List Move :=
  [.iterate .events fun _ => .still, .request (.shutdown 1), .iterate .requests fun _ => .still]

/-- The timer of realtime runs out, and before the loop hears of that the only member completes the
round. -/
def overdue : List Move :=
  underway ++ [.poll 0 "a" .completed, .pass 15000, .expire ⟨⟨1⟩, .realtime, 15000⟩,
    .iterate .updates fun _ => .still] ++ shutting

/-- The only member completes the round, and before its watcher sees that the timer of realtime runs out. -/
def overtaken : List Move :=
  underway ++ reporting "a" .completed ++ [.pass 15000, .expire ⟨⟨1⟩, .realtime, 15000⟩] ++ shutting

/-- Nobody is left to stop tracking the one round, and the drained loop goes on running. -/
structure LeftOver (w : World) : Prop where
  phase : w.shared.net.phase? ⟨1⟩ = some .completed
  tracker : w.shared.tracker = [⟨1⟩]
  watchers : w.shared.watchers = []
  runState : w.loop.runState = .draining
  isRunning : w.isRunning = true

/-- A round that is tracked at its end needs a watcher. -/
lemma LeftOver.not_retired (h : w.LeftOver) : ¬ w.Retired := by
  intro hretired
  obtain ⟨r, hr, hphase⟩ := Option.map_eq_some_iff.1 h.phase
  obtain ⟨x, hx, -⟩ :=
    hretired.finished ⟨1⟩ r hr (by simp [hphase, Phase.isTerminal]) (by simp [h.tracker])
  simp [h.watchers] at hx

/-- **The round is tracked for ever**, in either order: it is completed and nobody watches it any more, and
the drained loop goes on running. -/
theorem not_retired_of_overdue :
    (¬ ((small ["a"]).run overdue).Retired ∧ ((small ["a"]).run overdue).LeftOver) ∧
      ¬ ((small ["a"]).run overtaken).Retired ∧ ((small ["a"]).run overtaken).LeftOver := by
  have hoverdue : ((small ["a"]).run overdue).LeftOver := by
    constructor <;> decide +kernel
  have hovertaken : ((small ["a"]).run overtaken).LeftOver := by
    constructor <;> decide +kernel
  exact ⟨⟨hoverdue.not_retired, hoverdue⟩, hovertaken.not_retired, hovertaken⟩

end World

end MixRounds.Live
