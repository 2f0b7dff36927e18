import Mathlib.Data.List.Induction
import MixRounds.Proofs.Live.Deadlines
import MixRounds.Proofs.Live.Failure

/-!
# Timeouts are exact

The timer of a phase runs out in one place and the loop decides in another, when the round may have moved on,
or be at its end.  What ties the two together is the time at which the round entered the phase
(`World.SetFor`): a timer is due as long after it as the settings say, and this goes on to hold when it has
run out and the loop is still to hear of it.  No timer is overdue, so it runs out when it is due and not
later; but its round may have left the phase before that.

**`World.punctual_of_run`** says what follows.  A round that failed by a timeout had stayed in the phase for
the whole of its time.  A timer of precomputing that comes too late does nothing, whatever state it meets.
And a round has at most one timer of each phase.
-/

namespace MixRounds.Live.World

variable {w : World} {moves : List Move} {id : RoundId} {p : TimedPhase}

/-! ## How long a round has been in its phase -/

/-- After the moves the round is in the phase that is timed, and has been in it all the time since it entered
it, when the clock showed `since`. -/
inductive Stays (w : World) (id : RoundId) (p : TimedPhase) : List Move → Nat → Prop
  | enters {moves : List Move} {m : Move} (hbefore : (w.run moves).shared.net.phase? id ≠ some p.watched)
      (hafter : (w.run (moves ++ [m])).shared.net.phase? id = some p.watched) :
      Stays w id p (moves ++ [m]) (w.run moves).clock
  | stays {moves : List Move} {m : Move} {since : Nat} (h : Stays w id p moves since)
      (hafter : (w.run (moves ++ [m])).shared.net.phase? id = some p.watched) :
      Stays w id p (moves ++ [m]) since

/-- The timer ran out in one of the moves, and that was when it was due.  Where its round was then is not
said. -/
def Fired (w : World) (moves : List Move) (x : Watcher) : Prop :=
  ∃ before after, moves = before ++ .expire x :: after ∧
    (w.run before).expired? (.expire x) = some x ∧ (w.run before).clock = x.deadline

lemma Fired.append {x : Watcher} (h : w.Fired moves x) (m : Move) : w.Fired (moves ++ [m]) x := by
  obtain ⟨before, after, rfl, hexpired, hclock⟩ := h
  exact ⟨before, after ++ [m], by simp, hexpired, hclock⟩

/-- What was due when it ran out was due before now. -/
lemma Fired.deadline_le {x : Watcher} (h : w.Fired moves x) : x.deadline ≤ (w.run moves).clock := by
  obtain ⟨before, after, rfl, -, hclock⟩ := h
  rw [run_append, ← hclock]
  exact (clocks_run (w.run before) _).1

/-! ## Timers and stays -/

/-- The timer was set when its round entered the phase: if the round is still there, it has stayed, and the
timer is due when its time there is over. -/
structure SetFor (w : World) (moves : List Move) (x : Watcher) : Prop where
  reached : (w.run moves).timers.Reached x.round x.phase
  stays : (w.run moves).shared.net.phase? x.round = some x.phase.watched →
    ∃ since, w.Stays x.round x.phase moves since ∧ x.deadline = since + w.settings.timeoutOf x.phase

/-- **What a timer is set for does not change**, as long as the round stays. -/
lemma SetFor.append {x : Watcher} (h : w.SetFor moves x) (hr : (w.run moves).roster.Sound) (m : Move) :
    w.SetFor (moves ++ [m]) x := by
  have hstep := step_timers hr m
  refine ⟨?_, fun hthere => ?_⟩
  · rw [run_snoc]
    exact h.reached.step hstep
  · have hwas : (w.run moves).shared.net.phase? x.round = some x.phase.watched := by
      refine h.reached.phase_of_step hstep ?_
      rwa [run_snoc] at hthere
    obtain ⟨since, hstays, hdeadline⟩ := h.stays hwas
    exact ⟨since, .stays hstays hthere, hdeadline⟩

/-- What is known after a run of the timers that are set, and of those of which the loop is still to hear. -/
structure Timed (w : World) (moves : List Move) : Prop where
  regular : (w.run moves).Regular
  briefed : (w.run moves).Briefed
  due : ∀ x ∈ (w.run moves).shared.watchers, (w.run moves).clock ≤ x.deadline
  set : ∀ x ∈ (w.run moves).shared.watchers, w.SetFor moves x
  fired : ∀ id p, .timedOut id p ∈ (w.run moves).events.messages →
    ∃ x, x.round = id ∧ x.phase = p ∧ w.SetFor moves x ∧ w.Fired moves x

/-- Time does not pass beyond a timer that is due. -/
lemma clock_of_step (w : World) (m : Move) : (w.step m).clock = w.clock ∨
    (w.step m).shared.watchers = w.shared.watchers ∧
      ∀ x ∈ w.shared.watchers, (w.step m).clock ≤ x.deadline := by
  cases htime : m.isTime with
  | false => exact Or.inl (congrArg Conditions.clock (conditions_of_step htime))
  | true =>
      cases m with
      | pass ms =>
          dsimp only [step, pass]
          split
          · rename_i hall
            refine Or.inr ⟨rfl, fun x hx => ?_⟩
            have hdue := List.all_eq_true.1 hall x.deadline (by
              simp only [deadlines, List.mem_append, List.mem_map]
              exact Or.inl (Or.inl ⟨x, hx, rfl⟩))
            exact of_decide_eq_true hdue
          · exact Or.inl rfl
      | wallPass nanos => exact Or.inl rfl
      | _ => cases htime

namespace Timed

/-- **A timer is set** when its round enters the phase, or was set before. -/
lemma setFor (h : w.Timed moves) (m : Move) {x : Watcher}
    (hx : x ∈ (w.run (moves ++ [m])).shared.watchers) : w.SetFor (moves ++ [m]) x := by
  have hr := h.regular.roster
  by_cases hold : x ∈ (w.run moves).shared.watchers
  · exact (h.set x hold).append hr m
  · rw [run_snoc] at hx
    have hdeadline := (deadline_of_step hr h.briefed hx).resolve_left hold
    rw [settings_run] at hdeadline
    rcases (step_timers hr m).set_or_sublist with hsub | ⟨y, hset, hnew, hthere⟩
    · exact absurd (hsub.subset hx) hold
    · obtain rfl : x = y := by
        have hmem : x ∈ (w.run moves).shared.watchers ++ [y] :=
          (show ((w.run moves).step m).shared.watchers = _ from hset) ▸ hx
        exact List.mem_singleton.1 ((List.mem_append.1 hmem).resolve_left hold)
      rw [← run_snoc] at hthere
      exact ⟨.of_phase hthere, fun _ => ⟨_, .enters (fun hwas => hnew (.of_phase hwas)) hthere, hdeadline⟩⟩

/-- No timer becomes overdue. -/
lemma clock_le (h : w.Timed moves) (m : Move) {x : Watcher}
    (hx : x ∈ (w.run (moves ++ [m])).shared.watchers) : (w.run (moves ++ [m])).clock ≤ x.deadline := by
  rw [run_snoc] at hx ⊢
  rcases (w.run moves).clock_of_step m with hclock | ⟨hsame, hdue⟩
  · rw [hclock]
    rcases deadline_of_step h.regular.roster h.briefed hx with hold | hnew
    · exact h.due x hold
    · rw [hnew]
      exact Nat.le_add_right _ _
  · exact hdue x (hsame ▸ hx)

/-- **A timer that the loop is still to hear of** ran out when it was due. -/
lemma exists_fired (h : w.Timed moves) (m : Move)
    (hin : .timedOut id p ∈ (w.run (moves ++ [m])).events.messages) :
    ∃ x, x.round = id ∧ x.phase = p ∧ w.SetFor (moves ++ [m]) x ∧ w.Fired (moves ++ [m]) x := by
  have hr := h.regular.roster
  rw [run_snoc] at hin
  rcases timedOut_of_step hin with hold | ⟨x, hexpired, hphase, hround⟩
  · obtain ⟨x, hround, hphase, hset, hfired⟩ := h.fired id p hold
    exact ⟨x, hround, hphase, hset.append hr m, hfired.append m⟩
  · cases m with
    | expire y =>
        have hexp := hexpired
        rw [expired?] at hexp
        split at hexp
        · rename_i hy
          cases hexp
          obtain ⟨hmem, hdue⟩ := hy
          refine ⟨x, hround, hphase, (h.set x hmem).append hr _, moves, [], rfl, hexpired, ?_⟩
          exact Nat.le_antisymm (h.due x hmem) hdue
        · cases hexp
    | _ => cases hexpired

/-- **Every move keeps the timers exact.** -/
theorem step (h : w.Timed moves) (m : Move) : w.Timed (moves ++ [m]) where
  regular := by
    rw [run_snoc]
    exact h.regular.step m
  briefed := by
    rw [run_snoc]
    exact step_briefed h.briefed m
  due _ hx := h.clock_le m hx
  set _ hx := h.setFor m hx
  fired _ _ hin := h.exists_fired m hin

end Timed

lemma run_timed (h : w.Timed []) (moves : List Move) : w.Timed moves := by
  induction moves using List.reverseRecOn with
  | nil => exact h
  | append_singleton moves m ih => exact ih.step m

lemma create_timed (settings : Settings) (latency : Latency) (isDisabled : NodeId → Bool)
    {net : Network} (wall : Instant) (h : net.Idle) :
    (create settings latency isDisabled net wall).Timed [] where
  regular := create_regular settings latency isDisabled wall h
  briefed _ hp := by cases hp
  due _ hx := by cases hx
  set _ hx := by cases hx
  fired _ _ hin := by cases hin

/-! ## What the loop makes of a timer -/

/-- A move publishes at most one record, and that of what strikes a round in it. -/
lemma errors_of_step (h : w.Regular) (m : Move) : (w.step m).annals.errors = w.annals.errors ∨
    ∃ e, w.Struck m e ∧ (w.step m).annals.errors = w.annals.errors ++ [e] := by
  have hstep := step_annals h m
  generalize hstrike : w.strike? m = struck at hstep
  generalize (w.step m).annals = after at hstep ⊢
  cases hstep with
  | still | start | count | advance | again => exact Or.inl rfl
  | fail => exact Or.inr ⟨_, struck_iff.2 hstrike, rfl⟩

/-- **Every record was published in some move**, and something struck its round in it. -/
lemma exists_struck_of_mem_errors (h : w.Regular) (hempty : w.annals.errors = []) {e : RoundError}
    (he : e ∈ (w.run moves).annals.errors) : ∃ earlier m later, moves = earlier ++ m :: later ∧
      (w.run earlier).Struck m e ∧
      ((w.run earlier).step m).annals.errors = (w.run earlier).annals.errors ++ [e] := by
  induction moves using List.reverseRecOn with
  | nil =>
      rw [run_nil, hempty] at he
      cases he
  | append_singleton moves m ih =>
      have hbefore (hold : e ∈ (w.run moves).annals.errors) : ∃ earlier m' later,
          moves ++ [m] = earlier ++ m' :: later ∧ (w.run earlier).Struck m' e ∧
            ((w.run earlier).step m').annals.errors = (w.run earlier).annals.errors ++ [e] := by
        obtain ⟨earlier, m', later, rfl, hstruck, hpublished⟩ := ih hold
        exact ⟨earlier, m', later ++ [m], by simp, hstruck, hpublished⟩
      rw [run_snoc] at he
      rcases errors_of_step (h.run moves) m with hsame | ⟨e', hstruck, hpublished⟩
      · exact hbefore (hsame ▸ he)
      · rw [hpublished, List.mem_append, List.mem_singleton] at he
        rcases he with hold | rfl
        · exact hbefore hold
        · exact ⟨moves, m, [], rfl, hstruck, hpublished⟩

/-- What the loop hears was on its way, and it deals with it in the same move. -/
lemma step_of_heard {m : Move} {e : Event} (h : w.heard? m = some e) :
    e ∈ w.events.messages ∧ ∃ ch chance,
      w.step m = (({ w with events := ch } : World).processEvent e).settleTurn chance := by
  cases m with
  | iterate source chance =>
      cases source with
      | events =>
          rw [heard?] at h
          split at h
          · rename_i hrunning
            obtain ⟨⟨e', ch⟩, hreceive, rfl⟩ := Option.map_eq_some_iff.1 h
            refine ⟨?_, ch, chance, by simp [step, iterate, hrunning, take?, hreceive, process]⟩
            rw [Channel.messages_receive? hreceive]
            exact List.mem_cons_self
          · cases h
      | updates | requests => cases h
  | _ => cases h

/-- **The end of a turn** counts teams that were formed and that could not be, and nothing else. -/
lemma counters_settleTurn (w : World) (chance : Nat → Shuffle) :
    ∃ assembled failures, (w.settleTurn chance).loop.counters =
      { w.loop.counters with roundsAssembled := assembled, assemblyFailures := failures } := by
  refine settleTurn_induction (P := fun w' => ∃ assembled failures, w'.loop.counters =
      { w.loop.counters with roundsAssembled := assembled, assemblyFailures := failures })
    (fun w' chance h => ?_) (fun w' h => ?_) (fun w' result h => ?_) ⟨_, _, rfl⟩ chance
  · obtain ⟨assembled, failures, hcounters⟩ := h
    rw [assembleOne]
    split
    · split <;> exact ⟨assembled, failures, hcounters⟩
    · dsimp only
      split
      · have hcounted : ({ w'.loop.counters with
            assemblyFailures := w'.loop.counters.assemblyFailures + 1 } : Counters)
            = { w.loop.counters with roundsAssembled := assembled, assemblyFailures := failures + 1 } := by
          rw [hcounters]
        rw [assemblyFailed]
        dsimp only
        split
        · exact ⟨assembled, failures + 1, hcounted⟩
        · split <;> exact ⟨assembled, failures + 1, hcounted⟩
      · exact ⟨assembled, failures, hcounters⟩
      · exact ⟨assembled + 1, failures, by simp [teamFormed, mapShared, hcounters]⟩
  · rw [loop_acknowledge]
    exact h
  · rw [loop_finish]
    exact h

/-- The move fails no round, and counts neither a failure nor a timeout. -/
structure Harmless (w : World) (m : Move) : Prop where
  annals : (w.step m).annals = w.annals
  failed : (w.step m).loop.counters.roundsFailed = w.loop.counters.roundsFailed
  timeouts : (w.step m).loop.counters.timeouts = w.loop.counters.timeouts

/-- That a timer runs out does nothing by itself, wherever its round is. -/
lemma harmless_expire (w : World) (x : Watcher) : w.Harmless (.expire x) := by
  have hloop : (w.step (.expire x)).loop = w.loop :=
    congrArg Exterior.loop (exterior_of_isWork (m := .expire x) rfl)
  refine ⟨?_, by rw [hloop], by rw [hloop]⟩
  dsimp only [step, expire]
  split <;> rfl

/-- **A timer of precomputing that comes too late** does nothing, in any state whatever. -/
lemma harmless_of_late {m : Move} (he : w.heard? m = some (.timedOut id .precomputation))
    (hleft : w.shared.net.phase? id ≠ some .precomputing) : w.Harmless m := by
  obtain ⟨-, ch, chance, hstep⟩ := step_of_heard he
  have hsame : ({ w with events := ch } : World).processEvent (.timedOut id .precomputation)
      = { w with events := ch } := by
    cases hround : w.shared.net.rounds.get? id with
    | none => simp [processEvent, processTimeout, hround]
    | some r =>
        have hphase : r.phase ≠ .precomputing := by simpa [Network.phase?, hround] using hleft
        exact processTimeout_of_left (w := { w with events := ch }) hround (Or.inr ⟨rfl, hphase⟩)
  rw [hsame] at hstep
  obtain ⟨assembled, failures, hcounters⟩ := counters_settleTurn { w with events := ch } chance
  rw [← hstep] at hcounters
  refine ⟨?_, by rw [hcounters], by rw [hcounters]⟩
  rw [hstep, annals_settleTurn]
  rfl

/-! ## Every run -/

/-- After the moves every record of a timeout is of a round that had stayed in the phase for the whole of its
time, and whose timer ran out at the end of it. -/
structure Punctual (w : World) (moves : List Move) : Prop where
  /-- When the record was published, the round had been in the phase for as long as the settings allow. -/
  timeouts : ∀ e ∈ (w.run moves).annals.errors, ∀ p, e.cause = .timeout p →
    ∃ earlier m later since, moves = earlier ++ m :: later ∧
      ((w.run earlier).step m).annals.errors = (w.run earlier).annals.errors ++ [e] ∧
      w.Stays e.round p earlier since ∧ since + w.settings.timeoutOf p ≤ (w.run earlier).clock ∧
      w.Fired earlier ⟨e.round, p, since + w.settings.timeoutOf p⟩
  /-- No two timers of the same phase of a round were set. -/
  once : ((w.timersSet moves).map fun x => (x.round, x.phase)).Nodup

/-- **Timeouts are exact**, in every run from a fresh network: no round fails by a timeout before its time is
over, nor does it have two timers of a phase.  And a timer of precomputing that runs out, or of which the loop
hears when the round is not in precomputing, does nothing, in any state whatever. -/
theorem punctual_of_run (settings : Settings) (latency : Latency) (isDisabled : NodeId → Bool)
    {net : Network} (wall : Instant) (hfresh : net.Fresh) (moves : List Move) :
    (create settings latency isDisabled net wall).Punctual moves ∧
      (∀ (w : World) (x : Watcher), w.Harmless (.expire x)) ∧
      ∀ (w : World) (m : Move) (id : RoundId), w.heard? m = some (.timedOut id .precomputation) →
        w.shared.net.phase? id ≠ some .precomputing → w.Harmless m := by
  refine ⟨⟨fun e he p hcause => ?_, ?_⟩, harmless_expire, fun w m id => harmless_of_late⟩
  · have hregular := create_regular settings latency isDisabled wall hfresh.idle
    have hempty : (create settings latency isDisabled net wall).annals.errors = [] := by
      simp [annals, Shared.annals, Network.annals, create, hfresh.log, UpdateLog.empty]
    obtain ⟨earlier, m, later, hmoves, hstruck, hpublished⟩ :=
      exists_struck_of_mem_errors hregular hempty he
    have htimed := run_timed (create_timed settings latency isDisabled wall hfresh.idle) earlier
    cases hstruck with
    | ban | error => cases hcause
    | timeout hheard hphase =>
        cases hcause
        obtain ⟨x, rfl, rfl, hset, hfired⟩ := htimed.fired _ _ (step_of_heard hheard).1
        obtain ⟨since, hstays, hdeadline⟩ := hset.stays hphase
        refine ⟨earlier, m, later, since, hmoves, hpublished, hstays, hdeadline ▸ hfired.deadline_le, ?_⟩
        rw [← hdeadline]
        exact hfired
  · exact (timersSet_spec (create_sound settings latency isDisabled wall hfresh.idle) moves).1

/-- The only member of a round starts and is not heard of again, and the time for precomputing runs out. -/
def stall : List Move :=
  gather ["a"] ++ kickoff ++
    [.pass 60000, .expire ⟨⟨1⟩, .precomputation, 60000⟩, .iterate .events fun _ => .still]

/-- The only member stands by when the time for precomputing has run out and the loop is still to hear of
that. -/
def tardy : List Move :=
  gather ["a"] ++ kickoff ++ reporting "a" .precomputing ++
    [.pass 60000, .expire ⟨⟨1⟩, .precomputation, 60000⟩] ++ reporting "a" .standby

/-- The only member stands by in time, and the round is in realtime when the time for precomputing is over. -/
def timely : List Move :=
  gather ["a"] ++ kickoff ++ reporting "a" .precomputing ++ [.pass 50000] ++ reporting "a" .standby ++
    [.pass 10000]

/-- The record of the failure comes after the minute that the settings give for precomputing; the timer of
which the loop hears too late does nothing; nor does the one that runs out when its round has left. -/
theorem punctual_of_stall :
    let w := small ["a"]
    let hears : Move := .iterate .events fun _ => .still
    let fires : Move := .expire ⟨⟨1⟩, .precomputation, 60000⟩
    (smallNetwork ["a"]).Fresh ∧
    (∃ earlier m later since, stall = earlier ++ m :: later ∧ w.Stays ⟨1⟩ .precomputation earlier since ∧
      since + 60000 ≤ (w.run earlier).clock ∧ w.Fired earlier ⟨⟨1⟩, .precomputation, since + 60000⟩) ∧
    ((w.run tardy).heard? hears = some (.timedOut ⟨1⟩ .precomputation) ∧
      (w.run tardy).shared.net.phase? ⟨1⟩ = some .realtime ∧ (w.run tardy).Harmless hears) ∧
    (w.run timely).expired? fires = some ⟨⟨1⟩, .precomputation, 60000⟩ ∧
      (w.run timely).shared.net.phase? ⟨1⟩ = some .realtime ∧ (w.run timely).Harmless fires ∧
      ((w.run timely).step fires).heard? hears = some (.timedOut ⟨1⟩ .precomputation) ∧
      ((w.run timely).step fires).Harmless hears := by
  intro w hears fires
  obtain ⟨⟨htimeouts, -⟩, hfires, hlate⟩ := punctual_of_run _ _ _ _ (fresh_smallNetwork ["a"]) stall
  have hrecord : (w.run stall).annals.errors.map (fun e => (e.round, e.cause))
      = [(⟨1⟩, .timeout .precomputation)] := by decide +kernel
  have hheard : (w.run tardy).heard? hears = some (.timedOut ⟨1⟩ .precomputation) := by decide +kernel
  have hphase : (w.run tardy).shared.net.phase? ⟨1⟩ = some .realtime := by decide +kernel
  have hexpired : (w.run timely).expired? fires = some ⟨⟨1⟩, .precomputation, 60000⟩ := by decide +kernel
  have hleft : (w.run timely).shared.net.phase? ⟨1⟩ = some .realtime := by decide +kernel
  have hheard' : ((w.run timely).step fires).heard? hears = some (.timedOut ⟨1⟩ .precomputation) := by
    decide +kernel
  have hleft' : ((w.run timely).step fires).shared.net.phase? ⟨1⟩ = some .realtime := by decide +kernel
  refine ⟨fresh_smallNetwork _, ?_, ⟨hheard, hphase, hlate _ _ _ hheard (by simp [hphase])⟩,
    hexpired, hleft, hfires _ _, hheard', hlate _ _ _ hheard' (by simp [hleft'])⟩
  obtain ⟨e, he, heq⟩ : ∃ e ∈ (w.run stall).annals.errors,
      (e.round, e.cause) = (⟨1⟩, .timeout .precomputation) := by
    rw [← List.mem_map, hrecord]
    exact List.mem_singleton_self _
  obtain ⟨hround, hcause⟩ := Prod.mk.inj heq
  obtain ⟨earlier, m, later, since, hmoves, -, hstays, hclock, hfired⟩ := htimeouts e he _ hcause
  rw [hround] at hstays hfired
  exact ⟨earlier, m, later, since, hmoves, hstays, hclock, hfired⟩

end MixRounds.Live.World
