import MixRounds.Proofs.Live.Books
import MixRounds.Proofs.Live.Strikes
import MixRounds.Proofs.Live.Winding

/-!
# The counters and what they count

Every counter of the loop is raised in one place and counts something that happens in another, often in
another task.  `World.Audited` is what ties them together.

* A team is counted when it is formed, and once more when the starter's answer is heard; in between it is in
  flight.
* A round is counted completed or failed by the message that makes it so.  A round that fails is on record,
  and a timer is counted only if its round fails by it.
* A start is counted when the loop hears of it, and the round is there before that.  As long as the loop goes
  on, what it has not heard of is on its way.

**`World.audited_step`** says that every move keeps this up, and **`World.balances_of_run`** that the
counters balance in every state that a run reaches.
-/

namespace MixRounds.Live

/-- No round is put back to the phase in which it is allocated. -/
lemma Timers.Step.phase_ne_pending {t t' : Timers} {x : Option Watcher} (hstep : t.Step x t')
    (h : ∀ id, t.phase id ≠ some .pending) (id : RoundId) : t'.phase id ≠ some .pending := by
  have henter : ∀ (j : RoundId) (p : Phase), p ≠ .pending → (t.enter j p).phase id ≠ some .pending := by
    intro j p hp
    dsimp only [enter]
    split
    · simpa using hp
    · exact h id
  cases hstep with
  | still | quit hx hwatched | retire hx hwatched hphase hleft | expire hx => exact h id
  | start hnew => exact henter _ .precomputing (by decide)
  | realtime hphase => exact henter _ .realtime (by decide)
  | complete hphase => exact henter _ .completed (by decide)
  | fail hphase hlive => exact henter _ .failed (by decide)

namespace Books

/-- The counters of rounds show what is in the books, and a failure is on record. -/
structure Matches (b : Books) (c : Counters) : Prop where
  completed : c.roundsCompleted = b.completed
  failed : c.roundsFailed = b.failed
  records : b.causes.length = b.failed
  timeouts : c.timeouts = b.causes.countP Cause.isTimeout

variable {b b' : Books} {c c' : Counters}

lemma Matches.of_eq (hbooks : b' = b) (h : b.Matches c) : b'.Matches c := hbooks ▸ h

lemma Matches.congr (h : b.Matches c) (hcompleted : c'.roundsCompleted = c.roundsCompleted)
    (hfailed : c'.roundsFailed = c.roundsFailed) (htimeouts : c'.timeouts = c.timeouts) : b.Matches c' :=
  ⟨hcompleted.trans h.completed, hfailed.trans h.failed, h.records, htimeouts.trans h.timeouts⟩

lemma Matches.complete (h : b.Matches c) (hcompleted : c'.roundsCompleted = c.roundsCompleted + 1)
    (hfailed : c'.roundsFailed = c.roundsFailed) (htimeouts : c'.timeouts = c.timeouts) :
    b.complete.Matches c' where
  completed := hcompleted.trans (congrArg (· + 1) h.completed)
  failed := hfailed.trans h.failed
  records := h.records
  timeouts := htimeouts.trans h.timeouts

lemma Matches.fail (h : b.Matches c) {cause : Cause} (hcompleted : c'.roundsCompleted = c.roundsCompleted)
    (hfailed : c'.roundsFailed = c.roundsFailed + 1)
    (htimeouts : c'.timeouts = c.timeouts + cause.isTimeout.toNat) : (b.fail cause).Matches c' where
  completed := hcompleted.trans h.completed
  failed := hfailed.trans (congrArg (· + 1) h.failed)
  records := by simp [Books.fail, h.records]
  timeouts := by
    rw [htimeouts, h.timeouts, Books.fail, List.countP_append, List.countP_singleton]
    cases cause.isTimeout <;> rfl

end Books

namespace World

variable {w : World}

/-- The counters fit the books, and the books fit what is on its way. -/
structure Audited (w : World) : Prop where
  assembled : w.loop.counters.roundsAssembled
    = w.loop.counters.roundsStarted + w.loop.counters.startFailures + w.loop.inFlight.size
  books : w.shared.books.Matches w.loop.counters
  /-- As long as the loop goes on, it has heard of every round, or will. -/
  heard : w.handsOut = true →
    w.loop.counters.roundsStarted + w.roster.started.length = w.shared.books.rounds

/-- What touches neither counters nor books keeps them in order. -/
lemma Audited.congr (h : w.Audited) {w' : World} (hcounters : w'.loop.counters = w.loop.counters)
    (hflight : w'.loop.inFlight = w.loop.inFlight) (hbooks : w'.shared.books = w.shared.books)
    (hheard : w'.handsOut = true → w.handsOut = true ∧ w'.roster.started = w.roster.started) :
    w'.Audited where
  assembled := by
    rw [hcounters, hflight]
    exact h.assembled
  books := by
    rw [hcounters]
    exact .of_eq hbooks h.books
  heard hgoes := by
    obtain ⟨hwent, hstarted⟩ := hheard hgoes
    rw [hcounters, hbooks, hstarted]
    exact h.heard hwent

/-! ## A message -/

/-- **A notification** is counted as it is entered. -/
lemma audited_processUpdate (hr : w.roster.Sound) (h : w.Audited) (n : Notification) :
    (w.processUpdate n).Audited := by
  have htaken : (w.takenOver n).roster.Sound := (roster_takenOver w n).symm ▸ hr
  obtain ⟨cause, htimeout, hbooks⟩ : ∃ cause : Cause, cause.isTimeout = false ∧
      ((w.takenOver n).shared.apply w.settings w.wall w.clock w.loop.reserved n).1.books
        = w.shared.books.enter cause
          ((w.takenOver n).shared.apply w.settings w.wall w.clock w.loop.reserved n).2 :=
    Shared.books_apply fun id hid => exists_round htaken hid
  rw [processUpdate]
  dsimp only
  split
  all_goals
    rename_i hresult
    rw [show ((w.takenOver n).shared.apply w.settings w.wall w.clock w.loop.reserved n).2 = _ from
      hresult] at hbooks
  · exact ⟨h.assembled, .of_eq hbooks (h.books.complete rfl rfl rfl),
      fun hgoes => (h.heard hgoes).trans (congrArg Books.rounds hbooks).symm⟩
  · have htimeouts : w.loop.counters.timeouts = w.loop.counters.timeouts + cause.isTimeout.toNat := by
      simp [htimeout]
    exact ⟨h.assembled, .of_eq hbooks (h.books.fail rfl rfl htimeouts),
      fun hgoes => (h.heard hgoes).trans (congrArg Books.rounds hbooks).symm⟩
  · rename_i effect hcompleted hkilled
    have hsame : w.shared.books.enter cause (.ok effect) = w.shared.books := by
      cases effect with
      | nothing | waiting => rfl
      | killed => exact absurd rfl hkilled
      | advanced p => cases p <;> first | rfl | exact absurd rfl hcompleted
    rw [hsame] at hbooks
    exact ⟨h.assembled, .of_eq hbooks (h.books.congr rfl rfl rfl),
      fun hgoes => (h.heard hgoes).trans (congrArg Books.rounds hbooks).symm⟩
  · exact ⟨h.assembled, .of_eq hbooks (h.books.congr rfl rfl rfl),
      fun hgoes => (h.heard hgoes).trans (congrArg Books.rounds hbooks).symm⟩

/-- **A timer** is counted if the round fails by it. -/
lemma audited_processTimeout (h : w.Audited) (id : RoundId) (p : TimedPhase) :
    (w.processTimeout id p).Audited := by
  rw [processTimeout]
  split
  · exact h
  · rename_i r hround
    split
    · exact h
    · rename_i hlive
      split
      · exact h
      · have hbooks := w.shared.books_kill w.wall id none (.timeout (.classify r.phase))
        have hkilled : (w.shared.kill w.wall id none (.timeout (.classify r.phase))).2 = true := by
          simpa [Shared.kill_snd, hround] using hlive
        rw [hkilled, if_pos rfl] at hbooks
        dsimp only
        split
        all_goals
          rename_i s heq
          rw [show w.shared.kill w.wall id none (.timeout (.classify r.phase)) = _ from heq] at hbooks hkilled
        · exact ⟨h.assembled, .of_eq hbooks (h.books.fail rfl rfl rfl),
            fun hgoes => (h.heard hgoes).trans (congrArg Books.rounds hbooks).symm⟩
        · cases hkilled

lemma unreserve_eq {id : RoundId} {members : List NodeId}
    (h : w.loop.inFlight.get? id = some members) : w.unreserve id = { w with loop := { w.loop with
      inFlight := w.loop.inFlight.erase id
      reserved := w.loop.reserved.filter fun node => node ∉ members } } := by
  simp only [unreserve, h]

/-- **An answer of the starter** is counted, and its team is in flight no more. -/
lemma audited_processEvent (hr : w.roster.Sound) (h : w.Audited) {e : Event} {ch : Channel Worker Event}
    (he : w.events.receive? = some (e, ch)) :
    (({ w with events := ch } : World).processEvent e).Audited := by
  have hmessages : w.events.messages = e :: ch.messages := Channel.messages_receive? he
  have hstarted : w.roster.started = (e :: ch.messages).filterMap Event.started? := by
    rw [← hmessages]
    rfl
  have hassembled := h.assembled
  have hheard := h.heard
  rw [hstarted] at hheard
  cases e with
  | timedOut id p =>
      exact audited_processTimeout (w := { w with events := ch }) ⟨hassembled, h.books, hheard⟩ id p
  | finished id => exact ⟨hassembled, h.books, hheard⟩
  | started id =>
      have hmem : id ∈ w.roster.started := by simp [hstarted, Event.started?]
      obtain ⟨members, hflight⟩ := hr.started_flight id hmem
      have hsize := Table.size_erase hflight
      rw [processEvent, unreserve_eq (w := { w with events := ch }) hflight]
      refine ⟨?_, h.books.congr rfl rfl rfl, fun hgoes => ?_⟩
      · dsimp only [count]
        omega
      · have hcons : (Event.started id :: ch.messages).filterMap Event.started?
            = id :: ch.messages.filterMap Event.started? := rfl
        have hrounds := hheard hgoes
        rw [hcons, List.length_cons] at hrounds
        refine Eq.trans ?_ hrounds
        dsimp only [count, roster]
        omega
  | startFailed p fault =>
      have hmem : p ∈ w.roster.refused := by
        have hrefused : w.roster.refused = (Event.startFailed p fault :: ch.messages).filterMap
            Event.refused? := by
          rw [← hmessages]
          rfl
        simp [hrefused, Event.refused?]
      have hsize := Table.size_erase (hr.refused_flight p hmem)
      rw [processEvent, unreserve_eq (w := { w with events := ch }) (hr.refused_flight p hmem)]
      refine ⟨?_, h.books.congr rfl rfl rfl, hheard⟩
      dsimp only [count, mapShared]
      omega

/-- **Dealing with a message** keeps the counters in order. -/
lemma audited_process (hr : w.roster.Sound) (h : w.Audited) {source : Source} {message : Message}
    {w' : World} (htake : w.take? source = some (message, w')) : (w'.process message).Audited := by
  cases taken_of_take? htake with
  | @update n ch =>
      exact audited_processUpdate (w := { w with updates := ch }) hr ⟨h.assembled, h.books, h.heard⟩ n
  | event hreceive => exact audited_processEvent hr h hreceive
  | @request r => cases r <;> exact ⟨h.assembled, h.books, h.heard⟩

/-! ## The end of a turn -/

/-- **A team that is formed** is counted, and is in flight. -/
lemma audited_assembleOne (hr : w.roster.Sound) (hrun : w.handsOut = true) (h : w.Audited)
    (chance : Shuffle) : (w.assembleOne chance).1.Audited := by
  rw [assembleOne]
  split
  · split <;> exact h
  · rename_i picked pool hpick
    obtain ⟨hnet, hspec⟩ := formTeam_spec (w.mapShared fun s => { s with pool := pool }) picked
    dsimp only
    split <;> rename_i net hform <;> rw [hform] at hnet hspec <;> dsimp only at hnet <;> subst hnet
    · rw [assemblyFailed]
      dsimp only
      split
      · exact ⟨h.assembled, h.books.congr rfl rfl rfl, h.heard⟩
      · split <;> exact ⟨h.assembled, h.books.congr rfl rfl rfl, h.heard⟩
    · exact ⟨h.assembled, h.books.congr rfl rfl rfl, h.heard⟩
    · rename_i p
      rcases hspec with ⟨fault, heq, -⟩ | ⟨-, hp⟩
      · cases heq
      · -- the number is new, and so is the team in flight
        have hnew : w.loop.inFlight.get? p.id = none := (hr.next_unused hrun (hp p rfl).2).1
        have hsize := Table.size_insert hnew p.topology
        have hassembled := h.assembled
        refine ⟨?_, h.books.congr rfl rfl rfl, h.heard⟩
        dsimp only [teamFormed, mapShared]
        omega

lemma audited_assembleFrom (fuel : Nat) (chance : Nat → Shuffle) (hr : w.roster.Sound)
    (hrun : w.handsOut = true) (h : w.Audited) : (assembleFrom fuel chance w).1.Audited := by
  induction fuel generalizing w chance with
  | zero => exact h
  | succ fuel ih =>
      obtain ⟨hrun', -, hsound⟩ := assembleOne_sound hr hrun (chance 0)
      have hafter := audited_assembleOne hr hrun h (chance 0)
      rw [assembleFrom]
      split <;> rename_i heq <;> rw [heq] at hrun' hsound hafter
      · exact ih _ (hsound (by simp)) hrun' hafter
      · exact hafter
      · exact hafter

lemma books_closeQueues (w : World) : w.closeQueues.shared.books = w.shared.books :=
  read_closeQueues (fun w => w.shared.books) (fun _ _ => rfl) (fun _ _ => rfl) (fun _ => rfl) w

lemma audited_finish (h : w.Audited) (result : Except Setback Unit) : (w.finish result).Audited := by
  have hloop := loop_finish w result
  refine h.congr (by rw [hloop]) (by rw [hloop]) (books_closeQueues w) fun hgoes => ?_
  simp [handsOut_finish] at hgoes

lemma audited_settleTurn (hr : w.roster.Sound) (hrun : w.handsOut = true) (h : w.Audited)
    (chance : Nat → Shuffle) : (w.settleTurn chance).Audited := by
  have hassembled : (w.assemble chance).1.Audited := audited_assembleFrom _ chance hr hrun h
  rcases w.settleTurn_cases chance with ⟨w', hw', heq⟩ | ⟨setback, heq⟩
  · have hready : w'.Audited := by
      rcases hw' with rfl | ⟨rfl, -⟩
      · exact h
      · exact hassembled
    rcases heq with heq | heq <;> rw [heq]
    · exact hready
    · refine audited_finish ?_ _
      have hloop := loop_acknowledge w'
      refine hready.congr (by rw [hloop]) (by rw [hloop]) (by rw [shared_acknowledge]) fun hgoes => ?_
      rw [roster_acknowledge]
      refine ⟨?_, rfl⟩
      rwa [handsOut, hloop] at hgoes
  · rw [heq]
    exact audited_finish hassembled _

/-! ## Between two turns -/

lemma books_congr {w' : World} (hrounds : w'.shared.net.rounds = w.shared.net.rounds)
    (hannals : w'.annals = w.annals) : w'.shared.books = w.shared.books := by
  have hcauses : ∀ w : World, w.shared.books.causes = w.annals.errors.map RoundError.cause := by
    intro w
    simp [Shared.books, Network.books, annals, Shared.annals, Network.annals]
  have hnet : ∀ w : World, w.shared.books = ⟨w.shared.net.rounds.size,
      w.shared.net.rounds.count fun r => r.phase == .completed,
      w.shared.net.rounds.count fun r => r.phase == .failed,
      w.annals.errors.map RoundError.cause⟩ := fun w => Books.ext rfl rfl rfl (hcauses w)
  rw [hnet, hnet, hrounds, hannals]

/-- Between two turns rounds are started, and nothing else happens to them. -/
lemma books_of_step {m : Move} (hnone : w.taken? m = none) (hattempt : m ≠ .attempt) :
    (w.step m).shared.books = w.shared.books := by
  cases hprivate : m.isPrivate with
  | true => rw [shared_of_isPrivate hprivate]
  | false =>
      have hcalled : ∀ {w' : World}, w'.interior = w.interior → w'.annals = w.annals →
          w'.shared.books = w.shared.books := fun hinterior hannals =>
        books_congr (congrArg Interior.rounds hinterior) hannals
      cases m with
      | poll call v a => exact hcalled (interior_poll w call v a) (annals_poll w call v a)
      | ban call v => exact hcalled (interior_ban w call v) (annals_ban w call v)
      | resumeBan call => exact hcalled (interior_resumeBan w call) (annals_resumeBan w call)
      | iterate source chance => exact congrArg (fun w => w.shared.books) (iterate_of_taken_eq_none hnone)
      | attempt => exact absurd rfl hattempt
      | leave x =>
          dsimp only [step, leave]
          split
          · split <;> rfl
          · rfl
      | expire x =>
          dsimp only [step, expire]
          split <;> rfl
      | sweep =>
          dsimp only [step, sweep]
          split
          · rfl
          · split <;> rfl
      | drop =>
          dsimp only [step, drop]
          split
          · exact books_closeQueues w
          · exact books_closeQueues w
          · rfl
      | _ => cases hprivate

/-- Between two turns nobody but the starter says that a round was started. -/
lemma started_of_step {m : Move} (hnone : w.taken? m = none) (hattempt : m ≠ .attempt)
    (hgoes : (w.step m).handsOut = true) : (w.step m).roster.started = w.roster.started := by
  have hevents : ∀ {w' : World}, w'.events.messages = w.events.messages →
      w'.roster.started = w.roster.started := fun heq => congrArg (List.filterMap Event.started?) heq
  have htold : ∀ {x : Watcher} {e : Event}, e.started? = none →
      (w.events.send (.watcher x.round x.phase) e).2.messages.filterMap Event.started?
        = w.roster.started := by
    intro x e he
    rw [Channel.messages_send]
    split
    · rfl
    · simp [roster, he]
  rcases m.call_or_work with hcall | hwork | rfl | rfl | rfl | ⟨source, chance, rfl⟩
  · exact hevents (congrArg (fun i => i.events.messages) (interior_of_isCall hcall))
  · cases m with
    | attempt => exact absurd rfl hattempt
    | leave x =>
        dsimp only [step, leave]
        split
        · split
          · rfl
          · exact htold rfl
        · rfl
    | expire x =>
        dsimp only [step, expire]
        split
        · exact htold rfl
        · rfl
    | admitEvent =>
        dsimp only [step, admitEvent]
        split
        · rfl
        · exact hevents (Channel.messages_admit? ‹_›)
        · exact hevents (Channel.messages_admit? ‹_›)
    | takeProto =>
        dsimp only [step, takeProto]
        split
        · rfl
        · split <;> rfl
        · rfl
    | sweep =>
        dsimp only [step, sweep]
        split
        · rfl
        · split <;> rfl
    | pass ms =>
        dsimp only [step, pass]
        split <;> rfl
    | wallPass nanos => rfl
    | _ => cases hwork
  · dsimp only [step, launch]
    split <;> rfl
  · dsimp only [step, conclude]
    split <;> rfl
  · cases hgoes
  · exact congrArg (fun w => w.roster.started) (iterate_of_taken_eq_none hnone)

/-- The loop hears of what the starter reports. -/
lemma started_report (hopen : w.events.closed = false) (s : Shared) (e : Event) :
    (({ w with shared := s } : World).report e).roster.started = w.roster.started ++ e.started?.toList := by
  rw [roster_report]
  simp only [hopen, Bool.false_eq_true, if_false]
  rfl

/-- **A round that is started** is there, and the loop will hear of it. -/
lemma audited_attempt (hr : w.roster.Sound) (hopen : w.handsOut = true → w.events.closed = false)
    (h : w.Audited) : w.attempt.Audited := by
  have hloop : ∀ (s : Shared) (e : Event), (({ w with shared := s } : World).report e).loop = w.loop :=
    fun s e => congrArg Exterior.loop (exterior_report _ e)
  have hgoes : ∀ (s : Shared) (e : Event), (({ w with shared := s } : World).report e).handsOut = true →
      w.handsOut = true := fun s e hgoes => by rwa [handsOut, hloop] at hgoes
  rcases attempt_cases hr with heq | ⟨p, -, ⟨v, -, heq⟩ | ⟨s, hstart, -, heq⟩⟩ <;> rw [heq]
  · exact h
  · refine h.congr (by rw [hloop]) (by rw [hloop]) (by rw [shared_report]; rfl) fun hafter => ?_
    have hbefore := hgoes _ _ hafter
    exact ⟨hbefore, (started_report (hopen hbefore) _ _).trans (List.append_nil _)⟩
  · have hbooks := Shared.books_start hstart
    refine ⟨?_, ?_, fun hafter => ?_⟩
    · rw [hloop]
      exact h.assembled
    · rw [hloop, shared_report, hbooks]
      exact ⟨h.books.completed, h.books.failed, h.books.records, h.books.timeouts⟩
    · have hbefore := hgoes _ _ hafter
      have hheard := h.heard hbefore
      rw [hloop, shared_report, hbooks, started_report (hopen hbefore), List.length_append]
      dsimp only [Event.started?, Option.toList_some, List.length_singleton]
      omega

/-! ## Every move -/

/-- **Every move keeps the counters in order.** -/
theorem audited_step (hr : w.roster.Sound) (hw : w.Wakeful) (h : w.Audited) (m : Move) :
    (w.step m).Audited := by
  cases htaken : w.taken? m with
  | some message =>
      obtain ⟨source, chance, w', hrunning, htake, hstep⟩ := step_of_taken htaken
      rw [hstep]
      refine audited_settleTurn (process_sound hr htake) ?_ (audited_process hr h htake) chance
      rw [handsOut, stage_process, loop_take? htake]
      exact handsOut_of_isRunning hrunning
  | none =>
      by_cases hattempt : m = .attempt
      · rw [hattempt]
        exact audited_attempt hr hw.is_open h
      · obtain ⟨stage, acks, hloop, -⟩ := loop_of_taken_eq_none htaken
        exact h.congr (by rw [hloop]) (by rw [hloop]) (books_of_step htaken hattempt) fun hgoes =>
          ⟨handsOut_of_step hgoes, started_of_step htaken hattempt hgoes⟩

/-- How many rounds are in a phase. -/
def roundsIn (w : World) (p : Phase) : Nat := w.shared.net.rounds.count fun r => r.phase == p

/-- The counters balance: what was counted is what there is. -/
structure Balances (w : World) : Prop where
  /-- Every team that was formed was started, or refused, or is in flight. -/
  assembled : w.metrics.counters.roundsAssembled = w.metrics.counters.roundsStarted
    + w.metrics.counters.startFailures + w.loop.inFlight.size
  completed : w.metrics.counters.roundsCompleted = w.roundsIn .completed
  failed : w.metrics.counters.roundsFailed = w.roundsIn .failed
  records : w.metrics.counters.roundsFailed = w.shared.net.log.errors.length
  timeouts : w.metrics.counters.timeouts
    = w.shared.net.log.errors.countP fun e => e.payload.cause.isTimeout
  /-- As long as the loop goes on, and no start is still to be heard of, every round that was started is at
  its end, or in precomputing or realtime. -/
  started : w.handsOut = true → (∀ id, .started id ∉ w.events.messages) →
    w.metrics.counters.roundsStarted = w.metrics.counters.roundsCompleted
      + w.metrics.counters.roundsFailed + (w.roundsIn .precomputing + w.roundsIn .realtime)

/-- What holds of a scheduler at all times, as far as it matters for the counters. -/
structure Ordered (w : World) : Prop where
  roster : w.roster.Sound
  wakeful : w.Wakeful
  audited : w.Audited
  begun : ∀ id, w.timers.phase id ≠ some .pending

lemma Ordered.step (h : w.Ordered) (m : Move) : (w.step m).Ordered where
  roster := step_sound h.roster m
  wakeful := step_wakeful h.wakeful m
  audited := audited_step h.roster h.wakeful h.audited m
  begun := (step_timers h.roster m).phase_ne_pending h.begun

lemma Ordered.run (h : w.Ordered) (moves : List Move) : (w.run moves).Ordered := by
  induction moves generalizing w with
  | nil => exact h
  | cons m rest ih => exact ih (h.step m)

lemma create_ordered (settings : Settings) (latency : Latency) (isDisabled : NodeId → Bool)
    {net : Network} (wall : Instant) (hfresh : net.Fresh) :
    (create settings latency isDisabled net wall).Ordered := by
  have hrounds : net.rounds.entries = [] := Table.entries_of_forall hfresh.idle.rounds
  have hbooks : (create settings latency isDisabled net wall).shared.books = ⟨0, 0, 0, []⟩ := by
    simp [create, Shared.books, Network.books, Table.size, Table.count, hrounds, hfresh.log,
      UpdateLog.empty]
  refine ⟨create_sound settings latency isDisabled wall hfresh.idle,
    create_wakeful settings latency isDisabled net wall, ⟨rfl, ?_, fun _ => ?_⟩, fun id => ?_⟩
  · rw [hbooks]
    exact ⟨rfl, rfl, rfl, rfl⟩
  · rw [hbooks]
    rfl
  · have hnone : (create settings latency isDisabled net wall).timers.phase id = none := by
      simp [timers, Shared.timers, create, Network.phase?, hfresh.idle.rounds id]
    simp [hnone]

/-- Rounds that are not pending are in one of four phases. -/
lemma length_eq_of_not_pending {es : List (RoundId × Round)} (h : ∀ e ∈ es, e.2.phase ≠ .pending) :
    es.length = es.countP (fun e => e.2.phase == .completed) + es.countP (fun e => e.2.phase == .failed)
      + (es.countP (fun e => e.2.phase == .precomputing) + es.countP fun e => e.2.phase == .realtime) := by
  induction es with
  | nil => rfl
  | cons e rest ih =>
      have hrest := ih fun e' he' => h e' (List.mem_cons_of_mem e he')
      have hhead := h e List.mem_cons_self
      simp only [List.length_cons, List.countP_cons]
      cases hphase : e.2.phase <;> simp_all <;> omega

lemma balances_of_ordered (h : w.Ordered) : w.Balances := by
  obtain ⟨hassembled, hbooks, hheard⟩ := h.audited
  have hcauses : w.shared.books.causes = w.shared.net.log.errors.map fun e => e.payload.cause := rfl
  refine ⟨hassembled, hbooks.completed, hbooks.failed, ?_, ?_, fun hgoes hnone => ?_⟩
  · have hrecords := hbooks.failed.trans hbooks.records.symm
    rwa [hcauses, List.length_map] at hrecords
  · have htimeouts := hbooks.timeouts
    rwa [hcauses, List.countP_map] at htimeouts
  · have hstarted : w.roster.started = [] :=
      List.eq_nil_iff_forall_not_mem.2 fun id hid => hnone id (mem_started.1 hid)
    have hrounds := hheard hgoes
    rw [hstarted, List.length_nil, Nat.add_zero] at hrounds
    have hsize : w.shared.books.rounds = w.shared.books.completed + w.shared.books.failed
        + (w.roundsIn .precomputing + w.roundsIn .realtime) := by
      refine length_eq_of_not_pending fun e he hpending => ?_
      have hphase : w.timers.phase e.1 = some e.2.phase :=
        phase_timers_eq_some.2 ⟨e.2, Table.get?_of_mem he, rfl⟩
      exact h.begun e.1 (hpending ▸ hphase)
    rw [show w.metrics.counters = w.loop.counters from rfl, hrounds, hsize, hbooks.completed, hbooks.failed]

/-- **The counters balance** in every state that any run from a fresh network reaches. -/
theorem balances_of_run (settings : Settings) (latency : Latency) (isDisabled : NodeId → Bool)
    {net : Network} (wall : Instant) (hfresh : net.Fresh) (moves : List Move) :
    ((create settings latency isDisabled net wall).run moves).Balances :=
  balances_of_ordered ((create_ordered settings latency isDisabled wall hfresh).run moves)

/-- One round, from its start to its end: one team, one start, one completion. -/
theorem balances_of_oneRound :
    let w := (small ["a"]).run oneRound
    (smallNetwork ["a"]).Fresh ∧ w.Balances ∧ w.metrics.counters.roundsStarted = 1 ∧
      w.metrics.counters.roundsCompleted = 1 := by
  intro w
  exact ⟨fresh_smallNetwork _, balances_of_run _ _ _ _ (fresh_smallNetwork _) oneRound,
    by decide +kernel, by decide +kernel⟩

end World

end MixRounds.Live
