import MixRounds.Proofs.Live.Annals
import MixRounds.Proofs.Live.Tracking

/-!
# What strikes a round

A round is struck by the ban of a node that holds it, by the report of an error of such a node, or by the
timer of the phase that it is in (`World.strike?`).  **`World.step_annals`** says that every move is one
step of the annals, labelled with what strikes a round in it; callers, workers and the forming of teams
write to neither rounds nor log.

Two things that have been seen of runs before are needed for this (`World.Regular`).  Nobody holds a
completed round, so that no ban and no error strikes one.  And a timer of realtime runs out only once the
round is there, so that the loop, when it hears of it, finds the round in realtime or at its end.
-/

namespace MixRounds.Live

namespace World

/-- The annals of a scheduler. -/
def annals (w : World) : Annals := w.shared.annals

/-- The event of which the loop hears in a move. -/
def heard? (w : World) : Move → Option Event
  | .iterate .events _ => if w.isRunning then w.events.receive?.map Prod.fst else none
  | _ => none

/-- A timer strikes a round that is in the phase it watches. -/
def ranOut? (w : World) : Event → Option RoundError
  | .timedOut id p =>
      if w.shared.net.phase? id = some p.watched then some ⟨id, none, .timeout p, w.wall⟩ else none
  | _ => none

/-- What strikes a round in a move. -/
def strike? (w : World) (m : Move) : Option RoundError :=
  ((w.delivered? m).bind fun n => w.shared.strike? w.wall n).or ((w.heard? m).bind w.ranOut?)

variable {w : World}

/-! ## What does not touch the annals -/

@[simp] lemma annals_bringOnline (w : World) (v : NodeId) : (w.bringOnline v).annals = w.annals := by
  rw [bringOnline_eq]
  rfl

@[simp] lemma annals_enqueue (w : World) (who : Notifier) (n : Notification) (sent : Outcome) :
    (w.enqueue who n sent).annals = w.annals := by
  rw [enqueue]
  split <;> rfl

lemma annals_poll (w : World) (call : CallId) (v : NodeId) (a : Activity) :
    (w.poll call v a).annals = w.annals := by
  rw [poll]
  split
  · rfl
  · split
    · rfl
    · split
      · rfl
      · exact annals_bringOnline _ _
      · exact (annals_enqueue _ _ _ _).trans (annals_bringOnline _ _)

lemma annals_ban (w : World) (call : CallId) (v : NodeId) : (w.ban call v).annals = w.annals := by
  rw [ban]
  split
  · rfl
  · split
    · exact annals_enqueue _ _ _ _
    · rfl

lemma annals_resumeBan (w : World) (call : CallId) : (w.resumeBan call).annals = w.annals := by
  rw [resumeBan]
  split
  · rfl
  · split
    · rfl
    · split
      · exact annals_enqueue _ _ _ _
      · rfl

lemma annals_closeQueues (w : World) : w.closeQueues.annals = w.annals :=
  read_closeQueues annals (fun _ _ => rfl) (fun _ _ => rfl) (fun _ => rfl) w

lemma annals_assembleOne (w : World) (chance : Shuffle) :
    (w.assembleOne chance).1.annals = w.annals := by
  rw [assembleOne]
  split
  · split <;> rfl
  · rename_i picked pool hpick
    have hnet := (formTeam_spec (w.mapShared fun s => { s with pool := pool }) picked).1
    dsimp only
    split <;> rename_i net hform <;> rw [hform] at hnet <;> dsimp only at hnet <;> subst hnet
    · rw [assemblyFailed]
      dsimp only
      split
      · rfl
      · split <;> rfl
    · rfl
    · rfl

lemma annals_settleTurn (w : World) (chance : Nat → Shuffle) :
    (w.settleTurn chance).annals = w.annals :=
  read_settleTurn annals (read_assembleFrom annals annals_assembleOne _ chance w)
    (fun w => congrArg Shared.annals (shared_acknowledge w)) fun w _ => annals_closeQueues w

lemma annals_report (w : World) (e : Event) : (w.report e).annals = w.annals := by
  rw [report]
  split <;> rfl

/-! ## Timers that run out -/

lemma messages_closeQueues (w : World) : w.closeQueues.events.messages = [] := rfl

/-- The end of a turn tells the loop nothing. -/
lemma mem_events_settleTurn {chance : Nat → Shuffle} {e : Event}
    (h : e ∈ (w.settleTurn chance).events.messages) : e ∈ w.events.messages := by
  have hassembled : (w.assemble chance).1.events = w.events :=
    congrArg Remainder.events (remainder_assembleFrom _ chance w)
  have hended : ∀ (w : World) (result : Except Setback Unit), (w.finish result).events.messages = [] :=
    fun _ _ => rfl
  rcases w.settleTurn_cases chance with ⟨w', hw', heq | heq⟩ | ⟨setback, heq⟩
  · rw [heq] at h
    rcases hw' with rfl | ⟨rfl, -⟩
    · exact h
    · exact hassembled ▸ h
  · simp [heq, hended] at h
  · simp [heq, hended] at h

/-- **A timer that the loop hears of has run out**: it was on its way before, or runs out in this move. -/
lemma timedOut_of_step {m : Move} {id : RoundId} {p : TimedPhase}
    (h : .timedOut id p ∈ (w.step m).events.messages) :
    .timedOut id p ∈ w.events.messages ∨ ∃ x, w.expired? m = some x ∧ x.phase = p ∧ x.round = id := by
  -- whoever sends an event sends it last
  have hsent : ∀ (sender : Worker) (e : Event), .timedOut id p ∈ (w.events.send sender e).2.messages →
      .timedOut id p ∈ w.events.messages ∨ e = .timedOut id p := by
    intro sender e hin
    rw [Channel.messages_send] at hin
    split at hin
    · exact Or.inl hin
    · simpa [eq_comm] using hin
  rcases m.call_or_work with hcall | hwork | rfl | rfl | rfl | ⟨source, chance, rfl⟩
  · rw [show (w.step m).events = w.events from congrArg Interior.events (interior_of_isCall hcall)] at h
    exact Or.inl h
  · cases m with
    | attempt =>
        have hreported : ∀ (s : Shared) (e : Event), (({ w with shared := s } : World).report e).events
            = (w.events.send .starter e).2 := by
          intro s e
          rw [report]
          dsimp only
          split <;> rename_i heq <;> rw [heq]
        dsimp only [step, attempt] at h
        split at h
        · split at h
          · exact Or.inl h
          · split at h <;> rw [hreported] at h
            · exact Or.inl ((hsent _ _ h).resolve_right (by simp))
            · exact Or.inl ((hsent _ _ h).resolve_right (by simp))
        · exact Or.inl h
    | leave x =>
        dsimp only [step, leave] at h
        split at h
        · split at h
          · exact Or.inl h
          · exact Or.inl ((hsent _ _ h).resolve_right (by simp))
        · exact Or.inl h
    | expire x =>
        dsimp only [step, expire] at h
        split at h
        · rename_i hx
          rcases hsent _ _ h with hin | heq
          · exact Or.inl hin
          · cases heq
            exact Or.inr ⟨x, by rw [expired?, if_pos hx], rfl, rfl⟩
        · exact Or.inl h
    | admitEvent =>
        dsimp only [step, admitEvent] at h
        split at h
        · exact Or.inl h
        · exact Or.inl (Channel.messages_admit? ‹_› ▸ h)
        · exact Or.inl (Channel.messages_admit? ‹_› ▸ h)
    | takeProto =>
        dsimp only [step, takeProto] at h
        split at h
        · exact Or.inl h
        · split at h <;> exact Or.inl h
        · exact Or.inl h
    | sweep =>
        dsimp only [step, sweep] at h
        split at h
        · exact Or.inl h
        · split at h <;> exact Or.inl h
    | pass ms =>
        dsimp only [step, pass] at h
        split at h <;> exact Or.inl h
    | wallPass nanos => exact Or.inl h
    | _ => cases hwork
  · dsimp only [step, launch] at h
    split at h <;> exact Or.inl h
  · dsimp only [step, conclude] at h
    split at h <;> exact Or.inl h
  · dsimp only [step, drop] at h
    split at h
    · simp [messages_closeQueues] at h
    · simp [messages_closeQueues] at h
    · exact Or.inl h
  · dsimp only [step, iterate] at h
    split at h
    · split at h
      · exact Or.inl h
      · rename_i message w' htake
        have hin := mem_events_settleTurn h
        rw [process_eq] at hin
        cases source <;> simp only [take?, Option.map_eq_some_iff] at htake <;>
          obtain ⟨⟨_, ch⟩, hreceive, heq⟩ := htake <;> cases heq
        · exact Or.inl hin
        · rw [Channel.messages_receive? hreceive]
          exact Or.inl (List.mem_cons_of_mem _ hin)
        · exact Or.inl hin
    · exact Or.inl h

/-! ## What has been seen before -/

/-- What is known of a state that a run has reached, as far as it matters here. -/
structure Regular (w : World) : Prop where
  chronicle : ∃ told, Chronicle w told
  /-- If a timer of realtime is on its way to the loop, then it has run out. -/
  tracked : ∃ out, w.timers.Tracked out ∧ ∀ id, .timedOut id .realtime ∈ w.events.messages → out id

namespace Regular

lemma roster (h : w.Regular) : w.roster.Sound := h.chronicle.elim fun _ => Chronicle.roster

/-- Nobody holds a completed round. -/
lemma not_completed (h : w.Regular) {v : NodeId} {id : RoundId} (hheld : w.shared.net.holding v = some id) :
    ∃ r, w.shared.net.rounds.get? id = some r ∧ r.phase ≠ .completed := by
  obtain ⟨told, hchronicle⟩ := h.chronicle
  obtain ⟨r, hround⟩ := exists_round h.roster hheld
  refine ⟨r, hround, fun hcompleted => ?_⟩
  have hrecorded := hchronicle.recorded id r hround (by simp [hcompleted])
  exact hrecorded.not_holding_of_completed hcompleted (fun j hj => hchronicle.member hround hj) v hheld

lemma step (h : w.Regular) (m : Move) : (w.step m).Regular := by
  obtain ⟨told, hchronicle⟩ := h.chronicle
  obtain ⟨out, htracked, hevents⟩ := h.tracked
  refine ⟨⟨_, hchronicle.step m⟩, _, htracked.step (step_timers h.roster m), fun id hin => ?_⟩
  exact (timedOut_of_step hin).imp_left (hevents id)

lemma run (h : w.Regular) (moves : List Move) : (w.run moves).Regular := by
  induction moves generalizing w with
  | nil => exact h
  | cons m rest ih => exact ih (h.step m)

end Regular

lemma create_regular (settings : Settings) (latency : Latency) (isDisabled : NodeId → Bool)
    {net : Network} (wall : Instant) (h : net.Idle) :
    (create settings latency isDisabled net wall).Regular where
  chronicle := ⟨_, create_chronicle settings latency isDisabled wall h⟩
  tracked := ⟨_, create_tracked settings latency isDisabled wall h, fun id hin => by cases hin⟩

/-! ## Every move -/

lemma annals_processUpdate (w : World) (n : Notification) : (w.processUpdate n).annals
    = ((w.takenOver n).shared.apply w.settings w.wall w.clock w.loop.reserved n).1.annals := by
  rw [processUpdate]
  dsimp only
  split <;> rfl

lemma step_annals_processUpdate {n : Notification}
    (hheld : ∀ id, w.shared.net.holding n.node = some id →
      ∃ r, w.shared.net.rounds.get? id = some r ∧ r.phase ≠ .completed) :
    Annals.Step w.annals (w.shared.strike? w.wall n) (w.processUpdate n).annals := by
  have hstrike : (w.takenOver n).shared.strike? w.wall n = w.shared.strike? w.wall n := by
    simp only [Shared.strike?, holding_takenOver]
  rw [annals_processUpdate, ← hstrike]
  refine Shared.step_annals_apply (s := (w.takenOver n).shared) fun id hid => ?_
  rw [holding_takenOver] at hid
  exact hheld id hid

lemma isTerminal_watched (p : TimedPhase) : p.watched.isTerminal = false := by cases p <;> rfl

lemma classify_watched (p : TimedPhase) : TimedPhase.classify p.watched = p := by cases p <;> rfl

/-- A timer fails the round that is in the phase it watches. -/
lemma shared_processTimeout {id : RoundId} {p : TimedPhase} {r : Round}
    (hround : w.shared.net.rounds.get? id = some r) (hwatched : r.phase = p.watched) :
    (w.processTimeout id p).shared = (w.shared.kill w.wall id none (.timeout p)).1 := by
  have hstays : ¬ (p = .precomputation ∧ r.phase ≠ .precomputing) := by
    rintro ⟨rfl, hleft⟩
    exact hleft hwatched
  have hlive : ¬ r.phase.isTerminal = true := by simp [hwatched, isTerminal_watched]
  rw [processTimeout]
  simp only [hround]
  rw [if_neg hlive, if_neg hstays, hwatched, classify_watched]
  dsimp only [count]
  split <;> rename_i heq <;> rw [heq]

/-- A timer that comes too late does nothing. -/
lemma processTimeout_of_left {id : RoundId} {p : TimedPhase} {r : Round}
    (hround : w.shared.net.rounds.get? id = some r)
    (hleft : r.phase.isTerminal = true ∨ p = .precomputation ∧ r.phase ≠ .precomputing) :
    w.processTimeout id p = w := by
  rw [processTimeout]
  simp only [hround]
  rcases hleft with hterminal | hleft
  · rw [if_pos hterminal]
  · rw [if_pos hleft, ite_self]

/-- **A timer that runs out** fails the round that is in the phase it watches, and no other. -/
lemma step_annals_processEvent {e : Event}
    (hlate : ∀ id, e = .timedOut id .realtime → w.timers.phase id = some .realtime ∨
      w.timers.phase id = some .completed ∨ w.timers.phase id = some .failed) :
    Annals.Step w.annals (w.ranOut? e) (w.processEvent e).annals := by
  cases e with
  | timedOut id p =>
      dsimp only [processEvent, ranOut?]
      cases hround : w.shared.net.rounds.get? id with
      | none =>
          have hnone : w.shared.net.phase? id ≠ some p.watched := by simp [Network.phase?, hround]
          have hsame : w.processTimeout id p = w := by simp [processTimeout, hround]
          rw [if_neg hnone, hsame]
          exact .still
      | some r =>
          have hphase : w.timers.phase id = some r.phase := Shared.phase_timers hround
          have hiff : w.shared.net.phase? id = some p.watched ↔ r.phase = p.watched := by
            simp [Network.phase?, hround]
          by_cases hwatched : r.phase = p.watched
          · have hcompleted : r.phase ≠ .completed := by rw [hwatched]; cases p <;> decide
            have hkill := Shared.step_annals_kill w.wall none (.timeout p) hround hcompleted
            rw [← shared_processTimeout hround hwatched] at hkill
            rw [if_pos (hiff.2 hwatched)]
            exact hkill
          · have hleft : r.phase.isTerminal = true ∨ p = .precomputation ∧ r.phase ≠ .precomputing := by
              cases p with
              | precomputation => exact Or.inr ⟨rfl, hwatched⟩
              | realtime =>
                  have hlater := hlate id rfl
                  simp only [hphase, Option.some.injEq] at hlater
                  rcases hlater with hp | hp | hp
                  · exact absurd hp hwatched
                  · exact Or.inl (by rw [hp]; rfl)
                  · exact Or.inl (by rw [hp]; rfl)
            rw [if_neg (mt hiff.1 hwatched), processTimeout_of_left hround hleft]
            exact .still
  | started id | startFailed p fault =>
      dsimp only [processEvent, unreserve, ranOut?]
      split <;> exact .still
  | finished id => exact .still

lemma step_annals_attempt (h : w.roster.Sound) : Annals.Step w.annals none w.attempt.annals := by
  rw [attempt]
  split
  · rename_i p due hstarter
    split
    · exact .still
    · have hp : p ∈ w.pending := by simp [pending, hstarter]
      rcases start_pending h hp w.wall w.clock with ⟨v, -, hstart⟩ | ⟨s', hstart, -⟩
      · simp only [hstart]
        rw [annals_report]
        exact .still
      · simp only [hstart]
        rw [annals_report]
        exact Shared.step_annals_start hstart
  · exact .still

lemma step_annals_iterate (h : w.Regular) (source : Source) (chance : Nat → Shuffle) :
    Annals.Step w.annals (w.strike? (.iterate source chance)) (w.iterate source chance).annals := by
  rw [iterate]
  cases hrunning : w.isRunning with
  | false => cases source <;> simpa [strike?, delivered?, heard?, hrunning] using .still
  | true =>
      simp only [if_true]
      cases source with
      | updates =>
          cases hreceive : w.updates.receive? with
          | none => simpa [take?, strike?, delivered?, heard?, hrunning, hreceive] using .still
          | some received =>
              obtain ⟨n, ch⟩ := received
              have hstrike : w.strike? (.iterate .updates chance) = w.shared.strike? w.wall n := by
                simp [strike?, delivered?, heard?, hrunning, hreceive]
              simp only [take?, hreceive, Option.map_some, annals_settleTurn, hstrike]
              exact step_annals_processUpdate (w := { w with updates := ch }) fun id hid =>
                h.not_completed hid
      | events =>
          cases hreceive : w.events.receive? with
          | none => simpa [take?, strike?, delivered?, heard?, hrunning, hreceive] using .still
          | some received =>
              obtain ⟨e, ch⟩ := received
              have hstrike : w.strike? (.iterate .events chance) = w.ranOut? e := by
                simp [strike?, delivered?, heard?, hrunning, hreceive]
              simp only [take?, hreceive, Option.map_some, annals_settleTurn, hstrike]
              refine step_annals_processEvent (w := { w with events := ch }) fun id he => ?_
              obtain ⟨out, htracked, hout⟩ := h.tracked
              refine htracked.late id (Or.inr (hout id ?_))
              rw [Channel.messages_receive? hreceive, he]
              exact List.mem_cons_self
      | requests =>
          have hstrike : w.strike? (.iterate .requests chance) = none := rfl
          cases hreceive : w.requests.receive? with
          | none =>
              simp only [take?, hreceive, Option.map_none, hstrike]
              exact .still
          | some received =>
              simp only [take?, hreceive, Option.map_some, annals_settleTurn, hstrike]
              cases received.1 <;> exact .still

/-- **Every move is one step** of the annals, labelled with what strikes a round in it. -/
theorem step_annals (h : w.Regular) (m : Move) :
    Annals.Step w.annals (w.strike? m) (w.step m).annals := by
  have hsame : ∀ w' : World, w'.annals = w.annals → w.strike? m = none →
      Annals.Step w.annals (w.strike? m) w'.annals := by
    intro w' heq hnone
    rw [heq, hnone]
    exact .still
  cases hprivate : m.isPrivate with
  | true =>
      have hshared := congrArg Shared.annals (shared_of_isPrivate (w := w) hprivate)
      cases m <;> first | exact hsame _ hshared rfl | cases hprivate
  | false =>
      cases m with
      | iterate source chance => exact step_annals_iterate h source chance
      | attempt => exact step_annals_attempt h.roster
      | poll call v a => exact hsame _ (annals_poll w call v a) rfl
      | ban call v => exact hsame _ (annals_ban w call v) rfl
      | resumeBan call => exact hsame _ (annals_resumeBan w call) rfl
      | leave x =>
          refine hsame _ ?_ rfl
          dsimp only [step, leave]
          split
          · split <;> rfl
          · rfl
      | expire x =>
          refine hsame _ ?_ rfl
          dsimp only [step, expire]
          split <;> rfl
      | drop =>
          refine hsame _ ?_ rfl
          dsimp only [step, drop]
          split
          · exact annals_closeQueues w
          · exact annals_closeQueues w
          · rfl
      | sweep =>
          refine hsame _ ?_ rfl
          dsimp only [step, sweep]
          split
          · rfl
          · split <;> rfl
      | _ => cases hprivate

lemma fresh_smallNetwork (names : List NodeId) : (smallNetwork names).Fresh := by
  suffices h : ∀ net : Network, net.Fresh →
      (names.foldl (fun net v => net.register v "Asia" .active ⟨0, 0⟩) net).Fresh from
    h _ (Network.fresh_empty _ _)
  induction names with
  | nil => exact fun _ h => h
  | cons v rest ih => exact fun net h => ih _ (h.register v _ _ _)

end World

end MixRounds.Live
