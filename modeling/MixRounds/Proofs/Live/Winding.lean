import MixRounds.Proofs.Live.Tracking

/-!
# Winding down

The first shutdown request that the loop deals with ends the forming of teams, in the same turn and for
good.  What is on its way to the starter then only gets less: the starter takes teams, and reports on them,
and the loop hears of that (`World.Winds`, **`World.run_winds`**).
-/

namespace MixRounds.Live.World

/-- The call that asks for a shutdown. -/
def Message.shutdown? : Message → Option CallId
  | .request (.shutdown call) => some call
  | _ => none

/-- The message that the loop deals with in a move. -/
def taken? (w : World) : Move → Option Message
  | .iterate source _ => if w.isRunning then (w.take? source).map Prod.fst else none
  | _ => none

/-- The shutdown request that the loop deals with in a move. -/
def shutdown? (w : World) (m : Move) : Option CallId := (w.taken? m).bind Message.shutdown?

variable {w since : World}

/-- A move in which the loop deals with a message is a turn of the loop. -/
lemma step_of_taken {m : Move} {message : Message} (h : w.taken? m = some message) :
    ∃ source chance w', w.isRunning = true ∧ w.take? source = some (message, w') ∧
      w.step m = (w'.process message).settleTurn chance := by
  cases m with
  | iterate source chance =>
      rw [taken?] at h
      split at h
      · rename_i hrunning
        obtain ⟨⟨message', w'⟩, htake, heq⟩ := Option.map_eq_some_iff.1 h
        cases heq
        exact ⟨source, chance, w', hrunning, htake, step_of_take? chance hrunning htake⟩
      · cases h
  | _ => cases h

/-- Without a message a turn does nothing. -/
lemma iterate_of_taken_eq_none {source : Source} {chance : Nat → Shuffle}
    (h : w.taken? (.iterate source chance) = none) : w.iterate source chance = w := by
  rw [iterate]
  split
  · rename_i hrunning
    simp only [taken?, hrunning, if_true, Option.map_eq_none_iff] at h
    simp [h]
  · rfl

/-! ## What the loop keeps for itself -/

/-- What dealing with a message does to the books of the loop. -/
structure Processed (l l' : Loop) (asked : Option CallId) : Prop where
  runState : l'.runState = if asked.isSome ∧ l.runState = .running then .draining else l.runState
  acks : l'.acks = l.acks ++ asked.toList
  assembled : l'.counters.roundsAssembled = l.counters.roundsAssembled
  inFlight : ∀ id team, l'.inFlight.get? id = some team → l.inFlight.get? id = some team

/-- Counters may change, but that of the teams. -/
lemma Processed.of_counters (l : Loop) {c : Counters} (h : c.roundsAssembled = l.counters.roundsAssembled) :
    Processed l { l with counters := c } none where
  runState := by simp
  acks := by simp
  assembled := h
  inFlight _ _ := id

lemma processed_unreserve (w : World) (id : RoundId) {c : Counters}
    (h : c.roundsAssembled = w.loop.counters.roundsAssembled) :
    Processed w.loop { (w.unreserve id).loop with counters := c } none := by
  rw [unreserve]
  split
  · exact .of_counters w.loop h
  · refine ⟨by simp, by simp, h, fun j team hteam => ?_⟩
    dsimp only at hteam
    rw [Table.get?_erase] at hteam
    split at hteam
    · cases hteam
    · exact hteam

lemma assembled_unreserve (w : World) (id : RoundId) :
    (w.unreserve id).loop.counters.roundsAssembled = w.loop.counters.roundsAssembled := by
  rw [unreserve]
  split <;> rfl

lemma processed (w : World) (message : Message) :
    Processed w.loop (w.process message).loop message.shutdown? := by
  cases message with
  | update n =>
      dsimp only [process, processUpdate]
      split <;> exact .of_counters w.loop rfl
  | event e =>
      cases e with
      | timedOut id p =>
          dsimp only [process, processEvent, processTimeout]
          split
          · exact .of_counters w.loop rfl
          · split
            · exact .of_counters w.loop rfl
            · split
              · exact .of_counters w.loop rfl
              · split <;> exact .of_counters w.loop rfl
      | started id => exact processed_unreserve w id (assembled_unreserve w id)
      | startFailed p fault => exact processed_unreserve w p.id (assembled_unreserve w p.id)
      | finished id => exact .of_counters w.loop rfl
  | request r =>
      cases r with
      | metrics call => exact .of_counters w.loop rfl
      | shutdown call =>
          exact ⟨by simp [process, processRequest, Message.shutdown?], rfl, rfl, fun _ _ => id⟩

lemma loop_closeQueues (w : World) : w.closeQueues.loop = { w.loop with acks := [] } :=
  read_closeQueues (fun w => { w.loop with acks := [] }) (fun _ _ => rfl) (fun _ _ => rfl) (fun _ => rfl) w

lemma loop_finish (w : World) (result : Except Setback Unit) :
    (w.finish result).loop = { w.loop with acks := [], stage := .after result } := by
  have hloop : (w.finish result).loop = { w.closeQueues.loop with stage := .after result } := rfl
  rw [hloop, loop_closeQueues]

lemma loop_acknowledge (w : World) :
    w.acknowledge.loop = { w.loop with acks := [], runState := .stopped } :=
  read_acknowledge (fun w => { w.loop with acks := [], runState := .stopped }) (fun _ _ => rfl)
    (fun _ => rfl) w

/-! ## The turn -/

/-- Forming teams does not end the forming of teams. -/
lemma settleTurn_of_running {chance : Nat → Shuffle} (h : w.loop.runState = .running) :
    (w.settleTurn chance).loop.runState = .running := by
  have hassembled : (w.assemble chance).1.loop.runState = .running :=
    (congrArg Remainder.runState (remainder_assembleFrom _ chance w)).trans h
  rw [settleTurn]
  simp only [h, if_true]
  split
  · rw [loop_finish]
    exact hassembled
  · rw [if_neg (by simp [hassembled])]
    exact hassembled

/-- Once it has ended, a turn ends the loop if it is drained, and leaves everything alone otherwise. -/
lemma settleTurn_of_ne_running {chance : Nat → Shuffle} (h : w.loop.runState ≠ .running) :
    w.settleTurn chance = if w.loop.runState = .draining ∧ w.isQuiescent
      then w.acknowledge.finish (.ok ()) else w := by
  rw [settleTurn]
  simp only [h, if_false]

/-! ## What is on its way to the starter -/

lemma pending_congr {w' : World} (hstarter : w'.starter = w.starter) (hprotos : w'.protos = w.protos) :
    w'.pending = w.pending := by
  simp only [pending, hstarter, hprotos]

lemma mem_pending_of_protos {p : ProtoRound} (h : p ∈ w.protos) : p ∈ w.pending := by
  rw [pending]
  split
  · exact List.mem_cons_of_mem _ h
  · exact h

/-- Whoever reports takes no team. -/
lemma mem_pending_report {e : Event} {p : ProtoRound} (h : p ∈ (w.report e).pending) : p ∈ w.pending := by
  rw [report] at h
  split at h
  · exact mem_pending_of_protos h
  · exact mem_pending_of_protos h
  · cases h

lemma mem_pending_attempt {p : ProtoRound} (h : p ∈ w.attempt.pending) : p ∈ w.pending := by
  rw [attempt] at h
  split at h
  · split at h
    · exact h
    · split at h <;> exact (mem_pending_report h :)
  · exact h

/-- A worker does not add to what is on its way. -/
lemma mem_pending_of_isWork {m : Move} (hwork : m.isWork = true) {p : ProtoRound}
    (h : p ∈ (w.step m).pending) : p ∈ w.pending := by
  cases m with
  | attempt => exact mem_pending_attempt h
  | admitEvent =>
      dsimp only [step, admitEvent] at h
      split at h
      · exact h
      · exact mem_pending_of_protos h
      · exact h
  | takeProto =>
      dsimp only [step, takeProto] at h
      split at h
      · rename_i proto rest hstarter hprotos
        simpa [pending, hstarter, hprotos] using h
      · split at h
        · exact h
        · exact mem_pending_of_protos h
      · exact h
  | leave x =>
      dsimp only [step, leave] at h
      split at h
      · split at h <;> exact h
      · exact h
  | expire x =>
      dsimp only [step, expire] at h
      split at h <;> exact h
  | sweep =>
      dsimp only [step, sweep] at h
      split at h
      · exact h
      · split at h <;> exact h
  | pass ms =>
      dsimp only [step, pass] at h
      split at h <;> exact h
  | wallPass nanos => exact h
  | _ => cases hwork

lemma pending_closeQueues (w : World) : w.closeQueues.pending = w.pending :=
  congrArg Roster.pending (roster_closeQueues w)

/-! ## Moves without a message -/

/-- Without a message the books of the loop stay as they are, unless the loop is destroyed. -/
lemma loop_of_taken_eq_none {m : Move} (h : w.taken? m = none) : ∃ stage acks,
    (w.step m).loop = { w.loop with stage := stage, acks := acks } ∧
      ((w.step m).handsOut = true → acks = w.loop.acks) := by
  have hsame : ∀ w' : World, w'.loop = w.loop → ∃ stage acks,
      w'.loop = { w.loop with stage := stage, acks := acks } ∧ (w'.handsOut = true → acks = w.loop.acks) :=
    fun w' hloop => ⟨w.loop.stage, w.loop.acks, hloop, fun _ => rfl⟩
  rcases m.call_or_work with hcall | hwork | rfl | rfl | rfl | ⟨source, chance, rfl⟩
  · exact hsame _ (congrArg Interior.loop (interior_of_isCall hcall))
  · exact hsame _ (congrArg Exterior.loop (exterior_of_isWork hwork))
  · dsimp only [step, launch]
    split
    · exact ⟨.running, w.loop.acks, rfl, fun _ => rfl⟩
    · exact hsame _ rfl
  · dsimp only [step, conclude]
    split
    · exact ⟨_, w.loop.acks, rfl, fun _ => rfl⟩
    · exact hsame _ rfl
  · have hended : (w.step .drop).handsOut = false := rfl
    rw [hended]
    dsimp only [step, drop]
    split
    · exact ⟨.dropped, [], by rw [loop_closeQueues], fun hgoes => by cases hgoes⟩
    · exact ⟨.dropped, [], by rw [loop_closeQueues], fun hgoes => by cases hgoes⟩
    · exact ⟨.dropped, w.loop.acks, rfl, fun hgoes => by cases hgoes⟩
  · exact hsame _ (congrArg loop (iterate_of_taken_eq_none h))

lemma mem_pending_of_taken_eq_none {m : Move} (h : w.taken? m = none) {p : ProtoRound}
    (hp : p ∈ (w.step m).pending) : p ∈ w.pending := by
  rcases m.call_or_work with hcall | hwork | rfl | rfl | rfl | ⟨source, chance, rfl⟩
  · have hinterior := interior_of_isCall (w := w) hcall
    have hpending : (w.step m).pending = w.pending :=
      pending_congr (congrArg Interior.starter hinterior) (congrArg Interior.protos hinterior)
    rwa [hpending] at hp
  · exact mem_pending_of_isWork hwork hp
  · dsimp only [step, launch] at hp
    split at hp
    · exact mem_pending_of_protos hp
    · exact hp
  · dsimp only [step, conclude] at hp
    split at hp <;> exact hp
  · have hclosed : p ∈ w.closeQueues.pending → p ∈ w.pending := by
      rw [pending_closeQueues]
      exact id
    dsimp only [step, drop] at hp
    split at hp
    · exact hclosed hp
    · exact hclosed hp
    · exact hp
  · rwa [show w.step (.iterate source chance) = w from iterate_of_taken_eq_none h] at hp

/-! ## Every move -/

/-- The loop forms no teams, and has formed none since. -/
structure Winds (since w : World) : Prop where
  drains : w.loop.runState ≠ .running
  assembled : w.loop.counters.roundsAssembled = since.loop.counters.roundsAssembled
  pending : ∀ p ∈ w.pending, p ∈ since.pending
  inFlight : ∀ id team, w.loop.inFlight.get? id = some team → since.loop.inFlight.get? id = some team

namespace Winds

lemma refl (h : w.loop.runState ≠ .running) : Winds w w := ⟨h, rfl, fun _ => id, fun _ _ => id⟩

lemma trans {w' : World} (h : Winds since w) (h' : Winds w w') : Winds since w' where
  drains := h'.drains
  assembled := h'.assembled.trans h.assembled
  pending p hp := h.pending p (h'.pending p hp)
  inFlight id team hteam := h.inFlight id team (h'.inFlight id team hteam)

end Winds

/-- A loop that forms no teams does not begin again. -/
lemma runState_step (h : w.loop.runState ≠ .running) (m : Move) : (w.step m).loop.runState ≠ .running := by
  cases htaken : w.taken? m with
  | none =>
      obtain ⟨stage, acks, hloop, -⟩ := loop_of_taken_eq_none htaken
      rwa [hloop]
  | some message =>
      obtain ⟨source, chance, w', -, htake, hstep⟩ := step_of_taken htaken
      have hdrains : (w'.process message).loop.runState ≠ .running := by
        rw [(processed w' message).runState, loop_take? htake, if_neg fun hasked => h hasked.2]
        exact h
      rw [hstep, settleTurn_of_ne_running hdrains]
      split
      · simp [loop_finish, loop_acknowledge]
      · exact hdrains

/-- **A turn that forms no teams** deals with a message, and may end the loop. -/
lemma winds_settleTurn {w' : World} (h : Winds w w') (chance : Nat → Shuffle) :
    Winds w (w'.settleTurn chance) := by
  rw [settleTurn_of_ne_running h.drains]
  split
  · have hpending : (w'.acknowledge.finish (.ok ())).pending = w'.pending :=
      (pending_closeQueues _).trans (congrArg Roster.pending (roster_acknowledge w'))
    have hended : Winds w' (w'.acknowledge.finish (.ok ())) := by
      refine ⟨?_, ?_, by rw [hpending]; exact fun _ => id, fun id team hteam => ?_⟩
      · simp [loop_finish, loop_acknowledge]
      · simp [loop_finish, loop_acknowledge]
      · simpa [loop_finish, loop_acknowledge] using hteam
    exact h.trans hended
  · exact h

/-- **A move that leaves the loop winding down** has formed no teams, not even the one in which the loop
deals with the first request for a shutdown. -/
theorem step_winds {m : Move} (h : (w.step m).loop.runState ≠ .running) : Winds w (w.step m) := by
  cases htaken : w.taken? m with
  | none =>
      have hpending : ∀ p ∈ (w.step m).pending, p ∈ w.pending := fun _ =>
        mem_pending_of_taken_eq_none htaken
      obtain ⟨stage, acks, hloop, -⟩ := loop_of_taken_eq_none htaken
      exact ⟨h, by rw [hloop], hpending, fun id team hteam => by simpa [hloop] using hteam⟩
  | some message =>
      obtain ⟨source, chance, w', -, htake, hstep⟩ := step_of_taken htaken
      rw [hstep] at h ⊢
      have hdrains : (w'.process message).loop.runState ≠ .running := fun hrunning =>
        h (settleTurn_of_running hrunning)
      have hprocessed := processed w' message
      rw [loop_take? htake] at hprocessed
      have hpending : (w'.process message).pending = w.pending := by
        rw [process_eq, take?_eq htake]
        rfl
      refine winds_settleTurn ⟨hdrains, hprocessed.assembled, ?_, hprocessed.inFlight⟩ chance
      rw [hpending]
      exact fun _ => id

/-- **Once no teams are formed**, none ever are again. -/
theorem run_winds (h : Winds since w) (moves : List Move) : Winds since (w.run moves) := by
  induction moves generalizing w with
  | nil => exact h
  | cons m rest ih => exact ih (h.trans (step_winds (runState_step h.drains m)))

end MixRounds.Live.World
