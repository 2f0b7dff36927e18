import MixRounds.Proofs.Live.Frame
import MixRounds.Proofs.Live.Reservation

/-!
# How a drained loop ends

Once a shutdown was asked for, the loop goes on until nothing is tracked and nothing is on its way to the
starter.  It looks only at the end of a turn, and a watcher stops tracking a round between two turns.  So
whoever empties the tracker must leave the loop a reason for another turn: the watcher tells the loop that
the round is finished.

`World.Wakeful` says that there always is such a reason.  A loop that is drained and has not stopped finds
an event.  It holds in every reachable state (**`World.run_wakeful`**).
-/

namespace MixRounds.Live.World

variable {w : World}

/-- A drained loop that has not stopped has a reason to look again. -/
structure Wakeful (w : World) : Prop where
  /-- As long as the loop may run, it can be told of anything. -/
  is_open : w.handsOut = true → w.events.closed = false
  event : w.handsOut = true → w.loop.runState = .draining → w.isQuiescent = true →
    w.events.messages ≠ []

/-! ## What keeps a loop wakeful -/

lemma Wakeful.of_ended (h : w.handsOut = false) : w.Wakeful where
  is_open hrun := by simp [h] at hrun
  event hrun := by simp [h] at hrun

lemma Wakeful.congr (h : w.Wakeful) {w' : World} (hloop : w'.loop = w.loop)
    (htracker : w'.shared.tracker = w.shared.tracker) (hclosed : w'.events.closed = w.events.closed)
    (hmessages : w'.events.messages = w.events.messages) : w'.Wakeful := by
  have hruns : w'.handsOut = w.handsOut := by simp only [handsOut, hloop]
  have hquiet : w'.isQuiescent = w.isQuiescent := by simp only [isQuiescent, hloop, htracker]
  refine ⟨fun hrun => ?_, fun hrun hdraining hquiescent => ?_⟩
  · rw [hclosed]
    exact h.is_open (hruns ▸ hrun)
  · rw [hmessages]
    exact h.event (hruns ▸ hrun) (hloop ▸ hdraining) (hquiet ▸ hquiescent)

/-- Whoever tells the loop something gives it a reason, whatever else it has done. -/
lemma Wakeful.of_send (h : w.Wakeful) {w' : World} {sender : Worker} {e : Event}
    (hrun : w'.handsOut = w.handsOut) (hsent : w'.events = (w.events.send sender e).2) :
    w'.Wakeful := by
  refine ⟨fun hrun' => ?_, fun hrun' _ _ => ?_⟩
  · rw [hsent, Channel.closed_send]
    exact h.is_open (hrun ▸ hrun')
  · have hopen : w.events.closed = false := h.is_open (hrun ▸ hrun')
    have hmessages := w.events.messages_send sender e
    rw [hsent, hmessages]
    simp [hopen]

/-! ## The turn -/

/-- **A turn ends** with the loop over, or with something still to wait for. -/
lemma wakeful_settleTurn (hopen : w.events.closed = false) (chance : Nat → Shuffle) :
    (w.settleTurn chance).Wakeful := by
  have hfinished : ∀ (w : World) (result : Except Setback Unit), (w.finish result).Wakeful :=
    fun w result => .of_ended (handsOut_finish w result)
  have hassembled : (w.assemble chance).1.events = w.events :=
    congrArg Remainder.events (remainder_assembleFrom _ chance w)
  -- whether or not teams were formed, the loop looks at what is left
  have hlast : ∀ w' : World, w'.events = w.events →
      (if w'.loop.runState = .draining ∧ w'.isQuiescent = true then w'.acknowledge.finish (.ok ())
        else w').Wakeful := by
    intro w' hevents
    split
    · exact hfinished _ _
    · rename_i hwaits
      exact ⟨fun _ => hevents ▸ hopen, fun _ hdraining hquiet => absurd ⟨hdraining, hquiet⟩ hwaits⟩
  rw [settleTurn]
  by_cases hstate : w.loop.runState = .running
  · simp only [hstate, if_true]
    split
    · exact hfinished _ _
    · exact hlast _ hassembled
  · simp only [hstate, if_false]
    exact hlast w rfl

lemma wakeful_iterate (h : w.Wakeful) (source : Source) (chance : Nat → Shuffle) :
    (w.iterate source chance).Wakeful := by
  rw [iterate]
  split
  · rename_i hrunning
    have hopen : w.events.closed = false := h.is_open (handsOut_of_isRunning hrunning)
    split
    · exact h
    · rename_i m w' htake
      have hevents : (w'.process m).events = w'.events := by rw [process_eq]
      refine wakeful_settleTurn (hevents ▸ ?_) chance
      cases source <;> simp only [take?, Option.map_eq_some_iff] at htake <;>
        obtain ⟨⟨message, ch⟩, hreceive, heq⟩ := htake <;> cases heq
      · exact hopen
      · exact (Channel.closed_receive? hreceive).trans hopen
      · exact hopen
  · exact h

/-! ## The workers -/

lemma wakeful_report (h : w.Wakeful) (s : Shared) (e : Event) :
    (({ w with shared := s } : World).report e).Wakeful := by
  have hsent : (({ w with shared := s } : World).report e).events
      = (w.events.send .starter e).2 := by
    rw [report]
    dsimp only
    split <;> rename_i heq <;> rw [heq]
  have hrun : (({ w with shared := s } : World).report e).handsOut = w.handsOut := by
    rw [report]
    split <;> rfl
  exact h.of_send hrun hsent

lemma wakeful_attempt (h : w.Wakeful) : w.attempt.Wakeful := by
  rw [attempt]
  split
  · split
    · exact h
    · split <;> exact wakeful_report h _ _
  · exact h

lemma wakeful_leave (h : w.Wakeful) (x : Watcher) : (w.leave x).Wakeful := by
  rw [leave]
  split
  · dsimp only
    split
    · exact h.congr rfl rfl rfl rfl
    · exact h.of_send rfl rfl
  · exact h

lemma wakeful_expire (h : w.Wakeful) (x : Watcher) : (w.expire x).Wakeful := by
  rw [expire]
  split
  · exact h.of_send rfl rfl
  · exact h

lemma wakeful_admitEvent (h : w.Wakeful) : w.admitEvent.Wakeful := by
  rw [admitEvent]
  split
  · exact h
  · exact h.congr rfl rfl (Channel.closed_admit? ‹_›) (Channel.messages_admit? ‹_›)
  · exact h.congr rfl rfl (Channel.closed_admit? ‹_›) (Channel.messages_admit? ‹_›)

lemma wakeful_launch (h : w.Wakeful) : w.launch.Wakeful := by
  rw [launch]
  split
  · rename_i hstage
    have hrun : w.handsOut = true := by simp [handsOut, hstage]
    exact ⟨fun _ => h.is_open hrun, fun _ => h.event hrun⟩
  · exact h

/-! ## Every run -/

/-- **Every move keeps a loop wakeful.** -/
theorem step_wakeful (h : w.Wakeful) (m : Move) : (w.step m).Wakeful := by
  cases hcall : m.isCall with
  | true =>
      have hinterior := interior_of_isCall (w := w) hcall
      have hevents : (w.step m).events = w.events := congrArg Interior.events hinterior
      exact h.congr (congrArg Interior.loop hinterior) (congrArg Interior.tracker hinterior)
        (by rw [hevents]) (by rw [hevents])
  | false =>
      cases m with
      | iterate source chance => exact wakeful_iterate h source chance
      | attempt => exact wakeful_attempt h
      | leave x => exact wakeful_leave h x
      | expire x => exact wakeful_expire h x
      | admitEvent => exact wakeful_admitEvent h
      | launch => exact wakeful_launch h
      | drop => exact .of_ended rfl
      | conclude =>
          dsimp only [step, conclude]
          split
          · exact .of_ended rfl
          · exact h
      | takeProto =>
          dsimp only [step, takeProto]
          split
          · exact h.congr rfl rfl rfl rfl
          · split <;> exact h.congr rfl rfl rfl rfl
          · exact h
      | sweep =>
          dsimp only [step, sweep]
          split
          · exact h
          · split
            · exact h
            · exact h.congr rfl rfl rfl rfl
      | pass ms =>
          dsimp only [step, pass]
          split <;> exact h.congr rfl rfl rfl rfl
      | wallPass nanos => exact h.congr rfl rfl rfl rfl
      | poll | ban | request | resumeBan | admitUpdate | admitRequest => cases hcall

lemma create_wakeful (settings : Settings) (latency : Latency) (isDisabled : NodeId → Bool)
    (net : Network) (wall : Instant) : (create settings latency isDisabled net wall).Wakeful where
  is_open _ := rfl
  event _ hdraining := by cases hdraining

/-- **A drained loop always has a reason to look again**, in every state that any run reaches. -/
theorem run_wakeful (settings : Settings) (latency : Latency) (isDisabled : NodeId → Bool)
    (net : Network) (wall : Instant) (moves : List Move) :
    ((create settings latency isDisabled net wall).run moves).Wakeful := by
  suffices h : ∀ w : World, w.Wakeful → (w.run moves).Wakeful from
    h _ (create_wakeful settings latency isDisabled net wall)
  induction moves with
  | nil => exact fun _ h => h
  | cons m rest ih => exact fun _ h => ih _ (step_wakeful h m)

end MixRounds.Live.World
