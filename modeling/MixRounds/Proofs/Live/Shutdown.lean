import MixRounds.Proofs.Live.Reception

/-!
# Shutdown

A loop that was asked to shut down goes on until nothing is tracked and no team is on its way to the starter,
and then acknowledges every request at once.  A round is always in one of the two places: its team is in
flight until the loop has heard of the start, and by then the round is tracked, and stays so until it is at
its end.

**`World.shutsDown_of_run`** says of every run that no team is formed once a request was dealt with, that
no request is acknowledged before the others, and that all rounds are at their end when they are, for good.
-/

namespace MixRounds

lemma Round.fail_of_isTerminal {r : Round} (h : r.phase.isTerminal = true) (now : Instant) :
    (r.fail now).2 = r := by
  rw [fail, if_pos h]

namespace Round.Change

/-- No move makes a round that waits to be started. -/
lemma ne_pending {r r' : Option Round} (h : Change r r') (hbefore : r.map phase ≠ some .pending) :
    r'.map phase ≠ some .pending := by
  cases h with
  | absent => exact hbefore
  | start hphase => simp [hphase]
  | stay hphase => simpa [hphase] using hbefore
  | fail _ hafter => simp [hafter]
  | @advance r r' hmay hready =>
      intro hpending
      rw [Option.map_some, Option.some.injEq] at hpending
      rw [hpending] at hmay
      cases hphase : r.phase <;> simp [hphase, Phase.mayAdvance] at hmay

end Round.Change

namespace Live

namespace World

variable {w : World}

/-! ## The requests -/

/-- The shutdown requests that the loop deals with in a run, in order. -/
def shutdowns (w : World) : List Move → List CallId
  | [] => []
  | m :: rest => (w.shutdown? m).toList ++ (w.step m).shutdowns rest

lemma shutdowns_append (w : World) (before after : List Move) :
    w.shutdowns (before ++ after) = w.shutdowns before ++ (w.run before).shutdowns after := by
  induction before generalizing w with
  | nil => rfl
  | cons m rest ih => rw [List.cons_append, shutdowns, shutdowns, ih, List.append_assoc]; rfl

/-- **A request waits** until the loop ends. -/
lemma acks_of_step {m : Move} (hgoes : (w.step m).handsOut = true) :
    (w.step m).loop.acks = w.loop.acks ++ (w.shutdown? m).toList := by
  cases htaken : w.taken? m with
  | none =>
      obtain ⟨stage, acks, hloop, hsame⟩ := loop_of_taken_eq_none htaken
      simp [hloop, hsame hgoes, shutdown?, htaken]
  | some message =>
      obtain ⟨source, chance, w', -, htake, hstep⟩ := step_of_taken htaken
      rw [hstep] at hgoes ⊢
      have hsettled : ((w'.process message).settleTurn chance).loop.acks
          = (w'.process message).loop.acks := by
        rcases settleTurn_of_handsOut hgoes with heq | heq <;> rw [heq]
        exact congrArg Reception.acks (reception_assemble _ chance)
      rw [hsettled, (processed w' message).acks, loop_take? htake, shutdown?, htaken]
      rfl

lemma acks_of_run {moves : List Move} (hgoes : (w.run moves).handsOut = true) :
    (w.run moves).loop.acks = w.loop.acks ++ w.shutdowns moves := by
  induction moves generalizing w with
  | nil => simp [shutdowns]
  | cons m rest ih =>
      have hnext : (w.step m).handsOut = true := handsOut_of_run hgoes
      rw [run_cons, ih hgoes, acks_of_step hnext, shutdowns, List.append_assoc]

/-- **The turn that deals with a request** forms no teams. -/
lemma runState_of_shutdown {m : Move} {call : CallId} (h : w.shutdown? m = some call) :
    (w.step m).loop.runState ≠ .running := by
  obtain ⟨message, htaken, hcall⟩ := Option.bind_eq_some_iff.1 h
  obtain ⟨source, chance, w', -, -, hstep⟩ := step_of_taken htaken
  have hdrains : (w'.process message).loop.runState ≠ .running := by
    rw [(processed w' message).runState, hcall]
    split
    · simp
    · rename_i hother
      exact fun hrunning => hother ⟨rfl, hrunning⟩
  rw [hstep]
  exact (winds_settleTurn (.refl hdrains) chance).drains

/-- The loop acknowledges the shutdown in a move. -/
def Acknowledges (w : World) (m : Move) : Prop :=
  w.loop.runState ≠ .stopped ∧ (w.step m).loop.runState = .stopped

instance (w : World) (m : Move) : Decidable (w.Acknowledges m) := inferInstanceAs (Decidable (_ ∧ _))

/-- **An acknowledgement** comes at the end of a turn after which nothing is tracked, and nothing is on its
way to the starter. -/
lemma step_of_acknowledges {m : Move} (h : w.Acknowledges m) : ∃ source message w', w.isRunning = true ∧
    w.taken? m = some message ∧ w.take? source = some (message, w') ∧
      (w'.process message).isQuiescent = true ∧
      w.step m = (w'.process message).acknowledge.finish (.ok ()) := by
  obtain ⟨hbefore, hafter⟩ := h
  cases htaken : w.taken? m with
  | none =>
      obtain ⟨stage, acks, hloop, -⟩ := loop_of_taken_eq_none htaken
      rw [hloop] at hafter
      exact absurd hafter hbefore
  | some message =>
      obtain ⟨source, chance, w', hrunning, htake, hstep⟩ := step_of_taken htaken
      refine ⟨source, message, w', hrunning, rfl, htake, ?_⟩
      rw [hstep] at hafter ⊢
      have hdrains : (w'.process message).loop.runState ≠ .running := fun hrun => by
        rw [settleTurn_of_running hrun] at hafter
        cases hafter
      rw [settleTurn_of_ne_running hdrains] at hafter ⊢
      split at hafter
      · rename_i hdrained
        rw [if_pos hdrained]
        exact ⟨hdrained.2, rfl⟩
      · -- a message does not stop the loop by itself
        rw [(processed w' message).runState, loop_take? htake] at hafter
        split at hafter
        · cases hafter
        · exact absurd hafter hbefore

/-! ## When all is over -/

/-- The loop takes nothing any more, no team is on its way, and all rounds are at their end. -/
structure Over (w : World) : Prop where
  ended : w.handsOut = false
  pending : w.pending = []
  terminal : ∀ id r, w.ledger.rounds id = some r → r.phase.isTerminal = true

lemma taken?_of_ended (h : w.handsOut = false) (m : Move) : w.taken? m = none := by
  have hstopped : w.isRunning = false := by
    by_contra hrunning
    rw [handsOut_of_isRunning (by simpa using hrunning)] at h
    cases h
  cases m with
  | iterate source chance => simp [taken?, hstopped]
  | _ => rfl

lemma delivered?_of_taken_eq_none {m : Move} (h : w.taken? m = none) : w.delivered? m = none := by
  cases m with
  | iterate source chance =>
      cases source with
      | updates =>
          rw [taken?] at h
          rw [delivered?]
          split
          · rename_i hrunning
            rw [if_pos hrunning, take?, Option.map_map, Option.map_eq_none_iff] at h
            rw [h]
            rfl
          · rfl
      | events | requests => rfl
  | _ => rfl

/-- **No move changes a round** when all is over. -/
lemma Over.rounds_step (h : w.Over) (hr : w.roster.Sound) (m : Move) :
    (w.step m).ledger.rounds = w.ledger.rounds := by
  have hnone : w.delivered? m = none := delivered?_of_taken_eq_none (taken?_of_ended h.ended m)
  rcases ledger_of_not_delivered hr hnone with heq | ⟨failed, heq⟩ | ⟨p, hp, -⟩
  · rw [heq]
  · rw [heq]
    funext id
    simp only [Ledger.fail]
    split
    · cases hround : w.ledger.rounds id with
      | none => rfl
      | some r => rw [Option.map_some, Round.fail_of_isTerminal (h.terminal id r hround)]
    · rfl
  · rw [h.pending] at hp
    cases hp

lemma Over.step (h : w.Over) (hr : w.roster.Sound) (m : Move) : (w.step m).Over where
  ended := by
    by_contra hgoes
    have hbefore := handsOut_of_step (by simpa using hgoes : (w.step m).handsOut = true)
    rw [h.ended] at hbefore
    cases hbefore
  pending := by
    refine List.eq_nil_iff_forall_not_mem.2 fun p hp => ?_
    have hbefore : p ∈ w.pending := mem_pending_of_taken_eq_none (taken?_of_ended h.ended m) hp
    rw [h.pending] at hbefore
    cases hbefore
  terminal id r hround := h.terminal id r (by rwa [h.rounds_step hr m] at hround)

lemma Over.rounds_run (h : w.Over) (hr : w.roster.Sound) (moves : List Move) :
    (w.run moves).ledger.rounds = w.ledger.rounds := by
  induction moves generalizing w with
  | nil => rfl
  | cons m rest ih => exact (ih (h.step hr m) (step_sound hr m)).trans (h.rounds_step hr m)

/-! ## The acknowledgement -/

lemma run_ne_pending (hr : w.roster.Sound) {id : RoundId}
    (h : (w.ledger.rounds id).map Round.phase ≠ some .pending) (moves : List Move) :
    ((w.run moves).ledger.rounds id).map Round.phase ≠ some .pending := by
  induction moves generalizing w with
  | nil => exact h
  | cons m rest ih => exact ih (step_sound hr m) ((step_change hr m id).ne_pending h)

/-- A round that has been started does not get lost. -/
lemma rounds_ne_none_of_run (hr : w.roster.Sound) {id : RoundId} (h : w.ledger.rounds id ≠ none)
    (moves : List Move) : (w.run moves).ledger.rounds id ≠ none := by
  induction moves generalizing w with
  | nil => exact h
  | cons m rest ih =>
      refine ih (step_sound hr m) fun hgone => ?_
      have hchange := step_change hr m id
      obtain ⟨r, hround⟩ := Option.ne_none_iff_exists'.1 h
      rw [hround, hgone] at hchange
      cases hchange

/-- Nothing is in flight after an acknowledgement, and nothing is tracked. -/
lemma quiet_of_acknowledges {m : Move} (h : w.Acknowledges m) :
    (w.step m).handsOut = false ∧ (w.step m).loop.inFlight.isEmpty = true ∧
      (w.step m).shared.tracker = [] := by
  obtain ⟨source, message, w', -, -, -, hquiet, hstep⟩ := step_of_acknowledges h
  rw [isQuiescent, Bool.and_eq_true, List.isEmpty_iff] at hquiet
  have htracker : ((w'.process message).acknowledge.finish (.ok ())).shared.tracker
      = (w'.process message).shared.tracker := by
    have htimers := congrArg Timers.tracker (timers_finish (w'.process message).acknowledge (.ok ()))
    exact htimers.trans (congrArg Shared.tracker (shared_acknowledge _))
  refine ⟨?_, ?_, ?_⟩ <;> rw [hstep]
  · exact handsOut_finish _ _
  · rw [loop_finish, loop_acknowledge]
    exact hquiet.2
  · rw [htracker]
    exact hquiet.1

/-- **Then all is over**: a team on its way would be in flight, and a round that is not at its end would be
tracked. -/
lemma over_of_acknowledges {m : Move} (h : w.Acknowledges m) (hr : w.roster.Sound) {out : RoundId → Prop}
    (htracked : (w.step m).timers.Tracked out)
    (hstarted : ∀ id, ((w.step m).ledger.rounds id).map Round.phase ≠ some .pending) : (w.step m).Over := by
  obtain ⟨hended, hflight, htracker⟩ := quiet_of_acknowledges h
  have hlanded : ∀ id, (w.step m).loop.inFlight.get? id = none := by
    intro id
    rw [Table.isEmpty, List.isEmpty_iff] at hflight
    rw [Table.get?, hflight, Table.lookupIn]
  refine ⟨hended, List.eq_nil_iff_forall_not_mem.2 fun p hp => ?_, fun id r hround => ?_⟩
  · have hteam := (step_sound hr m).pending_flight p hp
    rw [show (w.step m).roster.inFlight p.id = none from hlanded p.id] at hteam
    cases hteam
  · have huntracked : id ∉ (w.step m).timers.tracker := by
      rw [show (w.step m).timers.tracker = [] from htracker]
      exact List.not_mem_nil
    have hphase : (w.step m).timers.phase id = some r.phase := phase_timers_eq_some.2 ⟨r, hround, rfl⟩
    have hlive := mt (htracked.mem_iff id).2 huntracked
    have hpending := hstarted id
    rw [hround] at hpending
    rw [hphase] at hlive
    cases hp : r.phase with
    | pending => simp [hp] at hpending
    | precomputing => simp [hp] at hlive
    | realtime => simp [hp] at hlive
    | completed | failed => rfl

/-- What an acknowledgement says: the run `earlier` ends with it, in the move `m`. -/
structure Acknowledged (w : World) (earlier : List Move) (m : Move) : Prop where
  /-- Every round that was ever started is at its end. -/
  ended : ∀ before after id, earlier ++ [m] = before ++ after →
    (w.run before).shared.net.rounds.get? id ≠ none →
      (w.run (earlier ++ [m])).shared.net.phase? id = some .completed ∨
        (w.run (earlier ++ [m])).shared.net.phase? id = some .failed
  /-- No team is on its way to the starter, or waits for it, or for the loop to hear of it. -/
  landed : (w.run (earlier ++ [m])).loop.inFlight.isEmpty = true ∧ (w.run (earlier ++ [m])).pending = []
  /-- Everybody who has asked for it is told that it is done, in this very move. -/
  told : ∃ replies refusals, (w.run (earlier ++ [m])).answers = (w.run earlier).answers ++ replies ++
      ((w.shutdowns (earlier ++ [m])).map fun call => (call, .done)) ++ refusals ∧
    (∀ a ∈ replies, ∃ metrics, a.2 = .metrics metrics) ∧ ∀ a ∈ refusals, a.2 = .refused .channelClosed
  /-- No round is started afterwards, or changed. -/
  final : ∀ later id, (w.run (earlier ++ m :: later)).shared.net.rounds.get? id
    = (w.run (earlier ++ [m])).shared.net.rounds.get? id

/-- A run shuts down in good order. -/
structure ShutsDown (w : World) (moves : List Move) : Prop where
  /-- From the turn on that deals with a request, no team is formed. -/
  winds : ∀ earlier m later call, moves = earlier ++ m :: later →
    (w.run earlier).shutdown? m = some call → Winds (w.run earlier) (w.run moves)
  /-- As long as the loop goes on, the requests wait. -/
  waits : (w.run moves).handsOut = true → (w.run moves).loop.acks = w.shutdowns moves
  /-- Until then nobody is told that it is done, unless it is a ban. -/
  early : (w.run moves).loop.runState ≠ .stopped →
    ∀ call, (call, .done) ∈ (w.run moves).answers → ∃ v, .ban call v ∈ moves
  acknowledged : ∀ m, (w.run moves).Acknowledges m → w.Acknowledged moves m

lemma told_of_acknowledges {m : Move} (h : w.Acknowledges m) : ∃ replies refusals,
    (w.step m).answers = w.answers ++ replies ++
      ((w.loop.acks ++ (w.shutdown? m).toList).map fun call => (call, .done)) ++ refusals ∧
    (∀ a ∈ replies, ∃ metrics, a.2 = .metrics metrics) ∧ ∀ a ∈ refusals, a.2 = .refused .channelClosed := by
  obtain ⟨source, message, w', -, htaken, htake, -, hstep⟩ := step_of_acknowledges h
  obtain ⟨replies, hreplies, hmetrics⟩ := answers_process w' message
  obtain ⟨refusals, hrefusals, hrefused⟩ := answers_closeQueues (w'.process message).acknowledge
  have hacks : (w'.process message).loop.acks = w.loop.acks ++ (w.shutdown? m).toList := by
    rw [(processed w' message).acks, loop_take? htake, shutdown?, htaken]
    rfl
  have hbefore : w'.answers = w.answers := by rw [take?_eq htake]
  have hafter : (w.step m).answers = (w'.process message).acknowledge.closeQueues.answers := by
    rw [hstep]
    rfl
  refine ⟨replies, refusals, ?_, hmetrics, hrefused⟩
  rw [hafter, hrefusals, answers_acknowledge, hreplies, hbefore, hacks]

lemma acknowledged_of_acknowledges (hr : w.roster.Sound) {out : RoundId → Prop}
    (htracked : w.timers.Tracked out) (hnone : ∀ id, w.ledger.rounds id = none) (hacks : w.loop.acks = [])
    {moves : List Move} {m : Move} (hack : (w.run moves).Acknowledges m) : w.Acknowledged moves m := by
  have hrun : w.run (moves ++ [m]) = (w.run moves).step m := run_append w moves [m]
  obtain ⟨hended, hflight, -⟩ := quiet_of_acknowledges hack
  have hover : (w.run (moves ++ [m])).Over := by
    have htimers := run_tracked hr htracked (moves ++ [m])
    have hstarted : ∀ id, ((w.run (moves ++ [m])).ledger.rounds id).map Round.phase ≠ some .pending :=
      fun id => run_ne_pending hr (by simp [hnone]) _
    rw [hrun] at htimers hstarted ⊢
    exact over_of_acknowledges hack (run_sound hr moves) htimers hstarted
  refine ⟨fun before after id hsplit hstarted => ?_, ?_, ?_, fun later id => ?_⟩
  · have hthere : (w.run (moves ++ [m])).ledger.rounds id ≠ none := by
      rw [hsplit, run_append]
      exact rounds_ne_none_of_run (run_sound hr before) hstarted after
    obtain ⟨r, hround⟩ := Option.ne_none_iff_exists'.1 hthere
    have hphase : (w.run (moves ++ [m])).shared.net.phase? id = some r.phase :=
      Option.map_eq_some_iff.2 ⟨r, hround, rfl⟩
    have hterminal := hover.terminal id r hround
    rw [hphase]
    cases hp : r.phase <;> simp [hp, Phase.isTerminal] at hterminal ⊢
  · exact ⟨hrun ▸ hflight, hover.pending⟩
  · obtain ⟨replies, refusals, hanswers, hmetrics, hrefused⟩ := told_of_acknowledges hack
    have hgoes : (w.run moves).handsOut = true := by
      obtain ⟨_, _, _, hrunning, -⟩ := step_of_acknowledges hack
      exact handsOut_of_isRunning hrunning
    have hwaiting := acks_of_run hgoes
    rw [hacks, List.nil_append] at hwaiting
    have hrequests : w.shutdowns (moves ++ [m])
        = (w.run moves).loop.acks ++ ((w.run moves).shutdown? m).toList := by
      rw [shutdowns_append, hwaiting]
      simp [shutdowns]
    exact ⟨replies, refusals, by rw [hrun, hanswers, hrequests], hmetrics, hrefused⟩
  · have hrounds := hover.rounds_run (run_sound hr _) later
    rw [← run_append, List.append_assoc] at hrounds
    exact congrFun hrounds id

/-- **Every run shuts down in good order.** -/
theorem shutsDown_of_run (settings : Settings) (latency : Latency) (isDisabled : NodeId → Bool)
    {net : Network} (wall : Instant) (hidle : net.Idle) (moves : List Move) :
    (create settings latency isDisabled net wall).ShutsDown moves := by
  have hr := create_sound settings latency isDisabled wall hidle
  refine ⟨?_, acks_of_run, fun hstate call hcall => ?_, fun m => ?_⟩
  · rintro earlier m later call rfl hcall
    rw [run_append]
    exact run_winds (step_winds (runState_of_shutdown hcall)) later
  · have hcandid := (create_candid settings latency isDisabled net wall).run moves
    exact mem_bans.1 (hcandid.told hstate call hcall)
  · exact acknowledged_of_acknowledges hr (create_tracked settings latency isDisabled wall hidle)
      hidle.rounds rfl

/-- A round of one member, during which two callers ask for a shutdown. -/
def closing : List Move :=
  gather ["a"] ++ kickoff ++ [.request (.shutdown 1), .iterate .requests fun _ => .still] ++
    [.precomputing, .standby, .realtime].flatMap (reporting "a") ++
    [.request (.shutdown 2), .iterate .requests fun _ => .still] ++ reporting "a" .completed ++
    [.leave ⟨⟨1⟩, .realtime, 15000⟩]

/-- Both are told that it is done once the round has completed. -/
theorem shutsDown_of_closing : (smallNetwork ["a"]).Idle ∧ (small ["a"]).ShutsDown closing ∧
    ((small ["a"]).run closing).Acknowledges (.iterate .events fun _ => .still) ∧
    (small ["a"]).shutdowns closing = [1, 2] :=
  ⟨idle_smallNetwork _, shutsDown_of_run _ _ _ _ (idle_smallNetwork _) closing, by decide +kernel,
    by decide +kernel⟩

end World

end Live

end MixRounds
