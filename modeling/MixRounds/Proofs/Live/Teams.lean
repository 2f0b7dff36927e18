import MixRounds.Proofs.Live.Picture
import MixRounds.Proofs.Team.Relay

/-!
# Teams are promised and released

Between its turns the loop hears what became of the teams it has handed out, and hands out new ones.
An answer ends the reservation of a team, and the members of a refused one may go back to the pool
(`World.processEvent_sound`).  An attempt at a team takes nodes out of the pool and makes a promise of
them, or puts them back (`World.assembleOne_sound`).

One attempt is special.  The greatest number is never handed out, but asking for it wraps the counter
around, so that numbers in use would be drawn again.  That attempt ends the loop, and of a loop that
has ended nothing is claimed about numbers: this is what `Roster.admits` is for.  An attempt that the
loop breaks down in ends it too; the nodes it has picked stand nowhere any more.

`World.iterate_sound` puts the parts of a turn together.
-/

namespace MixRounds.Live.World

variable {w : World}

/-! ## The loop hears of its teams -/

/-- **A round that runs out of time** is left alone or failed; besides that something is counted. -/
lemma processTimeout_cases (w : World) (id : RoundId) (phase : TimedPhase) :
    ∃ s f, w.processTimeout id phase = ({ w with shared := s } : World).count f ∧
      (s = w.shared ∨ ∃ cause, s = (w.shared.kill w.wall id none cause).1) := by
  rw [processTimeout]
  split
  · exact ⟨w.shared, fun c => c, rfl, Or.inl rfl⟩
  · split
    · exact ⟨w.shared, fun c => c, rfl, Or.inl rfl⟩
    · split
      · exact ⟨w.shared, fun c => c, rfl, Or.inl rfl⟩
      · dsimp only
        split <;> rename_i shared heq
        · exact ⟨shared, fun c => { c with
            timeouts := c.timeouts + 1
            roundsFailed := c.roundsFailed + 1 }, rfl, Or.inr ⟨_, (congrArg Prod.fst heq).symm⟩⟩
        · exact ⟨shared, fun c => { c with timeouts := c.timeouts + 1 }, rfl,
            Or.inr ⟨_, (congrArg Prod.fst heq).symm⟩⟩

/-- Failing a round for a timer does not touch the picture. -/
lemma roster_kill (w : World) (id : RoundId) (cause : Cause) :
    ({ w with shared := (w.shared.kill w.wall id none cause).1 } : World).roster = w.roster := by
  have hnodes := Shared.kill_nodes w.shared w.wall id cause none
  refine (roster_shared w (fun j => by rw [hnodes]) (Shared.kill_counter ..)).trans ?_
  have hholding : (w.shared.kill w.wall id none cause).1.net.holding = w.shared.net.holding := by
    funext j
    simp [Network.holding, hnodes]
  have hteam : (w.shared.kill w.wall id none cause).1.net.team? = w.shared.net.team? := by
    funext j
    simp only [Network.team?, Shared.kill_get?_rounds]
    split
    · simp [Function.comp_def, Round.topology_fail]
    · rfl
  rw [hholding, hteam, Shared.kill_pool]
  rfl

lemma roster_processTimeout (w : World) (id : RoundId) (phase : TimedPhase) :
    (w.processTimeout id phase).roster = w.roster := by
  obtain ⟨s, f, heq, rfl | ⟨cause, rfl⟩⟩ := processTimeout_cases w id phase
  · rw [heq, roster_count]
  · rw [heq, roster_count, roster_kill]

lemma pool_processTimeout (w : World) (id : RoundId) (phase : TimedPhase) :
    (w.processTimeout id phase).shared.pool = w.shared.pool :=
  congrArg Roster.pool (roster_processTimeout w id phase)

/-- **The answer to a team ends its reservation.**  The answer has left the queue, which is `ch` now. -/
lemma unreserve_sound (h : w.roster.Sound) {ch : Channel Worker Event} {id : RoundId}
    {members : List NodeId} (hflight : w.roster.inFlight id = some members)
    (hs : (ch.messages.filterMap Event.started?).Sublist w.roster.started)
    (hr : (ch.messages.filterMap Event.refused?).Sublist w.roster.refused)
    (hid : id ∉ ({ w with events := ch } : World).roster.unanswered) :
    (({ w with events := ch } : World).unreserve id).roster.Sound := by
  have herase : (w.loop.inFlight.erase id).get?
      = fun j => if j = id then none else w.roster.inFlight j :=
    funext fun j => Table.get?_erase _ _ _
  have hget : w.loop.inFlight.get? id = some members := hflight
  have hsound := h.unreserve hflight hs hr hid
  rw [← herase] at hsound
  rw [unreserve]
  simp only [hget]
  exact hsound

lemma holding_of_returns {net : Network} {v : NodeId} (h : returns net.nodes v = true) :
    net.holding v = none := by
  rw [returns] at h
  cases hnode : net.nodes.get? v with
  | none => simp [Network.holding, hnode]
  | some node =>
      simp only [hnode, Option.any_some, Bool.and_eq_true, Option.isNone_iff_eq_none] at h
      rw [Network.holding_of_get? hnode]
      exact h.1.1

lemma processEvent_sound (h : w.roster.Sound) {e : Event} {ch : Channel Worker Event}
    (he : w.events.receive? = some (e, ch)) :
    (({ w with events := ch } : World).processEvent e).roster.Sound := by
  have hmessages : w.events.messages = e :: ch.messages := Channel.messages_receive? he
  have hstarted : w.roster.started = (e :: ch.messages).filterMap Event.started? := by
    rw [← hmessages]; rfl
  have hrefused : w.roster.refused = (e :: ch.messages).filterMap Event.refused? := by
    rw [← hmessages]; rfl
  have hnodup := h.unanswered_nodup
  rw [Roster.unanswered, hstarted, hrefused] at hnodup
  have hs : (ch.messages.filterMap Event.started?).Sublist w.roster.started :=
    hstarted ▸ (List.sublist_cons_self _ _).filterMap _
  have hr : (ch.messages.filterMap Event.refused?).Sublist w.roster.refused :=
    hrefused ▸ (List.sublist_cons_self _ _).filterMap _
  have hheard : ({ w with events := ch } : World).roster.Sound := h.forget (.refl _) hr hs id
  cases e with
  | timedOut id phase =>
      dsimp only [processEvent]
      rw [roster_processTimeout]
      exact hheard
  | started id =>
      have hmem : id ∈ w.roster.started := by simp [hstarted, Event.started?]
      obtain ⟨members, hflight⟩ := h.started_flight id hmem
      exact unreserve_sound h hflight hs hr (List.nodup_cons.1 hnodup).1
  | startFailed p fault =>
      have hmem : p ∈ w.roster.refused := by simp [hrefused, Event.refused?]
      have hflight : w.loop.inFlight.get? p.id = some p.topology := h.refused_flight p hmem
      have hunreserved := unreserve_sound h hflight hs hr
        (List.nodup_cons.1 (List.nodup_middle.1 hnodup)).1
      -- the members that go back are known, hold nothing, and are reserved no more
      refine Roster.Sound.join_all hunreserved (fun v hv => ?_) (fun v hv => ?_) fun v hv => ?_
      all_goals
        obtain ⟨hmember, hreturns⟩ := List.mem_filter.1 hv
        simp only [unreserve, hflight] at hreturns ⊢
      · exact h.flight_known _ _ hflight v hmember
      · exact holding_of_returns hreturns
      · simp [roster, hmember]
  | finished id => exact hheard

lemma processRequest_sound (h : w.roster.Sound) (r : Request) :
    (w.processRequest r).roster.Sound := by
  cases r <;> exact h

/-! ## The loop forms teams -/

/-- **What forming a team comes to.**  The counter moves on.  A formed team has the picked members and
the counter's number; if there is none, it is the counter that has run out, or a configuration that
does not allow the team, or costs that overflow. -/
lemma formTeam_spec (w : World) (picked : List NodeId) :
    (w.formTeam picked).2 = { w.shared.net with counter := ⟨w.shared.net.counter.next + 1⟩ } ∧
    ((∃ fault, (w.formTeam picked).1 = .error (.fault fault) ∧ fault.isConfiguration = false) ∨
      (w.shared.net.counter.next + 1).toNat = w.roster.next + 1 ∧
        ∀ p, (w.formTeam picked).1 = .ok p →
          p.topology.Perm picked ∧ p.id.toNat = w.roster.next) := by
  have hnet := w.shared.net.reserve_snd
  rw [formTeam]
  cases hdrawn : w.shared.net.reserve.1 with
  | error fault =>
      refine ⟨by simpa [hdrawn] using hnet, Or.inl ⟨fault, by simp [hdrawn], ?_⟩⟩
      simp only [Network.reserve, RoundCounter.reserve] at hdrawn
      split at hdrawn <;> cases hdrawn
      rfl
  | ok id =>
      obtain ⟨hid, hnext⟩ := Network.reserve_ok hdrawn
      simp only [hdrawn]
      split
      · exact ⟨hnet, Or.inr ⟨hnext, by rintro p ⟨⟩⟩⟩
      · rename_i members hmembers
        refine ⟨hnet, Or.inr ⟨hnext, ?_⟩⟩
        rintro p ⟨⟩
        have hperm := (Team.ordered_perm hmembers).map Prod.fst
        exact ⟨by simpa [tagged, Function.comp_def] using hperm, hid⟩

lemma roster_assemblyFailed (w : World) (picked : List NodeId) (fault : Fault) :
    (w.assemblyFailed picked fault).1.roster
      = { w.roster with pool := picked.foldl Pool.add w.roster.pool } := by
  rw [assemblyFailed]
  dsimp only
  split
  · rfl
  · split <;> rfl

lemma handsOut_assemblyFailed (w : World) (picked : List NodeId) (fault : Fault) :
    (w.assemblyFailed picked fault).1.handsOut = w.handsOut := by
  rw [assemblyFailed]
  dsimp only
  split
  · rfl
  · split <;> rfl

lemma assemblyFailed_of_not_isConfiguration (w : World) (picked : List NodeId) {fault : Fault}
    (h : fault.isConfiguration = false) :
    (w.assemblyFailed picked fault).2 = .fatal (.fault fault) := by
  simp [assemblyFailed, h]

lemma roster_teamFormed (w : World) (p : ProtoRound) :
    (w.teamFormed p).roster = { w.roster with
      inFlight := (w.loop.inFlight.insert p.id p.topology).get?
      reserved := p.topology.foldl (fun ids v => Pool.including v ids) w.loop.reserved
      pending := w.roster.pending ++ [p] } := by
  have hpending : (w.teamFormed p).pending = w.pending ++ [p] := by
    unfold pending teamFormed
    dsimp only
    split <;> simp
  simp only [roster, hpending]
  rfl

/-- **What an attempt does to the pool**: nothing; or nodes are picked, and they go back if they do not
make a team. -/
lemma pool_assembleOne (w : World) (chance : Shuffle) :
    (w.assembleOne chance).1.shared.pool = w.shared.pool ∨ ∃ picked pool,
      w.shared.pool.pick w.threshold w.settings.teamSize.toNat w.isDisabled chance = .ok (picked, pool) ∧
        ((w.assembleOne chance).1.shared.pool = pool ∨
          (w.assembleOne chance).1.shared.pool = picked.foldl Pool.add pool) := by
  rw [assembleOne]
  split
  · split <;> exact Or.inl rfl
  · rename_i picked pool hpick
    refine Or.inr ⟨picked, pool, hpick, ?_⟩
    dsimp only
    split
    · exact Or.inr (congrArg Roster.pool (roster_assemblyFailed _ picked _))
    · exact Or.inl rfl
    · exact Or.inl rfl

/-- Picked nodes, out of the pool, become a team or go back, or the loop breaks down. -/
lemma formed_sound {picked : List NodeId} (h : w.roster.Sound) (hrun : w.handsOut = true)
    (hnodup : picked.Nodup) (hknown : ∀ v ∈ picked, w.roster.known v)
    (hfree : ∀ v ∈ picked, w.roster.holding v = none) (hout : ∀ v ∈ picked, v ∉ w.roster.pool)
    (hres : ∀ v ∈ picked, v ∉ w.roster.reserved) :
    let result : World × Attempt := match w.formTeam picked with
      | (.error (.fault fault), net) =>
          (w.mapShared fun s => { s with net := net }).assemblyFailed picked fault
      | (.error .overflow, net) => (w.mapShared fun s => { s with net := net }, .fatal .overflow)
      | (.ok proto, net) =>
          ((w.mapShared fun s => { s with net := net }).teamFormed proto, .assembled)
    result.1.handsOut = true ∧ { result.1.roster with admits := False }.Sound ∧
      ((∀ setback, result.2 ≠ .fatal setback) → result.1.roster.Sound) := by
  obtain ⟨hnet, hspec⟩ := formTeam_spec w picked
  dsimp only
  split
  · rename_i fault net hform
    rw [hform] at hnet hspec
    dsimp only at hnet hspec
    subst hnet
    -- the picked nodes go back to where they come from, whatever the counter shows now
    have hback : ∀ admits : Prop, (admits → (w.shared.net.counter.next + 1).toNat
        = w.roster.next + 1) → { w.roster with
          next := (w.shared.net.counter.next + 1).toNat
          admits := admits
          pool := picked.foldl Pool.add w.roster.pool }.Sound := by
      intro admits hnext
      have hskip := h.skip (w.shared.net.counter.next + 1).toNat admits
        fun ha => ⟨hrun, by rw [hnext ha]; exact Nat.le_succ _⟩
      exact hskip.join_all hknown hfree hres
    refine ⟨?_, ?_, fun hfatal => ?_⟩
    · rw [handsOut_assemblyFailed]
      exact hrun
    · rw [roster_assemblyFailed]
      exact hback False False.elim
    · rw [roster_assemblyFailed]
      refine hback (w.handsOut = true) fun _ => ?_
      rcases hspec with ⟨fault', heq, hconf⟩ | ⟨hnext, -⟩
      · cases heq
        exact absurd (assemblyFailed_of_not_isConfiguration _ picked hconf) (hfatal (.fault fault))
      · exact hnext
  · rename_i net hform
    rw [hform] at hnet
    dsimp only at hnet
    subst hnet
    exact ⟨hrun, h.skip _ False False.elim, fun hfatal => absurd rfl (hfatal .overflow)⟩
  · rename_i p net hform
    rw [hform] at hnet hspec
    dsimp only at hnet
    subst hnet
    rcases hspec with ⟨fault, heq, -⟩ | ⟨hnext, hp⟩
    · cases heq
    obtain ⟨hperm, hid⟩ := hp p rfl
    have hpromise := h.promise (p := p)
      (p.topology.foldl (fun ids v => Pool.including v ids) w.loop.reserved)
      (hperm.nodup_iff.2 hnodup) (fun v hv => hknown v (hperm.mem_iff.1 hv))
      (fun v hv => hfree v (hperm.mem_iff.1 hv)) (fun v hv => hout v (hperm.mem_iff.1 hv))
      (fun v hv => hres v (hperm.mem_iff.1 hv)) hrun hid fun v => Pool.mem_foldl_including
    have hflight : (w.loop.inFlight.insert p.id p.topology).get?
        = fun j => if j = p.id then some p.topology else w.roster.inFlight j :=
      funext fun j => Table.get?_insert _ _ _ _
    rw [← hnext, ← hflight] at hpromise
    have hsound : ((w.mapShared fun s => { s with net := { w.shared.net with
        counter := ⟨w.shared.net.counter.next + 1⟩ } }).teamFormed p).roster.Sound := by
      rw [roster_teamFormed]
      exact hpromise
    exact ⟨hrun, hsound.forget (.refl _) (.refl _) (.refl _) False.elim, fun _ => hsound⟩

/-- **One attempt at a team** keeps the picture sound, unless it ends the loop; and then it is sound for a
loop that forms no more teams. -/
lemma assembleOne_sound (h : w.roster.Sound) (hrun : w.handsOut = true) (chance : Shuffle) :
    (w.assembleOne chance).1.handsOut = true ∧
    { (w.assembleOne chance).1.roster with admits := False }.Sound ∧
    ((∀ setback, (w.assembleOne chance).2 ≠ .fatal setback) →
      (w.assembleOne chance).1.roster.Sound) := by
  have hstill : { w.roster with admits := False }.Sound :=
    h.forget (.refl _) (.refl _) (.refl _) False.elim
  rw [assembleOne]
  split
  · split <;> exact ⟨hrun, hstill, fun _ => h⟩
  · rename_i picked pool hpick
    obtain ⟨hnodup, honline, rfl⟩ := Pool.pick_spec h.tidy hpick
    have hmem : ∀ v ∈ picked, v ∈ w.roster.pool := fun v hv => Or.inl (honline v hv)
    have hleft := h.of_pool (h.tidy.leave picked) fun j hj =>
      ((Pool.mem_leave h.tidy honline).1 hj).1
    exact formed_sound (w := w.mapShared fun s =>
        { s with pool := { s.pool with online := s.pool.online.filter fun v => v ∉ picked } })
      hleft hrun hnodup (fun v hv => h.pool_known v (hmem v hv))
      (fun v hv => h.pool_free v (hmem v hv))
      (fun v hv hin => ((Pool.mem_leave h.tidy honline).1 hin).2 hv)
      fun v hv => h.pool_unreserved v (hmem v hv)

/-- ... and so does any number of attempts. -/
lemma assembleFrom_sound (fuel : Nat) (chance : Nat → Shuffle) (h : w.roster.Sound)
    (hrun : w.handsOut = true) :
    { (assembleFrom fuel chance w).1.roster with admits := False }.Sound ∧
    ((assembleFrom fuel chance w).2 = none → (assembleFrom fuel chance w).1.roster.Sound) := by
  induction fuel generalizing w chance with
  | zero => exact ⟨h.forget (.refl _) (.refl _) (.refl _) False.elim, fun _ => h⟩
  | succ fuel ih =>
      obtain ⟨hrun', hfatal, hsound⟩ := assembleOne_sound h hrun (chance 0)
      rw [assembleFrom]
      split
      · rename_i after heq
        rw [heq] at hrun' hsound
        exact ih _ (hsound (by simp)) hrun'
      · rename_i after heq
        rw [heq] at hfatal hsound
        exact ⟨hfatal, fun _ => hsound (by simp)⟩
      · rename_i after setback heq
        rw [heq] at hfatal
        exact ⟨hfatal, by simp⟩

/-- Forming teams moves names and numbers about, and leaves nodes, rounds and queues alone. -/
lemma assembleOne_frame (w : World) (chance : Shuffle) :
    let w' := (w.assembleOne chance).1
    w'.shared.net.nodes = w.shared.net.nodes ∧ w'.shared.net.rounds = w.shared.net.rounds ∧
      w'.updates = w.updates ∧ w'.loop.stage = w.loop.stage := by
  rw [assembleOne]
  split
  · split <;> exact ⟨rfl, rfl, rfl, rfl⟩
  · rename_i picked pool hpick
    dsimp only
    have hnet := (formTeam_spec (w.mapShared fun s => { s with pool := pool }) picked).1
    split <;> rename_i net hform <;> rw [hform] at hnet <;> dsimp only at hnet <;> subst hnet
    · rw [assemblyFailed]
      dsimp only
      split
      · exact ⟨rfl, rfl, rfl, rfl⟩
      · split <;> exact ⟨rfl, rfl, rfl, rfl⟩
    · exact ⟨rfl, rfl, rfl, rfl⟩
    · exact ⟨rfl, rfl, rfl, rfl⟩

lemma assembleFrom_frame (fuel : Nat) (chance : Nat → Shuffle) (w : World) :
    let w' := (assembleFrom fuel chance w).1
    w'.shared.net.nodes = w.shared.net.nodes ∧ w'.shared.net.rounds = w.shared.net.rounds ∧
      w'.updates = w.updates ∧ w'.loop.stage = w.loop.stage := by
  induction fuel generalizing chance w with
  | zero => exact ⟨rfl, rfl, rfl, rfl⟩
  | succ fuel ih =>
      obtain ⟨hnodes, hrounds, hupdates, hstage⟩ := assembleOne_frame w (chance 0)
      rw [assembleFrom]
      split <;> rename_i heq <;> rw [heq] at hnodes hrounds hupdates hstage
      · obtain ⟨hnodes', hrounds', hupdates', hstage'⟩ := ih (fun i => chance (i + 1)) _
        exact ⟨hnodes'.trans hnodes, hrounds'.trans hrounds, hupdates'.trans hupdates,
          hstage'.trans hstage⟩
      · exact ⟨hnodes, hrounds, hupdates, hstage⟩
      · exact ⟨hnodes, hrounds, hupdates, hstage⟩

/-! ## The end of the loop -/

/-- What is the same after one caller was answered is the same after all were. -/
lemma foldl_frame {α β : Type} {answer : World → α → World} (read : World → β)
    (h : ∀ w a, read (answer w a) = read w) (callers : List α) (w : World) :
    read (callers.foldl answer w) = read w := by
  induction callers generalizing w with
  | nil => rfl
  | cons a rest ih => exact (ih _).trans (h w a)

lemma roster_closeQueues (w : World) :
    w.closeQueues.roster = { w.roster with started := [], refused := [] } := by
  have hclosed : ∀ w' : World, w'.roster = w.roster → ({ w' with
      updates := w'.updates.close
      events := w'.events.close
      requests := w'.requests.close
      loop := { w'.loop with acks := [] }
      starter := if w'.starter = .reporting then .absent else w'.starter } : World).roster
        = { w.roster with started := [], refused := [] } := by
    intro w' hw'
    rw [← hw']
    have hpending : ({ w' with
        starter := if w'.starter = .reporting then .absent else w'.starter } : World).pending
          = w'.pending := by
      simp only [pending]
      cases w'.starter <;> rfl
    rw [roster, roster, ← hpending]
    rfl
  have hanswered : ∀ (calls : List CallId) (w : World),
      (calls.foldl (fun w call => w.answer call (.refused .channelClosed)) w).roster = w.roster :=
    foldl_frame roster fun _ _ => rfl
  exact hclosed _ ((hanswered _ _).trans (foldl_frame roster roster_turnAway _ _))

lemma pool_closeQueues (w : World) : w.closeQueues.shared.pool = w.shared.pool :=
  congrArg Roster.pool (roster_closeQueues w)

lemma handsOut_finish (w : World) (result : Except Setback Unit) :
    (w.finish result).handsOut = false := by
  rcases result with (_ | _) | _ <;> simp [finish, handsOut, Stage.after]

/-- A loop that ends loses its mail and forms no more teams. -/
lemma finish_sound (h : { w.roster with admits := False }.Sound) (result : Except Setback Unit) :
    (w.finish result).roster.Sound := by
  have hroster : (w.finish result).roster = { w.closeQueues.roster with
      admits := (w.finish result).handsOut = true } := rfl
  rw [hroster, roster_closeQueues]
  have hended : ¬ (w.finish result).handsOut = true := by simp [handsOut_finish]
  exact h.forget (.refl _) (List.nil_sublist _) (List.nil_sublist _) fun hadmits =>
    absurd hadmits hended

lemma shared_acknowledge (w : World) : w.acknowledge.shared = w.shared := by
  have hanswered : ∀ (calls : List CallId) (w : World),
      (calls.foldl (fun w call => w.answer call .done) w).shared = w.shared :=
    foldl_frame shared fun _ _ => rfl
  exact hanswered w.loop.acks w

lemma roster_acknowledge (w : World) : w.acknowledge.roster = w.roster := by
  have hanswered : ∀ (calls : List CallId) (w : World),
      (calls.foldl (fun w call => w.answer call .done) w).roster = w.roster :=
    foldl_frame roster fun _ _ => rfl
  exact hanswered w.loop.acks w

/-- **How a turn ends**: the loop has formed what teams it could, or none because it admits no rounds any
more; and then it goes on, is over because it was drained, or ends with a setback. -/
lemma settleTurn_cases (w : World) (chance : Nat → Shuffle) :
    (∃ w', (w' = w ∨ w' = (w.assemble chance).1 ∧ (w.assemble chance).2 = none) ∧
      (w.settleTurn chance = w' ∨ w.settleTurn chance = w'.acknowledge.finish (.ok ()))) ∨
    ∃ setback, w.settleTurn chance = (w.assemble chance).1.finish (.error setback) := by
  rw [settleTurn]
  by_cases hstate : w.loop.runState = .running
  · simp only [hstate, if_true]
    split
    · exact Or.inr ⟨_, rfl⟩
    · rename_i hnone
      refine Or.inl ⟨_, Or.inr ⟨rfl, hnone⟩, ?_⟩
      split
      · exact Or.inr rfl
      · exact Or.inl rfl
  · simp only [hstate, if_false]
    refine Or.inl ⟨w, Or.inl rfl, ?_⟩
    split
    · exact Or.inr rfl
    · exact Or.inl rfl

lemma settleTurn_sound (h : w.roster.Sound) (hrun : w.handsOut = true) (chance : Nat → Shuffle) :
    (w.settleTurn chance).roster.Sound := by
  obtain ⟨hfatal, hsound⟩ := assembleFrom_sound (w.shared.pool.online.length + 1) chance h hrun
  rcases w.settleTurn_cases chance with ⟨w', hw', heq⟩ | ⟨setback, heq⟩
  · have h' : w'.roster.Sound := by
      rcases hw' with rfl | ⟨rfl, hnone⟩
      · exact h
      · exact hsound hnone
    rcases heq with heq | heq <;> rw [heq]
    · exact h'
    · refine finish_sound ?_ _
      rw [roster_acknowledge]
      exact h'.forget (.refl _) (.refl _) (.refl _) False.elim
  · rw [heq]
    exact finish_sound hfatal _

/-- Dealing with a message neither ends the loop nor touches what it knows of failed assemblies. -/
lemma loop_process (w : World) (m : Message) : (w.process m).loop.stage = w.loop.stage ∧
    (w.process m).loop.failures = w.loop.failures ∧
    (w.process m).loop.counters.assemblyFailures = w.loop.counters.assemblyFailures := by
  cases m with
  | update n =>
      dsimp only [process, processUpdate]
      split <;> exact ⟨rfl, rfl, rfl⟩
  | event e =>
      cases e with
      | timedOut id phase =>
          dsimp only [process, processEvent, processTimeout]
          split
          · exact ⟨rfl, rfl, rfl⟩
          · split
            · exact ⟨rfl, rfl, rfl⟩
            · split
              · exact ⟨rfl, rfl, rfl⟩
              · split <;> exact ⟨rfl, rfl, rfl⟩
      | started id | startFailed p fault =>
          dsimp only [process, processEvent, unreserve]
          split <;> exact ⟨rfl, rfl, rfl⟩
      | finished id => exact ⟨rfl, rfl, rfl⟩
  | request r => cases r <;> exact ⟨rfl, rfl, rfl⟩

lemma stage_process (w : World) (m : Message) : (w.process m).loop.stage = w.loop.stage :=
  (loop_process w m).1

lemma handsOut_of_isRunning (h : w.isRunning = true) : w.handsOut = true := by
  rw [isRunning] at h
  rw [handsOut]
  split at h <;> simp_all

lemma loop_take? {source : Source} {m : Message} {w' : World} (h : w.take? source = some (m, w')) :
    w'.loop = w.loop := by
  cases source <;> simp only [take?, Option.map_eq_some_iff] at h <;> obtain ⟨_, _, heq⟩ := h <;>
    cases heq <;> rfl

/-- **A message keeps the picture sound**, wherever it comes from. -/
lemma process_sound (h : w.roster.Sound) {source : Source} {m : Message} {w' : World}
    (htake : w.take? source = some (m, w')) : (w'.process m).roster.Sound := by
  cases source <;> simp only [take?, Option.map_eq_some_iff] at htake <;>
    obtain ⟨⟨message, ch⟩, hreceive, heq⟩ := htake <;> cases heq
  · exact processUpdate_sound (w := { w with updates := ch }) h message
  · exact processEvent_sound h hreceive
  · exact processRequest_sound (w := { w with requests := ch }) h message

/-- **A turn of the loop keeps the picture sound.** -/
lemma iterate_sound (h : w.roster.Sound) (source : Source) (chance : Nat → Shuffle) :
    (w.iterate source chance).roster.Sound := by
  rw [iterate]
  split
  · rename_i hrunning
    split
    · exact h
    · rename_i m w' htake
      refine settleTurn_sound (process_sound h htake) ?_ chance
      have hrun := handsOut_of_isRunning hrunning
      rwa [handsOut, stage_process, loop_take? htake]
  · exact h

end MixRounds.Live.World
