import Mathlib.Data.List.Induction
import MixRounds.Proofs.Live.Frame
import MixRounds.Proofs.Live.Reservation

/-!
# No team is left waiting, as far as the loop can see

The loop forms teams at the end of every turn, and goes on until a pick is refused: too few of the waiting
nodes may be picked.  Every team takes at least one node out of the pool, so the loop never stops for want
of attempts, and after the turn fewer nodes are `eligible` than a pick needs — unless the team that was
picked last could not be put in order, which is counted (`World.eligible_lt_need_of_turn`).

Between two turns it is others who change the pool.  A poll brings a node back that the sweep has moved
offline; and the sweep itself makes nodes inactive, which lowers the threshold.  Neither tells the loop.
**`World.eligible_lt_need`** says that there is no other reason: in every reachable state in which the loop
admits rounds, fewer nodes are eligible than a pick needs, or the last attempt of the last turn has failed,
or since then a poll has brought an eligible node back, or the need has fallen.
`World.leavesWaiting_of_comeback_and_departure` shows a run for each of the last two: a team is left
waiting, until the next message.
-/

namespace MixRounds

/-- A valid team has a member. -/
lemma Settings.teamSize_pos_of_validate {s : Settings} (h : s.validate = .ok ()) :
    0 < s.teamSize.toNat := by
  by_contra hzero
  have hsize : s.teamSize = 0 := by
    apply UInt64.toNat_inj.1
    simpa using hzero
  simp [Settings.validate, Settings.complaint?, hsize] at h

namespace Live.World

variable {w : World}

/-- How many waiting nodes may be picked. -/
def eligible (w : World) : Nat := (w.shared.pool.eligible w.isDisabled).length

/-- How many a pick needs. -/
def need (w : World) : Nat := max w.threshold w.settings.teamSize.toNat

/-! ## The attempts of a turn -/

/-- **A pick that is refused** finds fewer eligible nodes than it needs. -/
lemma eligible_lt_need_of_pick {chance : Shuffle} {fault : Fault}
    (h : w.shared.pool.pick w.threshold w.settings.teamSize.toNat w.isDisabled chance
      = .error fault) : w.eligible < w.need := by
  simp only [Pool.pick] at h
  split at h
  · rename_i hfew
    exact hfew.elim (fun h => Nat.lt_of_lt_of_le h (Nat.le_max_left _ _))
      fun h => Nat.lt_of_lt_of_le h (Nat.le_max_right _ _)
  · cases h

/-- **A pick that succeeds** takes a team out of the online nodes. -/
lemma online_of_pick {p pool : Pool} {threshold n : Nat} {isDisabled : NodeId → Bool}
    {chance : Shuffle} {picked : List NodeId} (hn : 0 < n)
    (h : p.pick threshold n isDisabled chance = .ok (picked, pool)) :
    pool.online.length < p.online.length := by
  simp only [Pool.pick] at h
  split at h
  · cases h
  · rename_i hmany
    cases h
    have hperm := chance.perm (p.eligible isDisabled)
    have hpicked : (chance.order (p.eligible isDisabled)).take n ≠ [] := by
      rw [ne_eq, List.take_eq_nil_iff, not_or]
      refine ⟨by omega, fun hnil => ?_⟩
      have hlength := hperm.length_eq
      rw [hnil, List.length_nil] at hlength
      omega
    obtain ⟨v, hv⟩ := List.exists_mem_of_ne_nil _ hpicked
    have honline : v ∈ p.online :=
      (List.mem_filter.1 (hperm.mem_iff.1 (List.mem_of_mem_take hv))).1
    exact List.length_filter_lt_length_iff_exists.2 ⟨v, honline, by simpa using hv⟩

lemma assemblyFailures_assemblyFailed (w : World) (picked : List NodeId) (fault : Fault) :
    (w.assemblyFailed picked fault).1.loop.counters.assemblyFailures
      = w.loop.counters.assemblyFailures + 1 := by
  rw [assemblyFailed]
  dsimp only
  split
  · rfl
  · split <;> rfl

/-- **What an attempt comes to**, unless it ends the loop: a team, and fewer online nodes; a failure that is
counted; or nothing, for too few nodes are eligible. -/
lemma assembleOne_cases (hteam : 0 < w.settings.teamSize.toNat) {chance : Shuffle} {w' : World}
    {attempt : Attempt} (h : w.assembleOne chance = (w', attempt)) :
    (∃ setback, attempt = .fatal setback) ∨
    (attempt = .assembled ∧ w'.shared.pool.online.length < w.shared.pool.online.length ∧
      w'.settings = w.settings ∧
      w'.loop.counters.assemblyFailures = w.loop.counters.assemblyFailures) ∨
    (attempt = .givenUp ∧ (w'.eligible < w'.need ∨
      w.loop.counters.assemblyFailures < w'.loop.counters.assemblyFailures)) := by
  rw [assembleOne] at h
  split at h
  · rename_i fault hpick
    split at h <;> cases h
    · exact Or.inr (Or.inr ⟨rfl, Or.inl (eligible_lt_need_of_pick hpick)⟩)
    · exact Or.inl ⟨.fault fault, rfl⟩
  · rename_i picked pool hpick
    have honline := online_of_pick hteam hpick
    dsimp only at h
    split at h
    · rename_i fault net hform
      have hcount := assemblyFailures_assemblyFailed
        ((w.mapShared fun s => { s with pool := pool }).mapShared fun s => { s with net := net })
        picked fault
      rw [h] at hcount
      cases attempt with
      | assembled =>
          exfalso
          rw [assemblyFailed] at h
          dsimp only at h
          split at h
          · cases h
          · split at h <;> cases h
      | givenUp => exact Or.inr (Or.inr ⟨rfl, Or.inr (by rw [hcount]; exact Nat.lt_succ_self _)⟩)
      | fatal setback => exact Or.inl ⟨setback, rfl⟩
    · cases h
      exact Or.inl ⟨.overflow, rfl⟩
    · cases h
      exact Or.inr (Or.inl ⟨rfl, honline, rfl, rfl⟩)

/-- **The loop does not run out of attempts**: they end with too few eligible nodes, or with a failure. -/
lemma eligible_lt_need_of_assembleFrom {fuel : Nat} {chance : Nat → Shuffle}
    (hteam : 0 < w.settings.teamSize.toNat) (hfuel : w.shared.pool.online.length < fuel)
    (hnone : (assembleFrom fuel chance w).2 = none) :
    (assembleFrom fuel chance w).1.eligible < (assembleFrom fuel chance w).1.need ∨
      w.loop.counters.assemblyFailures
        < (assembleFrom fuel chance w).1.loop.counters.assemblyFailures := by
  induction fuel generalizing w chance with
  | zero => exact absurd hfuel (Nat.not_lt_zero _)
  | succ fuel ih =>
      rcases hone : w.assembleOne (chance 0) with ⟨w', attempt⟩
      simp only [assembleFrom, hone] at hnone ⊢
      rcases assembleOne_cases hteam hone with
        ⟨setback, rfl⟩ | ⟨rfl, honline, hsettings, hcount⟩ | ⟨rfl, hend⟩
      · simp at hnone
      · rw [← hcount]
        exact ih (hsettings ▸ hteam) (by omega) hnone
      · exact hend

/-! ## A turn -/

/-- A turn of the loop with a message. -/
def isTurn (w : World) : Move → Bool
  | .iterate source _ => w.isRunning && (w.take? source).isSome
  | _ => false

lemma step_of_isTurn {m : Move} (h : w.isTurn m = true) : ∃ source chance message w',
    w.isRunning = true ∧ w.take? source = some (message, w') ∧
      w.step m = (w'.process message).settleTurn chance := by
  cases m with
  | iterate source chance =>
      simp only [isTurn, Bool.and_eq_true, Option.isSome_iff_exists] at h
      obtain ⟨hrunning, ⟨message, w'⟩, htake⟩ := h
      exact ⟨source, chance, message, w', hrunning, htake, step_of_take? chance hrunning htake⟩
  | _ => cases h

lemma step_iterate_of_not_isTurn {source : Source} {chance : Nat → Shuffle}
    (h : w.isTurn (.iterate source chance) = false) : w.iterate source chance = w := by
  rw [iterate]
  split
  · rename_i hrunning
    have hnone : w.take? source = none := by simpa [isTurn, hrunning] using h
    simp [hnone]
  · rfl

/-- The last attempt at a team in a turn has failed. -/
def failsIn (w : World) (m : Move) : Prop :=
  w.loop.counters.assemblyFailures < (w.step m).loop.counters.assemblyFailures

/-- **After a turn no team is left**, unless the last attempt at one has failed. -/
lemma eligible_lt_need_of_turn (hteam : 0 < w.settings.teamSize.toNat) {m : Move}
    (hturn : w.isTurn m = true) (hgoes : (w.step m).handsOut = true)
    (hstate : (w.step m).loop.runState = .running) :
    (w.step m).eligible < (w.step m).need ∨ w.failsIn m := by
  obtain ⟨source, chance, message, w', -, htake, hstep⟩ := step_of_isTurn hturn
  have hsettings : (w'.process message).settings = w.settings := by rw [process_eq, take?_eq htake]
  rw [failsIn]
  rw [hstep] at hgoes hstate ⊢
  have hstart : (w'.process message).loop.counters.assemblyFailures
      = w.loop.counters.assemblyFailures := by rw [(loop_process w' message).2.2, loop_take? htake]
  rw [← hstart]
  rw [settleTurn] at hgoes hstate ⊢
  by_cases hrun : (w'.process message).loop.runState = .running
  · simp only [hrun, if_true] at hgoes hstate ⊢
    cases hend : ((w'.process message).assemble chance).2 with
    | some setback => simp [hend, handsOut_finish] at hgoes
    | none =>
        simp only [hend] at hgoes hstate ⊢
        have hrest := remainder_assembleFrom ((w'.process message).shared.pool.online.length + 1) chance
          (w'.process message)
        have hadmits : ((w'.process message).assemble chance).1.loop.runState = .running :=
          (congrArg Remainder.runState hrest).trans hrun
        simp only [hadmits, reduceCtorEq, false_and, if_false]
        exact eligible_lt_need_of_assembleFrom (hsettings ▸ hteam) (Nat.lt_succ_self _) hend
  · -- a loop that forms no teams does not come back to forming them
    simp only [hrun, if_false] at hgoes hstate
    split at hstate
    · rename_i hdone
      simp [hdone, handsOut_finish] at hgoes
    · exact absurd hstate hrun

/-! ## Between two turns -/

/-- What a scheduler was set up with stays, and only a turn can end its admission of rounds. -/
lemma setup_of_step {m : Move} (hgoes : (w.step m).handsOut = true) :
    (w.step m).settings = w.settings ∧ (w.step m).isDisabled = w.isDisabled ∧
      (w.isTurn m = false → (w.step m).loop.runState = w.loop.runState) := by
  cases hturn : w.isTurn m with
  | true =>
      obtain ⟨source, chance, message, w', -, htake, hstep⟩ := step_of_isTurn hturn
      rw [hstep] at hgoes ⊢
      have hrest := remainder_settleTurn hgoes
      refine ⟨?_, ?_, nofun⟩
      · calc ((w'.process message).settleTurn chance).settings
            = (w'.process message).settings := congrArg Remainder.settings hrest
          _ = w'.settings := by rw [process_eq]
          _ = w.settings := by rw [take?_eq htake]
      · calc ((w'.process message).settleTurn chance).isDisabled
            = (w'.process message).isDisabled := congrArg Remainder.isDisabled hrest
          _ = w'.isDisabled := by rw [process_eq]
          _ = w.isDisabled := by rw [take?_eq htake]
  | false =>
      rcases m.call_or_work with hcall | hwork | rfl | rfl | rfl | ⟨source, chance, rfl⟩
      · have hinterior := interior_of_isCall (w := w) hcall
        have hloop : (w.step m).loop = w.loop := congrArg Interior.loop hinterior
        exact ⟨congrArg Interior.settings hinterior, congrArg Interior.isDisabled hinterior,
          fun _ => by rw [hloop]⟩
      · have hexterior := exterior_of_isWork (w := w) hwork
        exact ⟨congrArg Exterior.settings hexterior, congrArg Exterior.isDisabled hexterior,
          fun _ => congrArg (fun e => e.loop.runState) hexterior⟩
      · dsimp only [step, launch]
        split <;> exact ⟨rfl, rfl, fun _ => rfl⟩
      · dsimp only [step, conclude]
        split <;> exact ⟨rfl, rfl, fun _ => rfl⟩
      · cases hgoes
      · dsimp only [step]
        rw [step_iterate_of_not_isTurn hturn]
        exact ⟨rfl, rfl, fun _ => rfl⟩

lemma pool_attempt (hr : w.roster.Sound) : w.attempt.shared.pool = w.shared.pool := by
  rw [attempt]
  split
  · rename_i p due hstarter
    have hp : p ∈ w.pending := by simp [pending, hstarter]
    split
    · rfl
    · rcases start_pending hr hp w.wall w.clock with ⟨u, -, hstart⟩ | ⟨s', hstart, hstarted⟩
      · simp only [hstart]
        rw [report]
        split <;> rfl
      · simp only [hstart]
        rw [report]
        split <;> exact hstarted.pool
  · rfl

/-- The pool stays as it is, but for turns, polls and sweeps. -/
lemma pool_of_step (hr : w.roster.Sound) {m : Move} (hturn : w.isTurn m = false)
    (hpoll : ∀ call v a, m ≠ .poll call v a) (hsweep : m ≠ .sweep) :
    (w.step m).shared.pool = w.shared.pool := by
  cases hprivate : m.isPrivate with
  | true => rw [shared_of_isPrivate hprivate]
  | false =>
      cases m with
      | poll call v a => exact absurd rfl (hpoll call v a)
      | sweep => exact absurd rfl hsweep
      | iterate source chance =>
          dsimp only [step]
          rw [step_iterate_of_not_isTurn hturn]
      | attempt => exact pool_attempt hr
      | ban call v => exact congrArg Roster.pool (roster_ban w call v)
      | resumeBan call => exact congrArg Roster.pool (roster_resumeBan w call)
      | drop =>
          have hclosed : w.closeQueues.roster.pool = w.roster.pool := by rw [roster_closeQueues]
          dsimp only [step, drop]
          split
          · exact hclosed
          · exact hclosed
          · rfl
      | leave x =>
          dsimp only [step, leave]
          split
          · split <;> rfl
          · rfl
      | expire x =>
          dsimp only [step, expire]
          split <;> rfl
      | _ => cases hprivate

/-- **Only a poll puts a node online** between two turns: one that was offline. -/
lemma online_of_step (hr : w.roster.Sound) {m : Move} (hturn : w.isTurn m = false) {v : NodeId}
    (hv : v ∈ (w.step m).shared.pool.online) : v ∈ w.shared.pool.online ∨
      v ∈ w.shared.pool.offline ∧ ∃ call a, m = .poll call v a := by
  by_cases hpoll : ∃ call u a, m = .poll call u a
  · obtain ⟨call, u, a, rfl⟩ := hpoll
    dsimp only [step] at hv
    rcases roster_poll w call u a with heq | ⟨hu, heq⟩
    · have hpool : (w.poll call u a).shared.pool = w.shared.pool := congrArg Roster.pool heq
      exact Or.inl (hpool ▸ hv)
    · have hpool : (w.poll call u a).shared.pool = w.shared.pool.add u := congrArg Roster.pool heq
      rw [hpool] at hv
      rcases Pool.mem_including.1 hv with rfl | hv
      · exact hu.imp (fun honline => honline) fun hoffline => ⟨hoffline, call, a, rfl⟩
      · exact Or.inl hv
  by_cases hsweep : m = .sweep
  · subst hsweep
    refine Or.inl ?_
    dsimp only [step, sweep] at hv
    split at hv
    · exact hv
    · split at hv
      · exact hv
      · exact (List.mem_filter.1 hv).1
  · have hpool := pool_of_step hr hturn (fun call u a heq => hpoll ⟨call, u, a, heq⟩) hsweep
    exact Or.inl (hpool ▸ hv)

/-- A move makes a team possible: a poll brings an offline node back that may be picked, or a pick needs
fewer nodes than before. -/
def Stirs (w : World) (m : Move) : Prop :=
  (∃ call v a, m = .poll call v a ∧ w.isDisabled v = false ∧ v ∈ w.shared.pool.offline ∧
    v ∈ (w.step m).shared.pool.online) ∨
  (w.step m).need < w.need

/-- **Between two turns** too few eligible nodes remain too few, unless a move stirs. -/
lemma eligible_lt_need_of_not_isTurn (hr : w.roster.Sound) {m : Move} (hturn : w.isTurn m = false)
    (hgoes : (w.step m).handsOut = true) (hfew : w.eligible < w.need) :
    (w.step m).eligible < (w.step m).need ∨ w.Stirs m := by
  by_contra hnot
  obtain ⟨henough, hstill⟩ := not_or.1 hnot
  obtain ⟨hpolled, hneed⟩ := not_or.1 hstill
  obtain ⟨-, hdisabled, -⟩ := setup_of_step hgoes
  -- no node that may be picked has come online
  have hsub : (w.step m).shared.pool.eligible (w.step m).isDisabled
      ⊆ w.shared.pool.eligible w.isDisabled := by
    intro v hv
    obtain ⟨honline, hpasses⟩ := List.mem_filter.1 hv
    rw [hdisabled] at hpasses
    refine List.mem_filter.2 ⟨?_, hpasses⟩
    rcases online_of_step hr hturn honline with hwas | ⟨hoffline, call, a, rfl⟩
    · exact hwas
    · exact absurd ⟨call, v, a, rfl, by simpa using hpasses, hoffline, honline⟩ hpolled
  have hnodup := (step_sound hr m).tidy.online.filter fun v => !(w.step m).isDisabled v
  have hle : (w.step m).eligible ≤ w.eligible := (List.subperm_of_subset hnodup hsub).length_le
  omega

/-! ## Every run -/

/-- A history without a turn. -/
def Turnless (w : World) : List Move → Prop
  | [] => True
  | m :: rest => w.isTurn m = false ∧ (w.step m).Turnless rest

lemma turnless_append {moves : List Move} {m : Move} (h : w.Turnless moves)
    (hlast : (w.run moves).isTurn m = false) : w.Turnless (moves ++ [m]) := by
  induction moves generalizing w with
  | nil => exact ⟨hlast, trivial⟩
  | cons m' rest ih => exact ⟨h.1, ih h.2 hlast⟩

/-- A team may be left waiting: the last attempt of the last turn has failed, or a move has stirred after
the last turn. -/
def Excused (w : World) (moves : List Move) : Prop :=
  ∃ before m after, moves = before ++ m :: after ∧
    ((w.run before).failsIn m ∨ (w.run before).isTurn m = false ∧ (w.run before).Stirs m) ∧
    ((w.run before).step m).Turnless after

lemma Excused.append {moves : List Move} {m : Move} (h : w.Excused moves)
    (hlast : (w.run moves).isTurn m = false) : w.Excused (moves ++ [m]) := by
  obtain ⟨before, m', after, rfl, hwhy, hquiet⟩ := h
  refine ⟨before, m', after ++ [m], by simp, hwhy, turnless_append hquiet ?_⟩
  rw [← run_cons, ← run_append]
  exact hlast

/-- **No team is left waiting** while the loop admits rounds: fewer nodes are eligible than a pick needs,
or the last attempt at a team has failed, or since the last turn an eligible node has come back or the need
has fallen. -/
theorem eligible_lt_need {settings : Settings} (hvalid : settings.validate = .ok ()) (latency : Latency)
    (isDisabled : NodeId → Bool) {net : Network} (wall : Instant) (hidle : net.Idle)
    (moves : List Move) :
    let w := create settings latency isDisabled net wall
    (w.run moves).isRunning = true → (w.run moves).loop.runState = .running →
      (w.run moves).eligible < (w.run moves).need ∨ w.Excused moves := by
  intro w hrunning
  have hgoes := handsOut_of_isRunning hrunning
  clear hrunning
  have hsound : ∀ moves, (w.run moves).roster.Sound :=
    fun moves => run_sound (create_sound settings latency isDisabled wall hidle) moves
  suffices h : (w.run moves).settings = settings ∧ ((w.run moves).loop.runState = .running →
      (w.run moves).eligible < (w.run moves).need ∨ w.Excused moves) from h.2
  -- from the end: the last move is a turn, or it comes after the last turn
  induction moves using List.reverseRecOn with
  | nil =>
      refine ⟨rfl, fun _ => Or.inl ?_⟩
      have hteam := Settings.teamSize_pos_of_validate hvalid
      exact Nat.lt_of_lt_of_le hteam (Nat.le_max_right _ _)
  | append_singleton moves m ih =>
      have hrun : w.run (moves ++ [m]) = (w.run moves).step m := by rw [run_append]; rfl
      rw [hrun] at hgoes ⊢
      obtain ⟨hsettings, hfew⟩ := ih (handsOut_of_step hgoes)
      obtain ⟨hkept, -, hstate⟩ := setup_of_step hgoes
      refine ⟨hkept.trans hsettings, fun hadmits => ?_⟩
      cases hturn : (w.run moves).isTurn m with
      | true =>
          have hteam : 0 < (w.run moves).settings.teamSize.toNat :=
            hsettings ▸ Settings.teamSize_pos_of_validate hvalid
          rcases eligible_lt_need_of_turn hteam hturn hgoes hadmits with hfew | hfailed
          · exact Or.inl hfew
          · exact Or.inr ⟨moves, m, [], rfl, Or.inl hfailed, trivial⟩
      | false =>
          rcases hfew (hstate hturn ▸ hadmits) with hfew | hexcused
          · rcases eligible_lt_need_of_not_isTurn (hsound moves) hturn hgoes hfew with hfew | hstirs
            · exact Or.inl hfew
            · exact Or.inr ⟨moves, m, [], rfl, Or.inr ⟨hturn, hstirs⟩, trivial⟩
          · exact Or.inr (hexcused.append hturn)

/-- One of two nodes waits. -/
theorem eligible_lt_need_of_two :
    let w := small ["a", "b"]
    let moves := .launch :: reporting "a" .waiting
    w.settings.validate = .ok () ∧ (smallNetwork ["a", "b"]).Idle ∧
      ((w.run moves).eligible < (w.run moves).need ∨ w.Excused moves) := by
  intro w moves
  have hvalid : w.settings.validate = .ok () := by decide +kernel
  exact ⟨hvalid, idle_smallNetwork _, eligible_lt_need hvalid _ _ _ (idle_smallNetwork _) moves
    (by decide +kernel) (by decide +kernel)⟩

/-! ## Teams that are left waiting -/

/-- The loop admits rounds and has nothing left to do, no attempt at a team has ever failed, and yet a pick
would find enough nodes. -/
structure LeavesWaiting (w : World) : Prop where
  running : w.isRunning = true
  admits : w.loop.runState = .running
  updates : w.updates.messages = []
  events : w.events.messages = []
  requests : w.requests.messages = []
  never_failed : w.loop.counters.assemblyFailures = 0
  formable : w.need ≤ w.eligible

/-- Three minutes go by, and the sweep that is due. -/
def absence : List Move := [.wallPass 181000000000, .pass 60000, .sweep]

/-- One of two nodes waits and stops polling, the other waits, and the first polls again. -/
def comeback : List Move :=
  .launch :: reporting "a" .waiting ++ absence ++ reporting "b" .waiting ++ [.poll 0 "a" .waiting]

/-- Four nodes that form teams of two, if three quarters of the active ones wait; one of them must not be
picked. -/
def quartet : World :=
  create { Settings.builtIn with teamSize := 2, poolThreshold := 0.75 } .builtIn (· = "d")
    (smallNetwork ["a", "b", "c", "d"]) ⟨0, 0⟩

/-- Three of the four wait, and the one that must not be picked stops polling. -/
def departure : List Move :=
  .launch :: reporting "d" .waiting ++ [.wallPass 181000000000] ++ reporting "a" .waiting ++
    reporting "b" .waiting ++ [.pass 60000, .sweep]

/-- **A team is left waiting** after a node has come back, and after the sweep has lowered the need. -/
theorem leavesWaiting_of_comeback_and_departure :
    ((small ["a", "b"]).run comeback).LeavesWaiting ∧ (quartet.run departure).LeavesWaiting := by
  constructor
  · constructor <;> decide +kernel
  · constructor <;> decide +kernel

end Live.World

end MixRounds
