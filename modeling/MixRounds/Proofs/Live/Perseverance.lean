import MixRounds.Proofs.Live.Trials
import MixRounds.Proofs.Live.Winding

/-!
# How often the loop tries

A team that cannot be put in order goes back to the pool, and the loop goes on; it gives up when this has
happened `maxAssemblyFailures` times in a row.  The loop keeps a count of failures for this, which a team
that is formed sets back, and which an attempt that finds too few nodes leaves as it is.  This module tells
the same without the count, as a law of the whole history: `World.trialsAlong` lists what came of every
attempt, and the loop is worn out if the last `maxAssemblyFailures` of those that picked a team all failed
on the configuration.

* `World.rests_or_tries` — a move makes no attempt and leaves the count alone, or it makes some, and the
  last one decides whether the loop goes on.
* **`World.perseveres_of_run`** — the loop ends with a configuration fault exactly when it is worn out, and
  at the first such moment.
-/

namespace MixRounds

/-- A valid bound lets the loop fail at least once. -/
lemma Settings.maxAssemblyFailures_pos_of_validate {s : Settings} (h : s.validate = .ok ()) :
    0 < s.maxAssemblyFailures.toNat := by
  by_contra hzero
  have hmax : s.maxAssemblyFailures = 0 := by
    apply UInt32.toNat_inj.1
    simpa using hzero
  rw [Settings.validate_eq_ok_iff] at h
  simp only [Settings.complaint?, hmax, if_true] at h
  repeat' split at h
  all_goals cases h

namespace Live.World

variable {w w' : World}

/-! ## The attempts of a history -/

/-- The attempts that are made in a move: those of a turn, once its message is dealt with. -/
def trialsIn (w : World) : Move → List Trial
  | .iterate source chance =>
      if w.isRunning then
        match w.take? source with
        | none => []
        | some (message, w) =>
            let w := w.process message
            if w.loop.runState = .running then
              trialsFrom (w.shared.pool.online.length + 1) chance w
            else []
      else []
  | _ => []

/-- The attempts of a whole history, oldest first. -/
def trialsAlong (w : World) : List Move → List Trial
  | [] => []
  | m :: rest => w.trialsIn m ++ (w.step m).trialsAlong rest

/-- The loop ends with a fault in this move. -/
def EndsWith (w : World) (m : Move) (fault : Fault) : Prop :=
  w.isRunning = true ∧ (w.step m).loop.stage = .closing (.error fault)

/-- The loop has ended with a fault. -/
def HasEndedWith (w : World) (moves : List Move) (fault : Fault) : Prop :=
  ∃ before m after, moves = before ++ m :: after ∧ (w.run before).EndsWith m fault

/-! ## One move -/

/-- No attempt is made in this move. -/
structure Rests (w : World) (m : Move) : Prop where
  trials : w.trialsIn m = []
  count : (w.step m).loop.failures = w.loop.failures
  goes : ∀ fault, ¬ w.EndsWith m fault

/-- Attempts are made in this move, and the last one decides whether the loop ends. -/
structure Tries (w : World) (m : Move) (early : List Trial) (u : World) (t : Trial) (w' : World)
    (attempt : Attempt) : Prop where
  running : w.isRunning = true
  series : w.Series (w.trialsIn m) early u t w' attempt
  count : (w.step m).loop.failures = w'.loop.failures
  pool : (w.step m).shared.pool = w'.shared.pool
  stage : (w.step m).loop.stage =
    match attempt.setback? with
    | some setback => .after (.error setback)
    | none => .running

lemma stage_of_isRunning (h : w.isRunning = true) : w.loop.stage = .running := by
  rw [isRunning] at h
  split at h
  · assumption
  · cases h

lemma rests_of_taken_eq_none {m : Move} (h : w.taken? m = none) : w.Rests m where
  trials := by
    cases m with
    | iterate source chance =>
        rw [trialsIn]
        split
        · rename_i hrunning
          simp only [taken?, hrunning, if_true, Option.map_eq_none_iff] at h
          simp [h]
        · rfl
    | _ => rfl
  count := by
    obtain ⟨stage, acks, hloop, -⟩ := loop_of_taken_eq_none h
    rw [hloop]
  goes := by
    rintro fault ⟨hrunning, hends⟩
    have hstage := stage_of_isRunning hrunning
    have hsame : (w.step m).loop = w.loop → False := fun hloop => by simp [hloop, hstage] at hends
    rcases m.call_or_work with hcall | hwork | rfl | rfl | rfl | ⟨source, chance, rfl⟩
    · exact hsame (congrArg Interior.loop (interior_of_isCall hcall))
    · exact hsame (congrArg Exterior.loop (exterior_of_isWork hwork))
    · exact hsame (by simp [step, launch, hstage])
    · exact hsame (by simp [step, conclude, hstage])
    · cases hends
    · exact hsame (congrArg loop (iterate_of_taken_eq_none h))

/-- While the loop admits rounds, it goes on after its attempts or ends with a setback. -/
lemma settleTurn_eq_of_running {chance : Nat → Shuffle} (hrun : w.loop.runState = .running) :
    w.settleTurn chance = match (w.assemble chance).2 with
      | some setback => (w.assemble chance).1.finish (.error setback)
      | none => (w.assemble chance).1 := by
  have hadmits : (w.assemble chance).1.loop.runState = .running :=
    (congrArg Remainder.runState (remainder_assembleFrom _ chance w)).trans hrun
  rw [settleTurn]
  simp only [hrun, if_true]
  cases hend : (w.assemble chance).2 with
  | some setback => rfl
  | none => simp only [hadmits, reduceCtorEq, false_and, if_false]

/-- The move is a turn of the loop, and in `v` its message is dealt with. -/
structure Turns (w : World) (m : Move) (v : World) (chance : Nat → Shuffle) : Prop where
  running : w.isRunning = true
  step : w.step m = v.settleTurn chance
  trials : w.trialsIn m = if v.loop.runState = .running
    then trialsFrom (v.shared.pool.online.length + 1) chance v else []
  count : v.loop.failures = w.loop.failures
  settings : v.settings = w.settings
  stage : v.loop.stage = .running

lemma turns_of_take {source : Source} {message : Message} {v : World} (hrunning : w.isRunning = true)
    (htake : w.take? source = some (message, v)) (chance : Nat → Shuffle) :
    w.Turns (.iterate source chance) (v.process message) chance where
  running := hrunning
  step := step_of_take? chance hrunning htake
  trials := by simp [trialsIn, hrunning, htake]
  count := by rw [(loop_process v message).2.1, loop_take? htake]
  settings := by rw [process_eq, take?_eq htake]
  stage := by rw [stage_process, loop_take? htake, stage_of_isRunning hrunning]

namespace Turns

variable {v : World} {m : Move} {chance : Nat → Shuffle}

/-- A turn in which no rounds are admitted makes no attempt. -/
lemma rests (h : w.Turns m v chance) (hrun : v.loop.runState ≠ .running) : w.Rests m := by
  have hstep := h.step
  rw [settleTurn_of_ne_running hrun] at hstep
  refine ⟨h.trials.trans (if_neg hrun), ?_, ?_⟩
  · rw [hstep]
    split
    · rw [loop_finish, loop_acknowledge]
      exact h.count
    · exact h.count
  · rintro fault ⟨-, hends⟩
    rw [hstep] at hends
    split at hends
    · cases hends
    · cases h.stage.symm.trans hends

/-- Otherwise its last attempt decides. -/
lemma tries (h : w.Turns m v chance) (hvalid : w.settings.validate = .ok ())
    (hrun : v.loop.runState = .running) : ∃ early u t w' attempt, w.Tries m early u t w' attempt := by
  obtain ⟨early, u, t, attempt, hseries, hend⟩ : ∃ early u t attempt,
      v.Series (trialsFrom (v.shared.pool.online.length + 1) chance v) early u t (v.assemble chance).1
        attempt ∧ (v.assemble chance).2 = attempt.setback? :=
    exists_series (h.settings ▸ hvalid) (Nat.lt_succ_self _) chance
  have hstage : (v.assemble chance).1.loop.stage = .running :=
    (assembleFrom_frame _ chance v).2.2.2.trans h.stage
  have hstep := h.step
  rw [settleTurn_eq_of_running hrun, hend] at hstep
  generalize (v.assemble chance).1 = w' at hseries hstage hstep
  have hseries : w.Series (w.trialsIn m) early u t w' attempt :=
    ⟨(h.trials.trans (if_pos hrun)).trans hseries.trials, hseries.formed, h.count ▸ hseries.count,
      hseries.settings.trans h.settings, hseries.last, hseries.none⟩
  cases hnext : attempt.setback? with
  | some setback =>
      -- the end of the loop touches neither the count nor the pool
      have hended : w.step m = w'.finish (.error setback) := by rw [hstep, hnext]
      refine ⟨early, u, t, w', attempt, h.running, hseries, ?_, ?_, ?_⟩ <;> rw [hended]
      · rw [loop_finish]
      · exact pool_closeQueues w'
      · rw [loop_finish, hnext]
  | none =>
      have hgoes : w.step m = w' := by rw [hstep, hnext]
      refine ⟨early, u, t, w', attempt, h.running, hseries, ?_, ?_, ?_⟩ <;> rw [hgoes]
      rw [hnext]
      exact hstage

end Turns

/-- **What a move does to the count**: nothing, or what its attempts make of it. -/
lemma rests_or_tries (hvalid : w.settings.validate = .ok ()) (m : Move) :
    w.Rests m ∨ ∃ early u t w' attempt, w.Tries m early u t w' attempt := by
  cases htaken : w.taken? m with
  | none => exact Or.inl (rests_of_taken_eq_none htaken)
  | some message =>
      obtain ⟨v, chance, hturn⟩ : ∃ v chance, w.Turns m v chance := by
        cases m with
        | iterate source chance =>
            rw [taken?] at htaken
            split at htaken
            · rename_i hrunning
              obtain ⟨⟨message', v⟩, htake, -⟩ := Option.map_eq_some_iff.1 htaken
              exact ⟨_, chance, turns_of_take hrunning htake chance⟩
            · cases htaken
        | _ => cases htaken
      by_cases hrun : v.loop.runState = .running
      · exact Or.inr (hturn.tries hvalid hrun)
      · exact Or.inl (hturn.rests hrun)

/-! ## Every run -/

lemma trialsAlong_concat (w : World) (moves : List Move) (m : Move) :
    w.trialsAlong (moves ++ [m]) = w.trialsAlong moves ++ (w.run moves).trialsIn m := by
  induction moves generalizing w with
  | nil => simp [trialsAlong]
  | cons m' rest ih =>
      rw [List.cons_append, trialsAlong, ih, trialsAlong, List.append_assoc]
      rfl

lemma hasEndedWith_concat {moves : List Move} {m : Move} {fault : Fault} :
    w.HasEndedWith (moves ++ [m]) fault ↔
      w.HasEndedWith moves fault ∨ (w.run moves).EndsWith m fault :=
  exists_split_concat

lemma Tries.endsWith_iff {m : Move} {early : List Trial} {u : World} {t : Trial} {attempt : Attempt}
    (h : w.Tries m early u t w' attempt) {fault : Fault} :
    w.EndsWith m fault ↔ attempt.setback? = some (.fault fault) := by
  rw [EndsWith, h.stage]
  cases attempt.setback? with
  | none => simp
  | some setback => cases setback <;> simp [h.running, Stage.after]

/-- What the attempts of one move are like. -/
structure Fair (w : World) (m : Move) : Prop where
  /-- Every attempt but the last one forms a team, and the last one does not. -/
  early : ∀ t ∈ (w.trialsIn m).dropLast, t = .formed
  last : (w.trialsIn m).getLast? ≠ some .formed
  /-- At most one fails. -/
  once : (w.trialsIn m).countP Trial.fails ≤ 1
  /-- If nobody was picked, then too few nodes wait. -/
  few : ∀ fault, .refused fault ∈ w.trialsIn m → fault.isSteadyState = true
  /-- If a team was not formed, then the numbers are used up or the tag of a member names no region. -/
  why : ∀ team fault, .failed team fault ∈ w.trialsIn m → Explains team fault
  /-- Who was picked in vain is back in the pool, also if the loop has come to its end. -/
  back : ∀ team fault, .failed team fault ∈ w.trialsIn m →
    ∀ member ∈ team, member.1 ∈ (w.step m).shared.pool.online
  /-- A failure that is no matter of configuration ends the loop at once. -/
  fatal : ∀ team fault, .failed team fault ∈ w.trialsIn m → fault.isConfiguration = false →
    w.EndsWith m fault
  /-- If the costs of a team overflow, the loop breaks down. -/
  breaks : ∀ team, .overflowed team ∈ w.trialsIn m → (w.step m).loop.stage = .dropped
  /-- The fault with which the loop ends is that of the last attempt. -/
  ends : ∀ fault, w.EndsWith m fault → ∃ team, (w.trialsIn m).getLast? = some (.failed team fault)

/-- How a history of attempts and the end of the loop hang together. -/
structure Perseveres (w : World) (moves : List Move) : Prop where
  /-- The loop has ended with a configuration fault if and only if it is worn out. -/
  ends_iff : (∃ fault, fault.isConfiguration = true ∧ w.HasEndedWith moves fault) ↔
    Trial.WornOut w.settings.maxAssemblyFailures.toNat (w.trialsAlong moves)
  /-- It is not worn out before the last attempt. -/
  first : ∀ earlier later, w.trialsAlong moves = earlier ++ later → later ≠ [] →
    ¬ Trial.WornOut w.settings.maxAssemblyFailures.toNat earlier
  /-- Whatever the next move is, its attempts are as they should be. -/
  fair : ∀ m, (w.run moves).Fair m

lemma Tries.fair {m : Move} {early : List Trial} {u : World} {t : Trial} {attempt : Attempt}
    (h : w.Tries m early u t w' attempt) : w.Fair m := by
  obtain ⟨htrials, hformed, -, -, hlast, hnone⟩ := h.series
  have ht : t ≠ .formed := mt hlast.assembled_iff.2 hnone
  have hmem : ∀ s ∈ w.trialsIn m, s ≠ .formed → s = t := by
    intro s hs hne
    rw [htrials, List.mem_append, List.mem_singleton] at hs
    exact hs.resolve_left fun hearly => hne (hformed s hearly)
  have hfailed : ∀ team fault, .failed team fault ∈ w.trialsIn m →
      Weighed u (.failed team fault) w' attempt := fun team fault hs => hmem _ hs (by simp) ▸ hlast
  exact {
    early := by rwa [htrials, List.dropLast_concat]
    last := by simpa [htrials] using ht
    once := by
      have hearly : early.countP Trial.fails = 0 :=
        List.countP_eq_zero.2 fun s hs => by simp [hformed s hs, Trial.fails]
      rw [htrials, List.countP_append, hearly, Nat.zero_add]
      exact List.countP_le_length
    few := by
      intro fault hs
      rw [← hmem _ hs (by simp)] at hlast
      cases hlast
      assumption
    why := by
      intro team fault hs
      cases hfailed team fault hs
      assumption
    back := by
      intro team fault hs
      rw [h.pool]
      cases hfailed team fault hs
      assumption
    fatal := by
      intro team fault hs hconf
      rw [h.endsWith_iff]
      cases hfailed team fault hs with
      | failed _ _ _ hattempt => simp [hattempt, hconf, Attempt.setback?]
    breaks := by
      intro team hs
      rw [h.stage]
      rw [← hmem _ hs (by simp)] at hlast
      cases hlast
      rfl
    ends := by
      intro fault hends
      rw [h.endsWith_iff] at hends
      cases hlast with
      | refused | formed | overflowed => cases hends
      | @failed team fault' _ _ _ _ _ hattempt =>
          rw [hattempt] at hends
          split at hends
          · cases hends
          · cases hends
            exact ⟨team, by simp [htrials]⟩ }

lemma Rests.fair {m : Move} (h : w.Rests m) : w.Fair m := by
  obtain ⟨htrials, -, hgoes⟩ := h
  exact ⟨by simp [htrials], by simp [htrials], by simp [htrials], by simp [htrials], by simp [htrials],
    by simp [htrials], by simp [htrials], by simp [htrials],
    fun fault hends => absurd hends (hgoes fault)⟩

/-- The law of the attempts, with the count that the loop keeps while it has not come to its end. -/
structure Counts (w : World) (moves : List Move) : Prop where
  ends_iff : (∃ fault, fault.isConfiguration = true ∧ w.HasEndedWith moves fault) ↔
    w.settings.maxAssemblyFailures.toNat ≤ (w.trialsAlong moves).foldl Trial.tally 0
  first : ∀ earlier later, w.trialsAlong moves = earlier ++ later → later ≠ [] →
    earlier.foldl Trial.tally 0 < w.settings.maxAssemblyFailures.toNat
  count : (w.run moves).handsOut = true →
    (w.run moves).loop.failures = (w.trialsAlong moves).foldl Trial.tally 0 ∧
      (w.run moves).loop.failures < w.settings.maxAssemblyFailures.toNat

lemma Counts.rests {moves : List Move} {m : Move} (h : w.Counts moves) (hm : (w.run moves).Rests m) :
    w.Counts (moves ++ [m]) := by
  have htrials : w.trialsAlong (moves ++ [m]) = w.trialsAlong moves := by
    rw [trialsAlong_concat, hm.trials, List.append_nil]
  refine ⟨?_, htrials ▸ h.first, fun hgoes => ?_⟩
  · rw [htrials, ← h.ends_iff]
    simp only [hasEndedWith_concat, hm.goes, or_false]
  · rw [run_snoc] at hgoes ⊢
    rw [htrials, hm.count]
    exact h.count (handsOut_of_step hgoes)

lemma Tries.setback?_of_handsOut {m : Move} {early : List Trial} {u : World} {t : Trial} {attempt : Attempt}
    (h : w.Tries m early u t w' attempt) (hgoes : (w.step m).handsOut = true) :
    attempt.setback? = none := by
  rw [handsOut, h.stage] at hgoes
  cases hend : attempt.setback? with
  | none => rfl
  | some setback => cases setback <;> simp [hend, Stage.after] at hgoes

lemma Counts.tries {moves : List Move} {m : Move} {early : List Trial} {u : World} {t : Trial}
    {attempt : Attempt} (h : w.Counts moves) (hm : (w.run moves).Tries m early u t w' attempt) :
    w.Counts (moves ++ [m]) := by
  obtain ⟨hcount, hfew⟩ := h.count (handsOut_of_isRunning hm.running)
  have hmax : u.settings.maxAssemblyFailures = w.settings.maxAssemblyFailures := by
    rw [hm.series.settings, settings_run]
  have hearly : u.loop.failures = (w.trialsAlong moves ++ early).foldl Trial.tally 0 := by
    rw [List.foldl_append, ← hcount]
    exact hm.series.count
  have hbelow : u.loop.failures < u.settings.maxAssemblyFailures.toNat := by
    rw [hmax, hm.series.count]
    exact Nat.lt_of_le_of_lt (Trial.foldl_tally_le hm.series.formed _) hfew
  have htrials : w.trialsAlong (moves ++ [m]) = (w.trialsAlong moves ++ early) ++ [t] := by
    rw [trialsAlong_concat, hm.series.trials, List.append_assoc]
  have htotal : (w.trialsAlong (moves ++ [m])).foldl Trial.tally 0 = Trial.tally u.loop.failures t := by
    rw [htrials, List.foldl_append, ← hearly]
    rfl
  refine ⟨?_, fun earlier later heq hne => ?_, fun hgoes => ?_⟩
  · rw [htotal, ← hmax, ← hm.series.last.fatal_iff hbelow]
    simp only [hasEndedWith_concat, hm.endsWith_iff]
    constructor
    · rintro ⟨fault, hconf, hbefore | hnow⟩
      · exact absurd (h.ends_iff.1 ⟨fault, hconf, hbefore⟩) (by omega)
      · exact ⟨fault, hconf, hnow⟩
    · rintro ⟨fault, hconf, hnow⟩
      exact ⟨fault, hconf, Or.inr hnow⟩
  · -- what comes before the last attempt ends among the early attempts of this move, or before it
    obtain ⟨later, x, rfl⟩ := later.eq_nil_or_concat.resolve_left hne
    rw [htrials, List.concat_eq_append, ← List.append_assoc] at heq
    obtain ⟨hsplit, -⟩ := List.append_inj' heq rfl
    rcases List.append_eq_append_iff.1 hsplit with ⟨middle, rfl, rfl⟩ | ⟨middle, hbefore, -⟩
    · rw [List.foldl_append, ← hcount]
      have hformed : ∀ s ∈ middle, s = .formed :=
        fun s hs => hm.series.formed s (List.mem_append_left _ hs)
      exact Nat.lt_of_le_of_lt (Trial.foldl_tally_le hformed _) hfew
    · cases middle with
      | nil =>
          rw [List.append_nil] at hbefore
          rw [← hbefore, ← hcount]
          exact hfew
      | cons s rest => exact h.first earlier _ hbefore (List.cons_ne_nil _ _)
  · rw [run_snoc] at hgoes ⊢
    rw [hm.count, htotal, ← hmax]
    obtain ⟨hnew, hless⟩ := hm.series.last.count hbelow (hm.setback?_of_handsOut hgoes)
    exact ⟨hnew, hnew ▸ hless⟩

/-- **The loop tries for as long as it should.**  However the picks fall, and whatever happens in between:

* the loop ends with a configuration fault exactly when the last `maxAssemblyFailures` attempts that picked a
  team have all failed on the configuration, and with the first attempt of which this is true; attempts that
  found too few nodes are left out of account;
* in a turn at most one attempt fails, the last one, and its team is back in the pool;
* a failure of any other kind ends the loop at once, and so do costs that overflow. -/
theorem perseveres_of_run {settings : Settings} (hvalid : settings.validate = .ok ()) (latency : Latency)
    (isDisabled : NodeId → Bool) (net : Network) (wall : Instant) (moves : List Move) :
    (create settings latency isDisabled net wall).Perseveres moves := by
  generalize hw : create settings latency isDisabled net wall = w
  have hsettings : ∀ moves, (w.run moves).settings.validate = .ok () := by
    intro moves
    rw [settings_run, ← hw]
    exact hvalid
  have hcounts : w.Counts moves := by
    induction moves using List.reverseRecOn with
    | nil =>
        have hpos : 0 < w.settings.maxAssemblyFailures.toNat :=
          Settings.maxAssemblyFailures_pos_of_validate (hsettings [])
        have hnever : ∀ fault, ¬ w.HasEndedWith [] fault := by
          rintro fault ⟨before, m, after, heq, -⟩
          simp at heq
        refine ⟨?_, fun earlier later heq hne => ?_, fun _ => ?_⟩
        · simp [hnever, trialsAlong, Nat.ne_of_gt hpos]
        · exact absurd (List.nil_eq_append_iff.1 heq).2 hne
        · subst hw
          exact ⟨rfl, hpos⟩
    | append_singleton moves m ih =>
        rcases rests_or_tries (hsettings moves) m with hrests | ⟨early, u, t, w', attempt, htries⟩
        · exact ih.rests hrests
        · exact ih.tries htries
  refine ⟨?_, fun earlier later heq hne => ?_, fun m => ?_⟩
  · rw [Trial.wornOut_iff]
    exact hcounts.ends_iff
  · rw [Trial.wornOut_iff, Nat.not_le]
    exact hcounts.first earlier later heq hne
  · rcases rests_or_tries (hsettings moves) m with hrests | ⟨early, u, t, w', attempt, htries⟩
    · exact hrests.fair
    · exact htries.fair

/-- A scheduler that gives up after two failures, with one node, whose tag names no region. -/
def lost : World :=
  create { Settings.builtIn with
      teamSize := 1
      poolThreshold := 0
      maxAssemblyFailures := 2 }
    .builtIn (fun _ => false)
    (((Network.empty ⟨0, [], ⟨default, []⟩⟩ ⟨1⟩).register "lost" "Atlantis" .active ⟨0, 0⟩)) ⟨0, 0⟩

/-- The node reports that it waits, and the loop tries; it tries again when it is asked for its metrics, and
then it has tried often enough. -/
theorem perseveres_of_lost :
    let moves := .launch :: reporting "lost" .waiting ++
      [.request (.metrics 1), .iterate .requests fun _ => .still]
    let failure : Trial := .failed [("lost", "Atlantis")] (.unknownRegion "Atlantis")
    lost.settings.validate = .ok () ∧ lost.Perseveres moves ∧ lost.trialsAlong moves = [failure, failure] ∧
      ∃ fault, fault.isConfiguration = true ∧ lost.HasEndedWith moves fault := by
  intro moves failure
  have hvalid : lost.settings.validate = .ok () := by decide +kernel
  have htrials : lost.trialsAlong moves = [failure, failure] := by decide +kernel
  have h : lost.Perseveres moves := perseveres_of_run hvalid _ _ _ _ moves
  refine ⟨hvalid, h, htrials, h.ends_iff.2 ?_⟩
  rw [Trial.wornOut_iff, htrials]
  decide

end Live.World

end MixRounds
