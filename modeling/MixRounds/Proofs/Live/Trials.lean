import MixRounds.Proofs.Live.Conservation

/-!
# Attempts at a team

What comes of an attempt is read off what was picked and whether a team was formed of it (`World.trial`),
without a look at the count of failures that the loop keeps.  This module says how the count follows.

* `Trial.wornOut_iff` — the last attempts that picked a team have all failed on the configuration, as many
  as a bound says, if and only if the count that one attempt after the other takes on (`Trial.tally`) has
  reached the bound.
* `World.weighed` — what one attempt does to the count of the loop, and where it leaves the picked nodes.
* `World.exists_series` — attempts form teams until one does not; they do not run out before.

Nothing is asked of the network here: members may be unknown, and then their tag is empty.
-/

namespace MixRounds.Live

/-! ## Attempts -/

/-- What comes of an attempt at a team. -/
inductive Trial where
  /-- Nobody was picked. -/
  | refused (fault : Fault)
  | formed
  /-- A team was picked, given with its tags, and could not be formed. -/
  | failed (team : List (NodeId × String)) (fault : Fault)
  /-- A team was picked, given with its tags, and the loop broke down over its costs. -/
  | overflowed (team : List (NodeId × String))
  deriving DecidableEq, Repr

namespace Trial

/-- A team was picked. -/
def picks : Trial → Bool
  | refused _ => false
  | formed | failed _ _ | overflowed _ => true

/-- A team was picked that could not be formed. -/
def fails : Trial → Bool
  | failed _ _ => true
  | refused _ | formed | overflowed _ => false

/-- A team was picked that could not be formed, and the configuration is to blame. -/
def isMisconfigured : Trial → Bool
  | failed _ fault => fault.isConfiguration
  | refused _ | formed | overflowed _ => false

/-- The last `max` attempts that picked a team have all failed on the configuration. -/
def WornOut (max : Nat) (trials : List Trial) : Prop :=
  ∃ last, last <:+ trials.filter picks ∧ last.length = max ∧ ∀ t ∈ last, t.isMisconfigured = true

end Trial

namespace World

/-- What comes of an attempt. -/
def trial (w : World) (chance : Shuffle) : Trial :=
  match w.shared.pool.pick w.threshold w.settings.teamSize.toNat w.isDisabled chance with
  | .error fault => .refused fault
  | .ok (picked, pool) =>
      match ((w.mapShared fun s => { s with pool := pool }).formTeam picked).1 with
      | .error (.fault fault) => .failed (tagged w.shared.net.nodes picked) fault
      | .error .overflow => .overflowed (tagged w.shared.net.nodes picked)
      | .ok _ => .formed

/-- What comes of one attempt after the other, as long as they form teams. -/
def trialsFrom : Nat → (Nat → Shuffle) → World → List Trial
  | 0, _, _ => []
  | fuel + 1, chance, w =>
      w.trial (chance 0) ::
        if w.trial (chance 0) = .formed then
          trialsFrom fuel (fun i => chance (i + 1)) (w.assembleOne (chance 0)).1
        else []

end World

/-! ## Counting failures in a row -/

namespace Trial

/-- The count of failures after an attempt: a failure is counted, a team sets the count back. -/
def tally (failures : Nat) (t : Trial) : Nat :=
  if t.isMisconfigured then failures + 1 else if t.picks then 0 else failures

variable {max : Nat} {trials : List Trial} {t : Trial}

lemma picks_of_isMisconfigured (h : t.isMisconfigured = true) : t.picks = true := by
  cases t with
  | refused | formed | overflowed => cases h
  | failed => rfl

/-- An attempt that picks a team counts, and with it those before if it has failed. -/
lemma wornOut_concat (ht : t.picks = true) : WornOut max (trials ++ [t]) ↔
    max = 0 ∨ t.isMisconfigured = true ∧ ∃ n, max = n + 1 ∧ WornOut n trials := by
  have hpicks : (trials ++ [t]).filter picks = trials.filter picks ++ [t] := by simp [ht]
  constructor
  · rintro ⟨last, hlast, rfl, hall⟩
    rw [hpicks, List.suffix_concat_iff] at hlast
    rcases hlast with rfl | ⟨last, rfl, hlast⟩
    · exact Or.inl rfl
    · refine Or.inr ⟨hall t (by simp), last.length, by simp, last, hlast, rfl, fun u hu => ?_⟩
      exact hall u (List.mem_append_left _ hu)
  · rintro (rfl | ⟨hconf, n, rfl, last, hlast, rfl, hall⟩)
    · exact ⟨[], List.nil_suffix, rfl, by simp⟩
    · refine ⟨last ++ [t], ?_, by simp, fun u hu => ?_⟩
      · rw [hpicks, List.suffix_concat_iff]
        exact Or.inr ⟨last, rfl, hlast⟩
      · rcases List.mem_append.1 hu with hu | hu
        · exact hall u hu
        · rwa [List.mem_singleton.1 hu]

/-- An attempt that picks nobody does not count. -/
lemma wornOut_concat_of_not_picks (ht : t.picks = false) :
    WornOut max (trials ++ [t]) ↔ WornOut max trials := by
  have hpicks : (trials ++ [t]).filter picks = trials.filter picks := by simp [ht]
  rw [WornOut, hpicks, WornOut]

/-- **The count tells** whether the attempts have worn the loop out. -/
lemma wornOut_iff : WornOut max trials ↔ max ≤ trials.foldl tally 0 := by
  induction trials using List.reverseRecOn generalizing max with
  | nil =>
      rw [List.foldl_nil, Nat.le_zero]
      constructor
      · rintro ⟨last, hlast, rfl, -⟩
        simpa using hlast
      · rintro rfl
        exact ⟨[], List.nil_suffix, rfl, by simp⟩
  | append_singleton trials t ih =>
      rw [List.foldl_append, List.foldl_cons, List.foldl_nil, tally]
      cases hpicks : t.picks with
      | false =>
          have hconf : t.isMisconfigured = false :=
            Bool.eq_false_iff.2 fun h => by simp [picks_of_isMisconfigured h] at hpicks
          simp [wornOut_concat_of_not_picks hpicks, hconf, ih]
      | true =>
          rw [wornOut_concat hpicks]
          cases t.isMisconfigured with
          | false => simp
          | true =>
              simp only [ih, true_and, if_true]
              constructor
              · rintro (rfl | ⟨n, rfl, hn⟩) <;> omega
              · intro hmax
                cases max with
                | zero => exact Or.inl rfl
                | succ n => exact Or.inr ⟨n, rfl, by omega⟩

/-- Teams that are formed only set the count back. -/
lemma foldl_tally_le (h : ∀ t ∈ trials, t = formed) (failures : Nat) :
    trials.foldl tally failures ≤ failures := by
  induction trials generalizing failures with
  | nil => exact Nat.le_refl _
  | cons t rest ih =>
      obtain rfl := h t List.mem_cons_self
      exact Nat.le_trans (ih (fun t ht => h t (List.mem_cons_of_mem _ ht)) 0) (Nat.zero_le _)

end Trial

namespace World

variable {w w' : World}

/-! ## One attempt -/

/-- Why the team could not be formed: the numbers are used up, or a tag names no region. -/
def Explains (team : List (NodeId × String)) (fault : Fault) : Prop :=
  (∃ reason, fault = .roundIds reason) ∨
    ∃ member ∈ team, Region.ofTag? member.2 = none ∧ fault = .unknownRegion member.2

/-- What an attempt does to the count of failures, and whether it ends the loop. -/
inductive Weighed (w : World) : Trial → World → Attempt → Prop
  | refused {fault : Fault} (hfew : fault.isSteadyState = true) : Weighed w (.refused fault) w .givenUp
  | formed {w' : World} (hcount : w'.loop.failures = 0)
      (honline : w'.shared.pool.online.length < w.shared.pool.online.length) :
      Weighed w .formed w' .assembled
  | failed {team : List (NodeId × String)} {fault : Fault} {w' : World} {attempt : Attempt}
      (hwhy : Explains team fault) (hback : ∀ member ∈ team, member.1 ∈ w'.shared.pool.online)
      (hcount : fault.isConfiguration = true → w'.loop.failures = w.loop.failures + 1)
      (hattempt : attempt = if fault.isConfiguration = true ∧
        w.loop.failures + 1 < w.settings.maxAssemblyFailures.toNat then .givenUp
        else .fatal (.fault fault)) :
      Weighed w (.failed team fault) w' attempt
  | overflowed {team : List (NodeId × String)} {w' : World} :
      Weighed w (.overflowed team) w' (.fatal .overflow)

lemma Weighed.assembled_iff {t : Trial} {attempt : Attempt} (h : Weighed w t w' attempt) :
    attempt = .assembled ↔ t = .formed := by
  cases h with
  | refused | formed | overflowed => simp
  | failed _ _ _ hattempt =>
      rw [hattempt]
      split <;> simp

lemma failures_assemblyFailed (picked : List NodeId) {fault : Fault} (h : fault.isConfiguration = true) :
    (w.assemblyFailed picked fault).1.loop.failures = w.loop.failures + 1 := by
  rw [assemblyFailed]
  simp only [h, Bool.not_true, Bool.false_eq_true, if_false]
  split <;> rfl

/-- **What one attempt comes to.** -/
lemma weighed (hvalid : w.settings.validate = .ok ()) (chance : Shuffle) :
    Weighed w (w.trial chance) (w.assembleOne chance).1 (w.assembleOne chance).2 := by
  rw [assembleOne, trial]
  cases hpick : w.shared.pool.pick w.threshold w.settings.teamSize.toNat w.isDisabled chance with
  | error fault =>
      simp only [Pool.pick] at hpick
      split at hpick <;> cases hpick
      exact .refused rfl
  | ok result =>
      obtain ⟨picked, pool⟩ := result
      obtain ⟨hpos, hsize⟩ := fits_of_pick hvalid hpick
      dsimp only
      rcases hform : (w.mapShared fun s => { s with pool := pool }).formTeam picked with ⟨formed, net⟩
      cases formed with
      | error setback =>
          cases setback with
          | overflow => exact .overflowed
          | fault fault =>
              have hwhy := cause_of_formTeam hpos hsize (congrArg Prod.fst hform)
              refine .failed (hwhy.imp_right ?_) (fun member hmember => ?_)
                (failures_assemblyFailed picked) (assemblyFailed_snd _ picked fault)
              · rintro ⟨v, hv, hnone, rfl⟩
                exact ⟨_, List.mem_map_of_mem hv, hnone, rfl⟩
              · obtain ⟨v, hv, rfl⟩ := List.mem_map.1 hmember
                rw [(assemblyFailed_frame _ picked fault).1]
                exact Pool.mem_online_foldl_add.2 (Or.inl hv)
      | ok proto =>
          exact .formed rfl (online_of_pick (Settings.teamSize_pos_of_validate hvalid) hpick)

/-- The loop goes on with the new count, and below the bound. -/
lemma Weighed.count {t : Trial} {attempt : Attempt} (h : Weighed w t w' attempt)
    (hfew : w.loop.failures < w.settings.maxAssemblyFailures.toNat)
    (hgoes : attempt.setback? = none) : w'.loop.failures = Trial.tally w.loop.failures t ∧
      Trial.tally w.loop.failures t < w.settings.maxAssemblyFailures.toNat := by
  cases h with
  | refused => exact ⟨rfl, hfew⟩
  | formed hcount => exact ⟨hcount, Nat.lt_of_le_of_lt (Nat.zero_le _) hfew⟩
  | failed _ _ hcount hattempt =>
      rw [hattempt] at hgoes
      split at hgoes
      · rename_i hagain
        simp only [Trial.tally, Trial.isMisconfigured, hagain.1, if_true]
        exact ⟨hcount hagain.1, hagain.2⟩
      · cases hgoes
  | overflowed => cases hgoes

/-- The loop ends with a configuration fault if and only if the new count has reached the bound. -/
lemma Weighed.fatal_iff {t : Trial} {attempt : Attempt} (h : Weighed w t w' attempt)
    (hfew : w.loop.failures < w.settings.maxAssemblyFailures.toNat) :
    (∃ fault, fault.isConfiguration = true ∧ attempt.setback? = some (.fault fault)) ↔
      w.settings.maxAssemblyFailures.toNat ≤ Trial.tally w.loop.failures t := by
  cases hend : attempt.setback? with
  | none => simp [(h.count hfew hend).2]
  | some setback =>
      cases h with
      | refused | formed => cases hend
      | overflowed =>
          cases hend
          simpa [Trial.tally, Trial.isMisconfigured, Trial.picks] using Nat.ne_zero_of_lt hfew
      | @failed team fault _ _ _ _ _ hattempt =>
          rw [hattempt] at hend
          split at hend
          · cases hend
          · rename_i hlast
            cases hend
            cases hconf : fault.isConfiguration with
            | false => simp [hconf, Trial.tally, Trial.isMisconfigured, Trial.picks]; omega
            | true =>
                simp only [hconf, true_and, Nat.not_lt] at hlast
                simp [hconf, Trial.tally, Trial.isMisconfigured, hlast]

/-! ## One attempt after the other -/

/-- The early attempts form teams and lead to `u`; the last one forms none, and leads on to `w'`. -/
structure Series (w : World) (trials early : List Trial) (u : World) (t : Trial) (w' : World)
    (attempt : Attempt) : Prop where
  trials : trials = early ++ [t]
  formed : ∀ t ∈ early, t = .formed
  count : u.loop.failures = early.foldl Trial.tally w.loop.failures
  settings : u.settings = w.settings
  last : Weighed u t w' attempt
  none : attempt ≠ .assembled

/-- **Attempts form teams until one does not**, and their number suffices for that. -/
lemma exists_series (hvalid : w.settings.validate = .ok ()) {fuel : Nat}
    (hfuel : w.shared.pool.online.length < fuel) (chance : Nat → Shuffle) :
    ∃ early u t attempt,
      w.Series (trialsFrom fuel chance w) early u t (assembleFrom fuel chance w).1 attempt ∧
        (assembleFrom fuel chance w).2 = attempt.setback? := by
  induction fuel generalizing w chance with
  | zero => exact absurd hfuel (Nat.not_lt_zero _)
  | succ fuel ih =>
      have hsettings : (w.assembleOne (chance 0)).1.settings = w.settings :=
        congrArg Conditions.settings (conditions_assembleOne w (chance 0))
      have hone := weighed hvalid (chance 0)
      rw [trialsFrom, assembleFrom]
      rcases hmade : w.assembleOne (chance 0) with ⟨w', attempt⟩
      rw [hmade] at hone hsettings
      generalize w.trial (chance 0) = t at hone ⊢
      by_cases ht : t = .formed
      · subst ht
        cases hone with
        | formed hcount honline =>
            obtain ⟨early, u, t, attempt, hrest, hend⟩ :=
              ih (hsettings ▸ hvalid) (by omega) fun i => chance (i + 1)
            have hsetback := hrest.count
            rw [hcount] at hsetback
            exact ⟨.formed :: early, u, t, attempt, ⟨congrArg (Trial.formed :: ·) hrest.trials,
              List.forall_mem_cons.2 ⟨rfl, hrest.formed⟩, hsetback, hrest.settings.trans hsettings,
              hrest.last, hrest.none⟩, hend⟩
      · have hnone : attempt ≠ .assembled := mt hone.assembled_iff.1 ht
        cases attempt with
        | assembled => exact absurd rfl hnone
        | givenUp | fatal => exact ⟨[], w, t, _, ⟨by simp [ht], by simp, rfl, rfl, hone, hnone⟩, rfl⟩

end World

end MixRounds.Live
