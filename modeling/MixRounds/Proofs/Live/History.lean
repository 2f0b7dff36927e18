import MixRounds.Proofs.Live.Telling

/-!
# The history of a run

What the loop applied, in order, is the history of a run (`World.history`): each notification with the
round that its node held at that moment, what it was taken for, and what came of it.  The record of a
round (`World.record`) is the part of the history that its members told while they held it.

`Chronicle` binds a state to the records: the reservations are in order (`Roster.Sound`), the
notifications on their way fit their nodes (`Mail.Sound`), and every round that has not failed stands as
its record says (`Recorded`).  Each of the three needs the ones before it, and **`World.run_chronicle`**
carries them together through every run.
-/

namespace MixRounds

/-- Only a completed round cannot be failed. -/
lemma Round.fail_eq_self {r : Round} {now : Instant} (h : (r.fail now).2.phase ≠ .failed) :
    (r.fail now).2 = r ∧ r.phase = .completed := by
  rw [Round.fail] at h ⊢
  split
  · rename_i hterminal
    rw [if_pos hterminal] at h
    refine ⟨rfl, ?_⟩
    revert hterminal h
    cases r.phase <;> simp [Phase.isTerminal]
  · rename_i hterminal
    simp [hterminal] at h

namespace Live

/-! ## What a notification was taken for -/

lemma of_classify_activity {n : Notification} {phase : Option Phase} {a : Activity}
    (h : classify n phase = .activity a) : n.toStatus ≠ .banned ∧ n.toActivity = a := by
  rw [classify] at h
  split at h
  · split at h <;> cases h
  · split at h
    · cases h
    · cases h
      exact ⟨‹_›, rfl⟩

lemma of_classify_ban {n : Notification} {phase : Option Phase} (h : classify n phase = .ban) :
    n.toStatus = .banned := by
  rw [classify] at h
  split at h
  · assumption
  · split at h <;> cases h

lemma of_classify_alreadyBanned {n : Notification} {phase : Option Phase}
    (h : classify n phase = .alreadyBanned) : n.toStatus = .banned := by
  rw [classify] at h
  split at h
  · assumption
  · split at h <;> cases h

lemma of_classify_stale {n : Notification} {phase : Option Phase}
    (h : classify n phase = .staleAfterFailure) : phase = some .failed := by
  rw [classify] at h
  split at h
  · split at h <;> cases h
  · split at h
    · exact (‹_ ∧ _› : _ ∧ _).1
    · cases h

/-- No notification brings a failed round back. -/
lemma Kind.phase_effect_of_failed {settings : Settings} {now : Instant} {id : RoundId} {r : Round}
    (h : r.phase = .failed) (k : Kind) : (k.effect settings now id r).phase = .failed := by
  have hfail : (r.fail now).2.phase = .failed := by simp [Round.fail, h, Phase.isTerminal]
  have htallied : ∀ next stamp, (r.tallied id next stamp).phase = .failed := by
    intro next stamp
    rcases r.tallied_cases id next stamp with ⟨-, heq⟩ | ⟨-, -, heq⟩ | ⟨-, hmay, -⟩
    · rw [heq, h]
    · rw [heq]
      exact h
    · rw [h] at hmay
      cases hmay
  simp only [effect]
  split
  · exact hfail
  · exact hfail
  · exact htallied _ _
  · exact htallied _ _
  · exact h

/-! ## Histories -/

/-- A notification as the loop applied it. -/
structure Report where
  notification : Notification
  /-- The round that the node held. -/
  held : Option RoundId
  /-- What the notification was taken for. -/
  kind : Kind
  /-- What came of it. -/
  result : Except Fault Effect

/-- What the report told about a round: an activity of a node that held it. -/
def Report.telling? (rep : Report) (id : RoundId) : Option Telling :=
  match rep.kind with
  | .activity a =>
      if rep.held = some id then some ⟨rep.notification.node, a, Shared.isOverflow rep.result⟩
      else none
  | _ => none

namespace World

/-- The report that a move applies. -/
def report? (w : World) (m : Move) : Option Report :=
  (w.delivered? m).map fun n =>
    { notification := n
      held := w.shared.net.holding n.node
      kind := w.shared.kindOf n
      result := ((w.takenOver n).shared.apply w.settings w.wall w.clock w.loop.reserved n).2 }

/-- The reports that a run applies, in order. -/
def history (w : World) : List Move → List Report
  | [] => []
  | m :: rest => (w.report? m).toList ++ (w.step m).history rest

/-- What the members of a round told in a run while they held it, in order. -/
def record (w : World) (moves : List Move) (id : RoundId) : List Telling :=
  (w.history moves).filterMap fun rep => rep.telling? id

lemma record_cons (w : World) (m : Move) (rest : List Move) (id : RoundId) :
    w.record (m :: rest) id
      = ((w.report? m).bind fun rep => rep.telling? id).toList ++ (w.step m).record rest id := by
  cases hrep : w.report? m with
  | none => simp [record, history, hrep]
  | some rep =>
      cases htelling : rep.telling? id <;> simp [record, history, hrep, htelling]

end World

/-! ## The chronicle -/

/-- State and records fit. -/
structure Chronicle (w : World) (told : RoundId → List Telling) : Prop where
  roster : w.roster.Sound
  mail : w.mail.Sound
  /-- Nobody has told anything about a round that does not exist. -/
  unknown : ∀ id, w.ledger.rounds id = none → told id = []
  recorded : ∀ id r, w.ledger.rounds id = some r → r.phase ≠ .failed →
    Recorded (told id) w.ledger.holding w.mail.Heard id r

variable {w : World} {told : RoundId → List Telling}

namespace Chronicle

lemma member (h : Chronicle w told) {id : RoundId} {r : Round} (hr : w.ledger.rounds id = some r)
    {v : NodeId} (hv : w.ledger.holding v = some id) : v ∈ r.topology := by
  obtain ⟨team, hteam, hmember⟩ := h.roster.held_team v id hv
  have hround : w.shared.net.rounds.get? id = some r := hr
  have hteam' : w.shared.net.team? id = some team := hteam
  rw [Network.team?, hround] at hteam'
  cases hteam'
  exact hmember

lemma step_of_not_delivered (h : Chronicle w told) {m : Move} (hnone : w.delivered? m = none) :
    Chronicle (w.step m) told := by
  have hfollows := World.follows_of_not_delivered h.roster h.mail hnone
  have hheard : ∀ v x, (w.step m).mail.Heard v x → w.mail.Heard v x := hfollows.heard
  refine ⟨World.step_sound h.roster m, hfollows.sound, ?_, ?_⟩
  all_goals
    rcases World.ledger_of_not_delivered h.roster hnone with
      heq | ⟨failed, heq⟩ | ⟨p, hp, started, htopology, hphase, hready, heq⟩ <;> rw [heq]
  · exact h.unknown
  · intro id hid
    refine h.unknown id ?_
    simp only [Ledger.fail] at hid
    split at hid
    · simpa using hid
    · exact hid
  · intro id hid
    refine h.unknown id ?_
    simp only [Ledger.start] at hid
    split at hid
    · cases hid
    · exact hid
  · intro id r hr hlive
    exact (h.recorded id r hr hlive).keep (fun _ => Iff.rfl) fun v x _ => hheard v x
  · intro id r hr hlive
    have hr' : w.ledger.rounds id = some r := by
      simp only [Ledger.fail] at hr
      split at hr
      · obtain ⟨r₀, hr₀, rfl⟩ := Option.map_eq_some_iff.1 hr
        rw [hr₀, (Round.fail_eq_self hlive).1]
      · exact hr
    exact (h.recorded id r hr' hlive).keep (fun _ => Iff.rfl) fun v x _ => hheard v x
  · intro id r hr hlive
    -- the members of the started team held nothing before
    have hfree : ∀ v ∈ p.topology, w.ledger.holding v = none := fun v hv => h.roster.pending_free hp hv
    simp only [Ledger.start] at hr ⊢
    split at hr
    · rename_i hid
      cases hr
      have hnew : w.ledger.rounds id = none :=
        hid ▸ Network.team?_eq_none_iff.1 (h.roster.pending_new p hp)
      rw [h.unknown id hnew]
      refine Recorded.start (fun v hv => ?_) hphase hready
      rw [htopology] at hv
      simp [hv, hid]
    · rename_i hid
      refine (h.recorded id r hr hlive).keep (fun v => ?_) fun v x _ => hheard v x
      split
      · rename_i hv
        simp [hfree v hv, Ne.symm hid]
      · exact Iff.rfl


/-- **The round that the node of a notification holds** keeps to its record. -/
lemma recorded_of_delivered (h : Chronicle w told) {m : Move} {n : Notification}
    (hn : w.delivered? m = some n) {id : RoundId} {r : Round} (hr : w.ledger.rounds id = some r)
    (hheld : w.ledger.holding n.node = some id) (refused : Bool)
    (hrefused : ∀ a, w.shared.kindOf n = .activity a →
      (refused = true ↔ (a = .standby ∨ a = .completed) ∧ r.teamSize ≤ r.ready))
    (hlive : ((w.shared.kindOf n).effect w.settings w.wall id r).phase ≠ .failed) :
    Recorded (told id ++ (match w.shared.kindOf n with
        | .activity a => [⟨n.node, a, refused⟩]
        | _ => [])) (w.step m).ledger.holding (w.step m).mail.Heard id
      ((w.shared.kindOf n).effect w.settings w.wall id r) := by
  obtain ⟨hrunning, hdelivers⟩ := World.delivers_of_delivered h.roster h.mail hn
  have hlegal := hdelivers.legal
  have hbefore := h.recorded id r hr fun hfailed => hlive (Kind.phase_effect_of_failed hfailed _)
  have hledger := World.ledger_of_delivered h.roster hn
  have hnobody : r.phase ≠ .completed := fun hcompleted =>
    hbefore.not_holding_of_completed hcompleted (fun v hv => h.member hr hv) n.node hheld
  have hkind : w.shared.kindOf n = classify n (some r.phase) := by
    have hround : w.shared.net.rounds.get? id = some r := hr
    exact Shared.kindOf_of_holds (some (id, r)) ⟨hheld, hround⟩
  rw [hledger]
  cases hk : w.shared.kindOf n with
  | alreadyBanned =>
      -- a second ban is no step of the cycle
      have hsame : n.fromActivity = n.toActivity := by
        have hbanned := of_classify_alreadyBanned (hkind.symm.trans hk)
        simpa [Notification.IsLegal, hbanned] using hlegal
      simp only [List.append_nil]
      refine hbefore.keep (fun v => by simp [Ledger.apply, Kind.detaches]) fun v x _ hx => ?_
      rcases hdelivers.after v x hx with ⟨rfl, rfl⟩ | ⟨-, hx⟩
      · exact hsame ▸ hdelivers.before hrunning
      · exact hx
  | staleAfterFailure =>
      have hfailed := of_classify_stale (hkind.symm.trans hk)
      rw [hk] at hlive
      exact absurd (Option.some.inj hfailed) hlive
  | ban =>
      rw [hk] at hlive
      exact absurd (Round.fail_eq_self hlive).2 hnobody
  | activity a =>
      obtain ⟨hstatus, rfl⟩ := of_classify_activity (hkind.symm.trans hk)
      have hstep : n.fromActivity.mayBecome n.toActivity = true := by
        simpa [Notification.IsLegal, hstatus] using hlegal
      have herror : n.toActivity ≠ .error := by
        intro herror
        rw [hk, herror] at hlive
        exact absurd (Round.fail_eq_self hlive).2 hnobody
      exact hbefore.report hheld (h.member hr hheld) (hdelivers.before hrunning) hstep herror
        (fun j => rfl) hdelivers.after (hrefused _ hk)

lemma step_of_delivered (h : Chronicle w told) {m : Move} {n : Notification}
    (hn : w.delivered? m = some n) : Chronicle (w.step m) fun id =>
      told id ++ ((w.report? m).bind fun rep => rep.telling? id).toList := by
  obtain ⟨-, hdelivers⟩ := World.delivers_of_delivered h.roster h.mail hn
  have hledger := World.ledger_of_delivered h.roster hn
  have hreport : w.report? m = some ⟨n, w.ledger.holding n.node, w.shared.kindOf n,
      ((w.takenOver n).shared.apply w.settings w.wall w.clock w.loop.reserved n).2⟩ := by
    simp [World.report?, hn, World.ledger]
  -- a round that the node does not hold is told nothing
  have hother : ∀ id, w.ledger.holding n.node ≠ some id →
      ((w.report? m).bind fun rep => rep.telling? id) = none := by
    intro id hid
    simp only [hreport, Option.bind_some, Report.telling?]
    split
    · simp [hid]
    · rfl
  refine ⟨World.step_sound h.roster m, hdelivers.sound, fun id hid => ?_, fun id r hr hlive => ?_⟩
  · have hnone : w.ledger.rounds id = none := by
      rw [hledger] at hid
      simp only [Ledger.apply] at hid
      split at hid
      · simpa using hid
      · exact hid
    have hfree : w.ledger.holding n.node ≠ some id := by
      intro hheld
      obtain ⟨r, hr⟩ := World.exists_round h.roster hheld
      exact absurd (hnone.symm.trans hr) (by simp)
    simp [h.unknown id hnone, hother id hfree]
  · by_cases hheld : w.ledger.holding n.node = some id
    · have hr' := hr
      rw [hledger] at hr'
      simp only [Ledger.apply, hheld, if_true] at hr'
      obtain ⟨r₀, hr₀, rfl⟩ := Option.map_eq_some_iff.1 hr'
      have hholds : (w.takenOver n).shared.Holds n.node (some (id, r₀)) :=
        ⟨by rw [World.holding_takenOver]; exact hheld, hr₀⟩
      have hrecorded := h.recorded_of_delivered hn hr₀ hheld
        (Shared.isOverflow ((w.takenOver n).shared.apply w.settings w.wall w.clock
          w.loop.reserved n).2)
        (fun a hk => Shared.apply_isOverflow_iff hholds ((World.kindOf_takenOver w n).trans hk)) hlive
      have htelling : ((w.report? m).bind fun rep => rep.telling? id).toList
          = match w.shared.kindOf n with
            | .activity a => [⟨n.node, a, Shared.isOverflow ((w.takenOver n).shared.apply w.settings
                w.wall w.clock w.loop.reserved n).2⟩]
            | _ => [] := by
        simp only [hreport, Option.bind_some, Report.telling?, hheld, if_true]
        cases w.shared.kindOf n <;> rfl
      rw [htelling]
      exact hrecorded
    · have hr' : w.ledger.rounds id = some r := by
        rw [hledger] at hr
        simpa [Ledger.apply, hheld] using hr
      rw [hother id hheld]
      simp only [Option.toList_none, List.append_nil]
      refine (h.recorded id r hr' hlive).keep (fun v => ?_) fun v x hv hx => ?_
      · rw [hledger]
        simp only [Ledger.apply]
        split
        · rename_i hv
          rw [hv.1]
          simp [hheld]
        · exact Iff.rfl
      · rcases hdelivers.after v x hx with ⟨rfl, -⟩ | ⟨-, hx⟩
        · exact absurd hv hheld
        · exact hx

/-- **Every move keeps the chronicle**, with what it told. -/
lemma step (h : Chronicle w told) (m : Move) : Chronicle (w.step m) fun id =>
    told id ++ ((w.report? m).bind fun rep => rep.telling? id).toList := by
  cases hn : w.delivered? m with
  | none => simpa [World.report?, hn] using h.step_of_not_delivered hn
  | some n => exact h.step_of_delivered hn

/-- **Every run keeps the chronicle**, with its record. -/
lemma run (h : Chronicle w told) (moves : List Move) :
    Chronicle (w.run moves) fun id => told id ++ w.record moves id := by
  induction moves generalizing w told with
  | nil => simpa [World.record, World.history] using h
  | cons m rest ih =>
      have hrun := ih (h.step m)
      simpa only [World.record_cons, World.run_cons, List.append_assoc] using hrun

end Chronicle

namespace World

lemma create_chronicle (settings : Settings) (latency : Latency) (isDisabled : NodeId → Bool)
    {net : Network} (wall : Instant) (h : net.Idle) :
    Chronicle (create settings latency isDisabled net wall) fun _ => [] where
  roster := create_sound settings latency isDisabled wall h
  mail := create_mail settings latency isDisabled net wall
  unknown _ _ := rfl
  recorded id r hr := by
    have hnone : net.rounds.get? id = some r := hr
    rw [h.rounds id] at hnone
    cases hnone

/-- **The chronicle of a run.** -/
theorem run_chronicle (settings : Settings) (latency : Latency) (isDisabled : NodeId → Bool)
    {net : Network} (wall : Instant) (h : net.Idle) (moves : List Move) :
    let w := create settings latency isDisabled net wall
    Chronicle (w.run moves) (w.record moves) := by
  simpa using (create_chronicle settings latency isDisabled wall h).run moves

end World

end Live

end MixRounds
