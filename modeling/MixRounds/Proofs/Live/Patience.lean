import MixRounds.Proofs.Live.Readiness
import MixRounds.Proofs.Live.Refusal

/-!
# Members that take their time

One number counts the members that are ready, whatever they are ready for.  A member that completes while
its round is still in precomputing is counted there all the same, in the place of another one
(`World.standby_iff_of_realtime`); and the same slip is behind every refusal of a run that leaves traces.

As long as no member completes early (`World.Patient`), the record of a round in precomputing holds standbys
alone, and that of a round in realtime the standby of everybody (`InTime`, `World.inTime_step`).  So there is
room for every member that reports, and the round can move with the last of them (`World.room_of_inTime`).
**`World.unchanged_of_patient`** — a notification that is refused in such a run changes nothing.
-/

namespace MixRounds

lemma Phase.eq_of_mayAdvance_realtime {p : Phase} (h : p.mayAdvance .realtime = true) :
    p = .precomputing := by
  revert h
  cases p <;> decide

lemma Phase.eq_of_mayAdvance_precomputing {p : Phase} (h : p.mayAdvance .precomputing = true) :
    p = .pending := by
  revert h
  cases p <;> decide

lemma Phase.not_mayAdvance_pending (p : Phase) : p.mayAdvance .pending = false := by
  cases p <;> rfl

namespace Live

/-- What the record says about a round whose members take their time. -/
structure InTime (told : List Telling) (r : Round) : Prop where
  started : r.phase ≠ .pending
  precomputing : r.phase = .precomputing → ∀ v, (v, Activity.completed) ∉ told.map Telling.pair
  realtime : r.phase = .realtime → ∀ v ∈ r.topology, (v, Activity.standby) ∈ told.map Telling.pair

/-- **Whoever reports something new finds room**, if everything that was counted is among `all`, which has
one entry for everybody and each of the phases so far. -/
lemma Recorded.ready_lt {told : List Telling} {holding : NodeId → Option RoundId}
    {heard : NodeId → Activity → Prop} {id : RoundId} {r : Round} (h : Recorded told holding heard id r)
    {p : NodeId × Activity} (all : List (NodeId × Activity)) (hnew : p ∉ told.map Telling.pair)
    (hp : p ∈ all) (hcounted : (told.filter Telling.counts).map Telling.pair ⊆ all)
    (hall : all.length = r.teamSize * (r.phase.teamsCounted + 1)) : r.ready < r.teamSize := by
  have hfresh : p ∉ (told.filter Telling.counts).map Telling.pair :=
    fun hmem => hnew ((List.filter_sublist.map _).subset hmem)
  have hnodup : (p :: (told.filter Telling.counts).map Telling.pair).Nodup :=
    List.nodup_cons.2 ⟨hfresh, h.nodup_counted⟩
  have hle := (List.subperm_of_subset hnodup (List.cons_subset.2 ⟨hp, hcounted⟩)).length_le
  have htally := h.tally
  rw [List.countP_eq_length_filter] at htally
  rw [List.length_cons, List.length_map, htally, hall, Nat.mul_succ] at hle
  omega

namespace World

variable {w : World} {told : RoundId → List Telling} {m : Move} {id : RoundId}

/-- The loop takes a report of completion, and the round of the node is in precomputing. -/
def Hastens (w : World) (m : Move) : Prop :=
  ∃ n id, w.delivered? m = some n ∧ w.shared.kindOf n = .activity .completed ∧
    w.shared.net.holding n.node = some id ∧ w.shared.net.phase? id = some .precomputing

/-- No member completes early. -/
def Patient (w : World) (moves : List Move) : Prop :=
  ∀ earlier m later, moves = earlier ++ m :: later → ¬ (w.run earlier).Hastens m

/-! ## The records -/

/-- Who tells a round something holds it. -/
lemma of_mem_telling {v : NodeId} {a : Activity}
    (h : (v, a) ∈ ((w.report? m).bind fun rep => rep.telling? id).toList.map Telling.pair) :
    ∃ n, w.delivered? m = some n ∧ n.node = v ∧ w.shared.kindOf n = .activity a ∧
      w.shared.net.holding v = some id := by
  obtain ⟨t, ht, heq⟩ := List.mem_map.1 h
  obtain ⟨rfl, rfl⟩ := Prod.mk.inj heq
  obtain ⟨rep, hrep, htelling⟩ := Option.bind_eq_some_iff.1 (Option.mem_toList.1 ht)
  obtain ⟨n, hn, rfl⟩ := Option.map_eq_some_iff.1 hrep
  rw [Report.telling?] at htelling
  split at htelling
  · rename_i a hkind
    split at htelling
    · rename_i hheld
      cases htelling
      exact ⟨n, hn, rfl, hkind, hheld⟩
    · cases htelling
  · cases htelling

/-- **A move in which nobody completes early** keeps the records in time. -/
lemma inTime_step (h : Chronicle w told) (hm : ¬ w.Hastens m)
    (hin : ∀ id r, w.ledger.rounds id = some r → InTime (told id) r) {r' : Round}
    (hr' : (w.step m).ledger.rounds id = some r') :
    InTime (told id ++ ((w.report? m).bind fun rep => rep.telling? id).toList) r' := by
  -- nothing is told to a round that is not there, and no completion to one in precomputing
  have hthere : ∀ v a, (v, a) ∈ ((w.report? m).bind fun rep => rep.telling? id).toList.map
      Telling.pair → ∃ r, w.ledger.rounds id = some r := by
    intro v a hv
    obtain ⟨n, -, -, -, hheld⟩ := of_mem_telling hv
    exact exists_round h.roster hheld
  have hlate : ∀ v r, w.ledger.rounds id = some r → r.phase = .precomputing →
      (v, Activity.completed) ∉ ((w.report? m).bind fun rep => rep.telling? id).toList.map
        Telling.pair := by
    intro v r hr hphase hv
    obtain ⟨n, hn, rfl, hkind, hheld⟩ := of_mem_telling hv
    have hround : w.shared.net.rounds.get? id = some r := hr
    exact hm ⟨n, id, hn, hkind, hheld, by simp [Network.phase?, hround, hphase]⟩
  have hnone : ∀ r, w.ledger.rounds id = some r → r.phase = .precomputing → ∀ v,
      (v, Activity.completed) ∉ (told id ++ ((w.report? m).bind fun rep => rep.telling? id).toList).map
        Telling.pair := by
    intro r hr hphase v hv
    rw [List.map_append, List.mem_append] at hv
    exact hv.elim ((hin id r hr).precomputing hphase v) (hlate v r hr hphase)
  have hchange := step_change h.roster m id
  rw [hr'] at hchange
  cases hr : w.ledger.rounds id with
  | none =>
      rw [hr] at hchange
      cases hchange with
      | start hphase =>
          refine ⟨by simp [hphase], fun _ v hv => ?_, fun hrealtime => by simp [hphase] at hrealtime⟩
          rw [h.unknown id hr, List.nil_append] at hv
          obtain ⟨r, hsome⟩ := hthere v _ hv
          cases hr.symm.trans hsome
  | some r =>
      rw [hr] at hchange
      have hbefore := hin id r hr
      cases hchange with
      | stay hphase =>
          refine ⟨hphase ▸ hbefore.started, fun hp => hnone r hr (hphase ▸ hp), fun hp v hv => ?_⟩
          rw [topology_of_step h.roster hr hr'] at hv
          rw [List.map_append]
          exact List.mem_append_left _ (hbefore.realtime (hphase ▸ hp) v hv)
      | fail _ hafter =>
          exact ⟨by simp [hafter], fun hp => by simp [hafter] at hp, fun hp => by simp [hafter] at hp⟩
      | advance hmay hready =>
          refine ⟨fun hp => ?_, fun hp => ?_, fun hp => ?_⟩
          · rw [hp, Phase.not_mayAdvance_pending] at hmay
            cases hmay
          · rw [hp] at hmay
            exact absurd (Phase.eq_of_mayAdvance_precomputing hmay) hbefore.started
          · -- the round has just entered realtime, without a completion
            rw [hp] at hmay
            have hafter := h.step m
            have hrecorded := hafter.recorded id r' hr' (by simp [hp])
            have hround : (w.step m).shared.net.rounds.get? id = some r' := hr'
            have hteam : r'.topology.Nodup :=
              hafter.roster.team_nodup id r'.topology (by simp [roster, Network.team?, hround])
            exact (hrecorded.standby_iff_of_fresh_realtime hp hready hteam).2
              (hnone r hr (Phase.eq_of_mayAdvance_realtime hmay))

/-- The records of a run in which no member completes early are in time. -/
lemma inTime_of_patient (hc : Chronicle w told)
    (hin : ∀ id r, w.ledger.rounds id = some r → InTime (told id) r) {moves : List Move}
    (hpatient : w.Patient moves) {r : Round} (hr : (w.run moves).ledger.rounds id = some r) :
    InTime (told id ++ w.record moves id) r := by
  induction moves generalizing w told with
  | nil =>
      simpa [record, history] using hin id r hr
  | cons m rest ih =>
      have hnow : ¬ w.Hastens m := hpatient [] m rest rfl
      have hlater : (w.step m).Patient rest := fun earlier m' later heq => by
        subst heq
        exact hpatient (m :: earlier) m' later rfl
      have hrest := ih (hc.step m) (fun id r hr => inTime_step hc hnow hin hr) hlater hr
      simpa only [record_cons, List.append_assoc] using hrest

/-! ## There is room -/

/-- What a member reports it has not told before, unless its round has failed. -/
lemma not_told_of_delivered (h : Chronicle w told) {n : Notification} (hn : w.delivered? m = some n)
    {r : Round} (hr : w.ledger.rounds id = some r) (hheld : w.ledger.holding n.node = some id)
    (hlive : r.phase ≠ .failed) {a : Activity} (hk : w.shared.kindOf n = .activity a)
    (ha : a = .standby ∨ a = .completed) : (n.node, a) ∉ (told id).map Telling.pair := by
  have hrefused : ∀ b, w.shared.kindOf n = .activity b →
      (decide (r.teamSize ≤ r.ready) = true ↔ (b = .standby ∨ b = .completed) ∧ r.teamSize ≤ r.ready) := by
    intro b hb
    obtain rfl : a = b := by simpa [hk] using hb
    simp [ha]
  have hafter : ((w.shared.kindOf n).effect w.settings w.wall id r).phase ≠ .failed := by
    rw [hk]
    rcases ha with rfl | rfl <;> simp only [Kind.effect]
    all_goals
      rcases r.tallied_cases id _ _ with ⟨-, heq⟩ | ⟨-, -, heq⟩ | ⟨-, -, heq⟩ <;> rw [heq]
      · exact hlive
      · exact hlive
      · simp
  have hnodup := (h.recorded_of_delivered hn hr hheld _ hrefused hafter).nodup
  rw [hk, List.map_append, List.nodup_append] at hnodup
  exact fun hmem => hnodup.2.2 _ hmem _ (List.mem_singleton_self _) rfl

/-- **There is room for a member that reports**, and its round is where it can move from. -/
lemma room_of_inTime (h : Chronicle w told) {n : Notification} (hn : w.delivered? m = some n)
    (hm : ¬ w.Hastens m) {r : Round} (hr : w.ledger.rounds id = some r)
    (hheld : w.ledger.holding n.node = some id) (hin : InTime (told id) r) {a : Activity}
    (hk : w.shared.kindOf n = .activity a) (ha : a = .standby ∨ a = .completed) :
    r.ready < r.teamSize ∧
      r.phase.mayAdvance (if a = .standby then .realtime else .completed) = true := by
  have hround : w.shared.net.rounds.get? id = some r := hr
  have hlive : r.phase ≠ .failed := by
    intro hfailed
    have hkind := Shared.kindOf_of_holds (n := n) (some (id, r)) ⟨hheld, hround⟩
    rw [hk] at hkind
    obtain ⟨hstatus, rfl⟩ := of_classify_activity hkind.symm
    rcases ha with ha | ha <;> simp [classify, hstatus, hfailed, ha] at hkind
  have hbefore := h.recorded id r hr hlive
  have hmember : n.node ∈ r.topology := h.member hr hheld
  have hnew := not_told_of_delivered h hn hr hheld hlive hk ha
  cases hphase : r.phase with
  | pending => exact absurd hphase hin.started
  | failed => exact absurd hphase hlive
  | completed =>
      exact absurd hheld (hbefore.not_holding_of_completed hphase (fun v hv => h.member hr hv) n.node)
  | precomputing =>
      obtain rfl : a = .standby := by
        refine ha.resolve_right fun hcompleted => hm ⟨n, id, hn, hcompleted ▸ hk, hheld, ?_⟩
        simp [Network.phase?, hround, hphase]
      refine ⟨?_, rfl⟩
      refine hbefore.ready_lt (r.topology.map fun v => (v, Activity.standby)) hnew
        (List.mem_map_of_mem hmember) ?_ (by simp [hphase, Phase.teamsCounted, Round.teamSize])
      rintro ⟨v, b⟩ hp
      obtain ⟨hv, hb⟩ := List.mem_product.1 (hbefore.counted_subset hp)
      have hcases : b = .standby ∨ b = .completed := by simpa using hb
      rcases hcases with rfl | rfl
      · exact List.mem_map_of_mem hv
      · exact absurd ((List.filter_sublist.map _).subset hp) (hin.precomputing hphase v)
  | realtime =>
      obtain rfl : a = .completed :=
        ha.resolve_left fun hstandby => hnew (hstandby ▸ hin.realtime hphase n.node hmember)
      refine ⟨?_, rfl⟩
      exact hbefore.ready_lt _ hnew (List.mem_product.2 ⟨hmember, by simp⟩) hbefore.counted_subset
        (by simp [List.length_product, hphase, Phase.teamsCounted, Round.teamSize])

/-- **A refused notification changes nothing** in a run in which no member completes early. -/
theorem unchanged_of_patient (settings : Settings) (latency : Latency) (isDisabled : NodeId → Bool)
    {net : Network} (wall : Instant) (hidle : net.Idle) {moves : List Move} {m : Move}
    (hpatient : (create settings latency isDisabled net wall).Patient (moves ++ [m]))
    (hw : (create settings latency isDisabled net wall).run moves = w) {n : Notification}
    (hn : w.delivered? m = some n) {fault : Fault} {s' : Shared}
    (h : (w.takenOver n).shared.apply w.settings w.wall w.clock w.loop.reserved n = (s', .error fault)) :
    s' = (w.takenOver n).shared := by
  have hchronicle : Chronicle w ((create settings latency isDisabled net wall).record moves) :=
    hw ▸ run_chronicle settings latency isDisabled wall hidle moves
  have hnow : ¬ w.Hastens m := hw ▸ hpatient moves m [] rfl
  have hin : ∀ id r, w.ledger.rounds id = some r →
      InTime ((create settings latency isDisabled net wall).record moves id) r := by
    intro id r hr
    have hbefore : (create settings latency isDisabled net wall).Patient moves :=
      fun earlier m' later heq => hpatient earlier m' (later ++ [m]) (by simp [heq])
    refine inTime_of_patient (create_chronicle settings latency isDisabled wall hidle) ?_ hbefore
      (by rwa [hw])
    intro id r hr
    cases (hidle.rounds id).symm.trans hr
  have hroom : ∀ {id r a}, (w.takenOver n).shared.Holds n.node (some (id, r)) →
      (w.takenOver n).shared.kindOf n = .activity a → a = .standby ∨ a = .completed →
      r.ready < r.teamSize ∧
        r.phase.mayAdvance (if a = .standby then .realtime else .completed) = true := by
    rintro id r a ⟨hheld, hround⟩ hk
    rw [holding_takenOver] at hheld
    rw [kindOf_takenOver] at hk
    exact room_of_inTime hchronicle hn hnow hround hheld (hin id r hround) hk
  cases Shared.apply_eq_error_iff.1 h with
  | unknownNode | unknownRound | noRound | fullStandby => rfl
  | fullCompletion hheld hk hfull => exact absurd (hroom hheld hk (Or.inr rfl)).1 (by omega)
  | stuckStandby hheld hk _ hphase =>
      have hmay := (hroom hheld hk (Or.inl rfl)).2
      rw [if_pos rfl, hphase] at hmay
      cases hmay
  | stuckCompletion hheld hk _ hphase =>
      have hmay := (hroom hheld hk (Or.inr rfl)).2
      rw [if_neg (by decide), hphase] at hmay
      cases hmay

end World

end Live

end MixRounds
