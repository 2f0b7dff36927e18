import MixRounds.Proofs.Live.Ledger

/-!
# The course of a round

Whatever a move does, it leaves the phase of a round as it is, or starts the round, or fails it, or
moves it one phase on with nobody counted (`Round.Change`, **`World.step_change`**).  Over a run this
says two things:

* a completed round stays completed (`World.run_completed`);
* the phase of a round that has not failed tells how often it has entered realtime and completed
  (`World.entries_add_entries`).
-/

namespace MixRounds

/-- How often a whole team was counted before a round entered the phase. -/
def Phase.teamsCounted : Phase → Nat
  | .realtime => 1
  | .completed => 2
  | _ => 0

namespace Round

/-- What one move may do to the round of one number. -/
inductive Change : Option Round → Option Round → Prop
  | absent : Change none none
  | start {r : Round} (hphase : r.phase = .precomputing) : Change none (some r)
  | stay {r r' : Round} (hphase : r'.phase = r.phase) : Change (some r) (some r')
  | fail {r r' : Round} (hbefore : r.phase ≠ .completed) (hafter : r'.phase = .failed) :
      Change (some r) (some r')
  | advance {r r' : Round} (hmay : r.phase.mayAdvance r'.phase = true) (hready : r'.ready = 0) :
      Change (some r) (some r')

namespace Change

lemma refl (r : Option Round) : Change r r := by
  cases r with
  | none => exact .absent
  | some r => exact .stay rfl

lemma map {f : Round → Round} (h : ∀ r, Change (some r) (some (f r))) (r : Option Round) :
    Change r (r.map f) := by
  cases r with
  | none => exact .absent
  | some r => exact h r

lemma of_fail (r : Round) (now : Instant) : Change (some r) (some (r.fail now).2) := by
  rw [Round.fail]
  split
  · exact .stay rfl
  · rename_i hterminal
    refine .fail ?_ rfl
    rintro hcompleted
    simp [hcompleted, Phase.isTerminal] at hterminal

lemma of_tallied (r : Round) (id : RoundId) (next : Phase) (stamp : Instant) :
    Change (some r) (some (r.tallied id next stamp)) := by
  rcases r.tallied_cases id next stamp with ⟨-, heq⟩ | ⟨-, -, heq⟩ | ⟨-, hmay, heq⟩ <;> rw [heq]
  · exact .stay rfl
  · exact .stay rfl
  · exact .advance hmay rfl

lemma of_effect (settings : Settings) (now : Instant) (id : RoundId) (r : Round)
    (k : Live.Kind) : Change (some r) (some (k.effect settings now id r)) := by
  simp only [Live.Kind.effect]
  split
  · exact .of_fail r now
  · exact .of_fail r now
  · exact .of_tallied r _ _ _
  · exact .of_tallied r _ _ _
  · exact .stay rfl

lemma completed {r r' : Option Round} (h : Change r r') (hr : r.map phase = some .completed) :
    r'.map phase = some .completed := by
  cases h with
  | absent => exact hr
  | start => cases hr
  | stay hphase => simpa [hphase] using hr
  | fail hbefore => exact absurd (Option.some.inj hr) hbefore
  | advance hmay =>
      rw [Option.some.inj hr] at hmay
      cases hmay

lemma ready_of_realtime {r r' : Round} (h : Change (some r) (some r'))
    (hbefore : r.phase = .precomputing) (hafter : r'.phase = .realtime) : r'.ready = 0 := by
  cases h with
  | stay hphase => simp [hbefore, hafter] at hphase
  | fail _ hfailed => simp [hafter] at hfailed
  | advance _ hready => exact hready

/-- The change enters the phase. -/
def Enters (p : Phase) (r r' : Option Round) : Prop :=
  r.map phase ≠ some p ∧ r'.map phase = some p

instance (p : Phase) (r r' : Option Round) : Decidable (Enters p r r') :=
  inferInstanceAs (Decidable (_ ∧ _))

/-- A round that has not failed entered realtime or completed as often as its phase tells. -/
lemma teamsCounted {r r' : Option Round} (h : Change r r') (hlive : r'.map phase ≠ some .failed) :
    r.map phase ≠ some .failed ∧
      (r'.map phase).elim 0 Phase.teamsCounted = (r.map phase).elim 0 Phase.teamsCounted
        + ((if Enters .realtime r r' then 1 else 0) + if Enters .completed r r' then 1 else 0) := by
  cases h with
  | absent => simp [Enters]
  | start hphase => simp [Enters, hphase, Phase.teamsCounted]
  | stay hphase => simp_all [Enters]
  | fail _ hafter => simp [hafter] at hlive
  | @advance r r' hmay hready =>
      cases hp : r.phase <;> cases hp' : r'.phase <;>
        simp_all [Enters, Phase.mayAdvance, Phase.teamsCounted]

end Change

end Round

namespace Live.World

variable {w : World}

/-- **Every move** changes every round in one of these ways. -/
theorem step_change (hr : w.roster.Sound) (m : Move) (id : RoundId) :
    Round.Change (w.ledger.rounds id) ((w.step m).ledger.rounds id) := by
  cases hn : w.delivered? m with
  | some n =>
      rw [ledger_of_delivered hr hn]
      simp only [Ledger.apply]
      split
      · exact .map (fun r => .of_effect w.settings w.wall id r _) _
      · exact .refl _
  | none =>
      rcases ledger_of_not_delivered hr hn with
        heq | ⟨failed, heq⟩ | ⟨p, hp, r, -, hphase, -, heq⟩ <;> rw [heq]
      · exact .refl _
      · simp only [Ledger.fail]
        split
        · exact .map (fun r => .of_fail r w.wall) _
        · exact .refl _
      · simp only [Ledger.start]
        split
        · rename_i hid
          -- the number of the started round is new
          have hnew : w.ledger.rounds id = none :=
            hid ▸ Network.team?_eq_none_iff.1 (hr.pending_new p hp)
          rw [hnew]
          exact .start hphase
        · exact .refl _

/-- The team of a round stays the same. -/
lemma topology_of_step (hr : w.roster.Sound) {m : Move} {id : RoundId} {r r' : Round}
    (hbefore : w.ledger.rounds id = some r) (hafter : (w.step m).ledger.rounds id = some r') :
    r'.topology = r.topology := by
  have hsame : some r = some r' → r'.topology = r.topology := by
    rintro ⟨⟩
    rfl
  cases hn : w.delivered? m with
  | some n =>
      rw [ledger_of_delivered hr hn] at hafter
      simp only [Ledger.apply, hbefore, Option.map_some] at hafter
      split at hafter
      · cases hafter
        exact Live.Kind.topology_effect ..
      · exact hsame hafter
  | none =>
      rcases ledger_of_not_delivered hr hn with
        heq | ⟨failed, heq⟩ | ⟨p, hp, r₀, -, -, -, heq⟩ <;> rw [heq] at hafter
      · exact hsame (hbefore.symm.trans hafter)
      · simp only [Ledger.fail, hbefore, Option.map_some] at hafter
        split at hafter
        · cases hafter
          exact r.topology_fail _
        · exact hsame hafter
      · simp only [Ledger.start, hbefore] at hafter
        split at hafter
        · -- the number of a team to come is new
          rename_i hid
          have hnew : w.ledger.rounds id = none :=
            hid ▸ Network.team?_eq_none_iff.1 (hr.pending_new p hp)
          cases hbefore.symm.trans hnew
        · exact hsame hafter

lemma run_completed (hr : w.roster.Sound) {id : RoundId}
    (h : (w.ledger.rounds id).map Round.phase = some .completed) (moves : List Move) :
    ((w.run moves).ledger.rounds id).map Round.phase = some .completed := by
  induction moves generalizing w with
  | nil => exact h
  | cons m rest ih => exact ih (step_sound hr m) ((step_change hr m id).completed h)

/-- How often the round enters the phase in a run. -/
def entries (w : World) (id : RoundId) (p : Phase) : List Move → Nat
  | [] => 0
  | m :: rest =>
      (if Round.Change.Enters p (w.ledger.rounds id) ((w.step m).ledger.rounds id) then 1 else 0)
        + (w.step m).entries id p rest

/-- **The phase of a round counts its moves** to realtime and to completed. -/
lemma entries_add_entries (hr : w.roster.Sound) (id : RoundId) (moves : List Move)
    (hlive : ((w.run moves).ledger.rounds id).map Round.phase ≠ some .failed) :
    (w.ledger.rounds id).map Round.phase ≠ some .failed ∧
      (((w.run moves).ledger.rounds id).map Round.phase).elim 0 Phase.teamsCounted
        = ((w.ledger.rounds id).map Round.phase).elim 0 Phase.teamsCounted
          + (w.entries id .realtime moves + w.entries id .completed moves) := by
  induction moves generalizing w with
  | nil => exact ⟨hlive, rfl⟩
  | cons m rest ih =>
      obtain ⟨hnext, hrest⟩ := ih (step_sound hr m) hlive
      obtain ⟨hnow, hfirst⟩ := (step_change hr m id).teamsCounted hnext
      refine ⟨hnow, hrest.trans ?_⟩
      rw [hfirst]
      simp only [entries]
      omega

end Live.World

end MixRounds
