import Mathlib.Data.List.Induction
import Mathlib.Data.List.Infix
import Mathlib.Data.List.Nodup
import MixRounds.Round.Signal

/-!
# The life of a round, call by call

Three calls change a round: it is asked to move on, a member is counted, or it is forced to fail.  Each of
them does one of a few things (`SignalledRound.Does`), and a call that is turned down does nothing.  What a
call does keeps three things in step that are written in different places: the phase, the count with the
stamps, and the signal (`SignalledRound.Sound`).

**`SignalledRound.lifecycle`** is what comes of it for every list of calls: the phase only rises, each phase
is stamped once, when it is entered, and stays stamped so; nobody is counted beyond the team; the signal
shows the phase; and at most one call is told that the round has failed through it.
-/

namespace MixRounds

namespace SignalledRound

/-- A call to a round. -/
inductive Call where
  | advance (next : Phase) (time : Instant)
  | countReady
  | fail (time : Instant)
  deriving DecidableEq, Repr

/-- What a call comes to. -/
inductive Answer where
  /-- The round has moved on. -/
  | moved
  /-- One member more is ready; says whether the team is complete. -/
  | counted (complete : Bool)
  /-- The round is at its end; says whether it failed through this call. -/
  | failed (first : Bool)
  | refused (fault : Fault)
  deriving DecidableEq, Repr

/-- The call was one that changes the phase, and it succeeded. -/
def Answer.isMove : Answer → Bool
  | moved | failed true => true
  | _ => false

/-- The call was turned down. -/
def Answer.isTurnedDown : Answer → Bool
  | refused _ | failed false => true
  | _ => false

/-- The time that comes with a call. -/
def Call.time? : Call → Option Instant
  | advance _ t | fail t => some t
  | countReady => none

/-- A call, its answer, and the round after it. -/
def call (id : RoundId) (s : SignalledRound) : Call → Answer × SignalledRound
  | .advance next t =>
      match s.advance id next t with
      | .ok s' => (.moved, s')
      | .error fault => (.refused fault, s)
  | .countReady =>
      match s.countReady id with
      | .ok (s', complete) => (.counted complete, s')
      | .error fault => (.refused fault, s)
  | .fail t => (.failed (s.fail t).1, (s.fail t).2)

/-- The round after a list of calls. -/
def run (id : RoundId) (s : SignalledRound) (calls : List Call) : SignalledRound :=
  calls.foldl (fun s c => (s.call id c).2) s

/-- What a list of calls is answered. -/
def answers (id : RoundId) (s : SignalledRound) : List Call → List Answer
  | [] => []
  | c :: rest => (s.call id c).1 :: (s.call id c).2.answers id rest

variable {id : RoundId} {s s' : SignalledRound} {c : Call} {o : Answer}

lemma run_snoc (id : RoundId) (s : SignalledRound) (calls : List Call) (c : Call) :
    s.run id (calls ++ [c]) = ((s.run id calls).call id c).2 := by simp [run]

lemma answers_snoc (id : RoundId) (s : SignalledRound) (calls : List Call) (c : Call) :
    s.answers id (calls ++ [c]) = s.answers id calls ++ [((s.run id calls).call id c).1] := by
  induction calls generalizing s with
  | nil => rfl
  | cons c' rest ih => simp [answers, ih, run]

/-! ## What a call does -/

/-- The round has entered the phase at time `t`. -/
def enter (s : SignalledRound) (p : Phase) (t : Instant) (ready : Nat) : SignalledRound :=
  ⟨{ s.round with phase := p, ready := ready, stamps := s.round.stamps.insert p t }, s.signal.set p⟩

/-- **What a call does**, with its answer. -/
inductive Does (id : RoundId) (s : SignalledRound) : Call → Answer → SignalledRound → Prop
  /-- A step of the life cycle: the count begins again. -/
  | advanced {next : Phase} {t : Instant} (hmay : s.round.phase.mayAdvance next = true) :
      Does id s (.advance next t) .moved (s.enter next t 0)
  | illegal {next : Phase} {t : Instant} (hmay : s.round.phase.mayAdvance next = false) :
      Does id s (.advance next t) (.refused (.illegalPhase id s.round.phase next)) s
  | counted (hroom : s.round.ready < s.round.teamSize) :
      Does id s .countReady (.counted (s.round.ready + 1 == s.round.teamSize))
        { s with round := { s.round with ready := s.round.ready + 1 } }
  | full (hfull : s.round.teamSize ≤ s.round.ready) :
      Does id s .countReady (.refused (.readinessOverflow id s.round.teamSize)) s
  /-- The round fails, and the count stays as it is. -/
  | failed {t : Instant} (hlive : s.round.phase.isTerminal = false) :
      Does id s (.fail t) (.failed true) (s.enter .failed t s.round.ready)
  | late {t : Instant} (hend : s.round.phase.isTerminal = true) : Does id s (.fail t) (.failed false) s

/-- **Every call** does one of these. -/
lemma does_call (id : RoundId) (s : SignalledRound) (c : Call) :
    Does id s c (s.call id c).1 (s.call id c).2 := by
  cases c with
  | advance next t =>
      cases hmay : s.round.phase.mayAdvance next with
      | true => simpa [call, advance, Round.advance, enter, hmay]
          using (Does.advanced hmay : Does id s (.advance next t) _ _)
      | false => simpa [call, advance, Round.advance, hmay]
          using (Does.illegal hmay : Does id s (.advance next t) _ _)
  | countReady =>
      rcases Nat.lt_or_ge s.round.ready s.round.teamSize with hroom | hfull
      · simpa [call, countReady, Round.countReady, Nat.not_le.2 hroom]
          using (Does.counted hroom : Does id s _ _ _)
      · simpa [call, countReady, Round.countReady, hfull] using (Does.full hfull : Does id s _ _ _)
  | fail t =>
      cases hend : s.round.phase.isTerminal with
      | true => simpa [call, fail, Round.fail, hend] using (Does.late hend : Does id s (.fail t) _ _)
      | false => simpa [call, fail, Round.fail, enter, hend]
          using (Does.failed hend : Does id s (.fail t) _ _)

/-- Whatever changes the phase of a round finds it alive, and raises its phase. -/
lemma Does.rises (h : Does id s c o s') (hmove : o.isMove = true) :
    s.round.phase.isTerminal = false ∧ s.round.phase.rank < s'.round.phase.rank := by
  cases h with
  | advanced hmay =>
      refine ⟨?_, Phase.rank_lt_of_mayAdvance hmay⟩
      by_contra hend
      rw [Phase.not_mayAdvance_of_isTerminal (by simpa using hend)] at hmay
      cases hmay
  | failed hlive =>
      refine ⟨hlive, ?_⟩
      simp only [enter]
      cases hphase : s.round.phase <;> simp_all [Phase.rank, Phase.isTerminal]
  | illegal | counted | full | late => cases hmove

/-- No other call changes phase, stamps or signal. -/
lemma Does.stays (h : Does id s c o s') (hmove : o.isMove = false) :
    s'.round.phase = s.round.phase ∧ s'.round.stamps = s.round.stamps ∧ s'.signal = s.signal := by
  cases h with
  | advanced | failed => cases hmove
  | illegal | counted | full | late => exact ⟨rfl, rfl, rfl⟩

/-- A round that has failed through a call is at its end. -/
lemma Does.ends (h : Does id s c (.failed true) s') : s'.round.phase.isTerminal = true := by
  cases h
  rfl

/-! ## What calls keep in step -/

/-- Count, stamps and signal are in step with the phase. -/
structure Sound (s : SignalledRound) : Prop where
  bounded : s.round.ready ≤ s.round.teamSize
  shown : s.signal.shown = s.round.phase
  /-- The present phase was the last to be stamped. -/
  latest : ∃ t, s.round.stamps.getLast? = some (s.round.phase, t)
  ordered : s.round.stamps.phases.Pairwise fun p q => p.rank < q.rank

lemma sound_allocate (team : List NodeId) (batch : UInt32) (born : Instant) :
    (allocate team batch born).Sound where
  bounded := Nat.zero_le _
  shown := rfl
  latest := ⟨born, rfl⟩
  ordered := List.pairwise_singleton _ _

/-- The present phase is stamped. -/
lemma Sound.mem_phase (h : s.Sound) : s.round.phase ∈ s.round.stamps.phases := by
  obtain ⟨t, hlast⟩ := h.latest
  exact List.mem_map_of_mem (f := Prod.fst) (List.mem_of_getLast? hlast)

/-- No phase after the present one was stamped. -/
lemma Sound.rank_le (h : s.Sound) {p : Phase} (hp : p ∈ s.round.stamps.phases) :
    p.rank ≤ s.round.phase.rank := by
  obtain ⟨t, hlast⟩ := h.latest
  obtain ⟨earlier, hstamps⟩ := List.getLast?_eq_some_iff.1 hlast
  have hordered := h.ordered
  rw [Stamps.phases, hstamps, List.map_append] at hordered hp
  rcases List.mem_append.1 hp with hp | hp
  · exact Nat.le_of_lt ((List.pairwise_append.1 hordered).2.2 p hp _ List.mem_cons_self)
  · rw [List.mem_singleton.1 hp]

/-- **A phase that is entered** is stamped behind the others. -/
lemma Sound.stamps_enter (h : s.Sound) {p : Phase} (hp : s.round.phase.rank < p.rank) (t : Instant) :
    s.round.stamps.insert p t = s.round.stamps ++ [(p, t)] :=
  Stamps.insert_of_lt (fun _ hq => Nat.lt_of_le_of_lt (h.rank_le hq) hp) t

lemma Sound.enter (h : s.Sound) {p : Phase} (hp : s.round.phase.rank < p.rank) (t : Instant) {ready : Nat}
    (hready : ready ≤ s.round.teamSize) : (s.enter p t ready).Sound where
  bounded := hready
  shown := rfl
  latest := ⟨t, by simp [SignalledRound.enter, h.stamps_enter hp]⟩
  ordered := by
    simp only [SignalledRound.enter, h.stamps_enter hp, Stamps.phases, List.map_append]
    refine List.pairwise_append.2 ⟨h.ordered, List.pairwise_singleton _ _, fun q hq r hr => ?_⟩
    rw [List.mem_singleton.1 hr]
    exact Nat.lt_of_le_of_lt (h.rank_le hq) hp

/-- **Every call** keeps them in step. -/
lemma Sound.does (h : s.Sound) (hdoes : Does id s c o s') : s'.Sound := by
  cases hdoes with
  | advanced hmay => exact h.enter (Phase.rank_lt_of_mayAdvance hmay) _ (Nat.zero_le _)
  | @failed t hlive =>
      exact h.enter ((Does.failed hlive : Does id s (.fail t) _ _).rises rfl).2 _ h.bounded
  | counted hroom => exact ⟨hroom, h.shown, h.latest, h.ordered⟩
  | illegal | full | late => exact h

lemma Sound.run (h : s.Sound) (id : RoundId) (calls : List Call) : (s.run id calls).Sound := by
  induction calls generalizing s with
  | nil => exact h
  | cons c rest ih => exact ih (h.does (does_call id s c))

/-- Stamps are only added: one for a phase that is entered, with the time that came with the call. -/
lemma Sound.stamps_does (h : s.Sound) (hdoes : Does id s c o s') (hmove : o.isMove = true) :
    ∃ t, c.time? = some t ∧ s'.round.stamps = s.round.stamps ++ [(s'.round.phase, t)] := by
  have hrises := (hdoes.rises hmove).2
  cases hdoes with
  | @advanced next t hmay => exact ⟨t, rfl, h.stamps_enter hrises t⟩
  | @failed t hlive => exact ⟨t, rfl, h.stamps_enter hrises t⟩
  | illegal | counted | full | late => cases hmove

lemma Sound.stamps_prefix (h : s.Sound) (hdoes : Does id s c o s') :
    s.round.stamps <+: s'.round.stamps := by
  cases hmove : o.isMove with
  | true =>
      obtain ⟨t, -, hstamps⟩ := h.stamps_does hdoes hmove
      rw [hstamps]
      exact List.prefix_append _ _
  | false => rw [(hdoes.stays hmove).2.1]

/-- **Stamps stay** as they are. -/
lemma Sound.stamps_run (h : s.Sound) (calls : List Call) :
    s.round.stamps <+: (s.run id calls).round.stamps := by
  induction calls generalizing s with
  | nil => exact List.prefix_refl _
  | cons c rest ih =>
      have hdoes := does_call id s c
      exact (h.stamps_prefix hdoes).trans (ih (h.does hdoes))

/-- A call adds at most one phase to those that are stamped: the one that the round is in after it. -/
lemma Sound.mem_phases_does (h : s.Sound) (hdoes : Does id s c o s') {p : Phase} :
    p ∈ s'.round.stamps.phases ↔ p ∈ s.round.stamps.phases ∨ s'.round.phase = p := by
  cases hmove : o.isMove with
  | true =>
      obtain ⟨t, -, hstamps⟩ := h.stamps_does hdoes hmove
      simp [Stamps.phases, hstamps, eq_comm]
  | false =>
      obtain ⟨hphase, hstamps, -⟩ := hdoes.stays hmove
      rw [hstamps, hphase]
      refine ⟨Or.inl, ?_⟩
      rintro (hp | rfl)
      · exact hp
      · exact h.mem_phase

/-- **The phases that are stamped** are those that the round has been in. -/
lemma Sound.mem_phases_run (h : s.Sound) {calls : List Call} {p : Phase} :
    p ∈ (s.run id calls).round.stamps.phases ↔ p ∈ s.round.stamps.phases ∨
      ∃ before, before <+: calls ∧ (s.run id before).round.phase = p := by
  induction calls using List.reverseRecOn with
  | nil =>
      refine ⟨Or.inl, ?_⟩
      rintro (hp | ⟨before, hbefore, rfl⟩)
      · exact hp
      · obtain rfl := List.prefix_nil.1 hbefore
        exact h.mem_phase
  | append_singleton calls c ih =>
      rw [run_snoc, (h.run id calls).mem_phases_does (does_call id _ c), ih, or_assoc, ← run_snoc]
      refine or_congr_right ⟨?_, ?_⟩
      · rintro (⟨before, hbefore, hp⟩ | hp)
        · exact ⟨before, hbefore.trans (List.prefix_append _ _), hp⟩
        · exact ⟨_, List.prefix_refl _, hp⟩
      · rintro ⟨before, hbefore, hp⟩
        rcases List.prefix_concat_iff.1 hbefore with rfl | hbefore
        · exact Or.inr hp
        · exact Or.inl ⟨before, hbefore, hp⟩

/-- **Once a call was told that the round failed through it**, the round is at its end, and no other call is
told so. -/
lemma countP_answers (id : RoundId) (s : SignalledRound) (calls : List Call) :
    (s.answers id calls).countP (· = .failed true)
      ≤ if (s.run id calls).round.phase.isTerminal then 1 else 0 := by
  induction calls using List.reverseRecOn with
  | nil => exact Nat.zero_le _
  | append_singleton calls c ih =>
      have hdoes := does_call id (s.run id calls) c
      rw [answers_snoc, List.countP_append, run_snoc, List.countP_singleton]
      by_cases hfailed : ((s.run id calls).call id c).1 = .failed true
      · rw [hfailed] at hdoes
        rw [(hdoes.rises rfl).1] at ih
        rw [hdoes.ends, hfailed]
        simpa using ih
      · have hkept : (s.run id calls).round.phase.isTerminal = true →
            ((s.run id calls).call id c).2.round.phase.isTerminal = true := by
          intro hend
          cases hmove : ((s.run id calls).call id c).1.isMove with
          | true => rw [(hdoes.rises hmove).1] at hend; cases hend
          | false => rw [(hdoes.stays hmove).1]; exact hend
        simp only [hfailed, decide_false, Bool.false_eq_true, if_false, Nat.add_zero]
        refine ih.trans ?_
        split
        · rename_i hend
          rw [if_pos (hkept hend)]
        · exact Nat.zero_le _

/-! ## Every list of calls -/

/-- What holds of a call `c` that is answered `o` and takes the round from `s` to `s'`. -/
structure Proceeds (s : SignalledRound) (c : Call) (o : Answer) (s' : SignalledRound) : Prop where
  /-- Whoever succeeds in changing the phase raises it, and nobody else changes it. -/
  rises : if o.isMove then s.round.phase.rank < s'.round.phase.rank else s'.round.phase = s.round.phase
  /-- A round that is completed or has failed stays so. -/
  final : s.round.phase.isTerminal = true → s'.round.phase = s.round.phase
  /-- After a step of the life cycle the count begins again. -/
  reset : o = .moved → s'.round.ready = 0
  /-- A phase that is entered is stamped with the time of the call, and no other stamp is written. -/
  stamped : if o.isMove
    then ∃ t, c.time? = some t ∧ s'.round.stamps = s.round.stamps ++ [(s'.round.phase, t)]
    else s'.round.stamps = s.round.stamps
  /-- A call that is turned down leaves the round and its signal as they were. -/
  turnedDown : o.isTurnedDown = true → s' = s

/-- What holds of a round that was `start`, and that these calls have come to. -/
structure Lived (id : RoundId) (start : SignalledRound) (calls : List Call) : Prop where
  /-- Nobody is counted beyond the team. -/
  bounded : (start.run id calls).round.ready ≤ (start.run id calls).round.teamSize
  /-- The signal shows the phase. -/
  shown : (start.run id calls).signal.shown = (start.run id calls).round.phase
  /-- The phases that are stamped are those that the round has been in, -/
  visited : ∀ p, p ∈ (start.run id calls).round.stamps.phases ↔
    ∃ before, before <+: calls ∧ (start.run id before).round.phase = p
  /-- each of them is stamped once, -/
  once : (start.run id calls).round.stamps.phases.Nodup
  /-- and as it was stamped, so it stays. -/
  kept : ∀ before, before <+: calls →
    (start.run id before).round.stamps <+: (start.run id calls).round.stamps
  /-- At most one call is told that the round failed through it. -/
  failedOnce : (start.answers id calls).countP (· = .failed true) ≤ 1
  next : ∀ c, Proceeds (start.run id calls) c ((start.run id calls).call id c).1
    ((start.run id calls).call id c).2

lemma Sound.proceeds (h : s.Sound) (hdoes : Does id s c o s') : Proceeds s c o s' := by
  refine ⟨?_, fun hend => ?_, fun hmoved => ?_, ?_, fun hdown => ?_⟩
  · cases hmove : o.isMove with
    | true => exact (hdoes.rises hmove).2
    | false => exact (hdoes.stays hmove).1
  · cases hmove : o.isMove with
    | true => rw [(hdoes.rises hmove).1] at hend; cases hend
    | false => exact (hdoes.stays hmove).1
  · subst hmoved
    cases hdoes
    rfl
  · cases hmove : o.isMove with
    | true => exact h.stamps_does hdoes hmove
    | false => exact (hdoes.stays hmove).2.1
  · cases hdoes with
    | illegal | full | late => rfl
    | advanced | counted | failed => cases hdown

/-- **The life of a round**, from its allocation and through any list of calls. -/
theorem lifecycle (id : RoundId) (team : List NodeId) (batch : UInt32) (born : Instant) (calls : List Call) :
    Lived id (allocate team batch born) calls := by
  have hstart := sound_allocate team batch born
  have hsound := hstart.run id calls
  refine ⟨hsound.bounded, hsound.shown, fun p => ?_, ?_, fun before hbefore => ?_, ?_,
    fun c => hsound.proceeds (does_call id _ c)⟩
  · rw [hstart.mem_phases_run]
    refine ⟨?_, Or.inr⟩
    rintro (hp | hp)
    · exact ⟨[], List.nil_prefix, (List.mem_singleton.1 hp).symm⟩
    · exact hp
  · exact hsound.ordered.imp fun hlt heq => absurd (heq ▸ hlt) (Nat.lt_irrefl _)
  · obtain ⟨after, rfl⟩ := hbefore
    have happend : (allocate team batch born).run id (before ++ after)
        = ((allocate team batch born).run id before).run id after := List.foldl_append
    rw [happend]
    exact (hstart.run id before).stamps_run after
  · refine (countP_answers id _ calls).trans ?_
    split
    · exact Nat.le_refl _
    · exact Nat.zero_le _

end SignalledRound

end MixRounds
