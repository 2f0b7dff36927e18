import MixRounds.Proofs.Live.Pacing

/-!
# The time of every team

That tries are a pause apart says when a team is *not* tried.  When it is tried is another matter: the starter
may be free and take no team, or stand in line for ever.  On a virtual clock, which moves on only when there is
nothing else to do, neither costs time.  Then every team has its time, and this is known as soon as the
team is handed over: a pause after that, or after the time of the team before it, whichever is later
(`schedule`).

`Dispatch.OnTime` says that the account keeps to the timetable.  It is kept by every move that does not let
the clock move on while a team waits for a starter that holds none back (**`Dispatch.OnTime.step`**); and it
means that the clock never passes the time of a team that was not tried (`Dispatch.OnTime.clock_le`).
-/

namespace MixRounds.Live

/-! ## The timetable -/

/-- When teams are due that were handed over at these times: each a pause after it was handed over, and after
the one before it was due. -/
def schedule (pause : Nat) : Nat → List Nat → List Nat
  | _, [] => []
  | last, t :: rest => (max last t + pause) :: schedule pause (max last t + pause) rest

section Schedule

variable {pause : Nat}

@[simp] lemma length_schedule (pause last : Nat) (ts : List Nat) :
    (schedule pause last ts).length = ts.length := by
  induction ts generalizing last with
  | nil => rfl
  | cons t rest ih => simp [schedule, ih]

/-- Whoever is handed over later changes no time before. -/
lemma schedule_append (pause last : Nat) (ts us : List Nat) : schedule pause last (ts ++ us)
    = schedule pause last ts ++ schedule pause ((schedule pause last ts).getLastD last) us := by
  induction ts generalizing last with
  | nil => rfl
  | cons t rest ih => rw [List.cons_append, schedule, ih, schedule, List.getLastD_cons, List.cons_append]

lemma getElem?_schedule_succ {last k due t : Nat} {ts : List Nat}
    (hdue : (schedule pause last ts)[k]? = some due) (ht : ts[k + 1]? = some t) :
    (schedule pause last ts)[k + 1]? = some (max due t + pause) := by
  induction ts generalizing last k with
  | nil => simp at ht
  | cons u rest ih =>
      rw [schedule, List.getElem?_cons_succ]
      rw [List.getElem?_cons_succ] at ht
      cases k with
      | zero =>
          obtain rfl : max last u + pause = due := by simpa [schedule] using hdue
          cases rest with
          | nil => simp at ht
          | cons t' rest =>
              obtain rfl : t' = t := by simpa using ht
              simp [schedule]
      | succ k => exact ih (by simpa [schedule] using hdue) ht

lemma add_le_of_mem_schedule {last due : Nat} {ts : List Nat} (h : due ∈ schedule pause last ts) :
    last + pause ≤ due := by
  induction ts generalizing last with
  | nil => cases h
  | cons t rest ih =>
      rcases List.mem_cons.1 h with rfl | h
      · omega
      · have hlater := ih h
        omega

lemma pairwise_schedule (pause last : Nat) (ts : List Nat) :
    (schedule pause last ts).Pairwise fun s t => s + pause ≤ t := by
  induction ts generalizing last with
  | nil => exact List.Pairwise.nil
  | cons t rest ih => exact List.pairwise_cons.2 ⟨fun _ => add_le_of_mem_schedule, ih _⟩

end Schedule

/-- When the teams are due. -/
def Account.timetable (a : Account) (pause : Nat) : List Nat := schedule pause 0 (a.handed.map Prod.fst)

namespace Dispatch

variable {σ σ' : Dispatch} {a : Account} {x : Passage} {pause : Nat}

/-- Every team was tried at its time, and it is not past the time of the next. -/
structure OnTime (pause : Nat) (σ : Dispatch) (a : Account) : Prop where
  times : a.tried.map Prod.fst = (a.timetable pause).take a.tried.length
  held : ∀ p due, σ.starter = .pausing p due →
    (a.timetable pause)[a.tried.length]? = some due ∧ σ.clock ≤ due
  ready : (∀ p due, σ.starter ≠ .pausing p due) → σ.protos ≠ [] →
    (a.timetable pause)[a.tried.length]? = some (σ.clock + pause)

namespace OnTime

/-- **The clock does not pass the time of a team** that was not tried. -/
lemma clock_le (h : σ.OnTime pause a) (hqueued : σ.Queued a) {k due : Nat} (hk : a.tried.length ≤ k)
    (hdue : (a.timetable pause)[k]? = some due) : σ.clock ≤ due := by
  have hnext : ∃ next, (a.timetable pause)[a.tried.length]? = some next ∧ σ.clock ≤ next := by
    by_cases hheld : ∃ p due, σ.starter = .pausing p due
    · obtain ⟨p, next, hstarter⟩ := hheld
      exact ⟨next, h.held p next hstarter⟩
    · have hnot : ∀ p due, σ.starter ≠ .pausing p due := fun p due hstarter => hheld ⟨p, due, hstarter⟩
      obtain ⟨-, hlength⟩ := hqueued.lengths
      obtain ⟨hbelow, -⟩ := List.getElem?_eq_some_iff.1 hdue
      have hsome : σ.protos ≠ [] := by
        intro hnone
        simp only [Account.timetable, length_schedule, List.length_map] at hbelow
        rw [pending_of_not_pausing hnot, hnone, List.length_nil] at hlength
        omega
      exact ⟨_, h.ready hnot hsome, Nat.le_add_right _ _⟩
  obtain ⟨next, hat, hclock⟩ := hnext
  rcases Nat.lt_or_eq_of_le hk with hlt | rfl
  · obtain ⟨hi, rfl⟩ := List.getElem?_eq_some_iff.1 hat
    obtain ⟨hj, rfl⟩ := List.getElem?_eq_some_iff.1 hdue
    have hapart := List.pairwise_iff_getElem.1 (pairwise_schedule pause 0 _) _ _ hi hj hlt
    exact Nat.le_trans hclock (Nat.le_trans (Nat.le_add_right _ _) hapart)
  · rw [hat] at hdue
    cases hdue
    exact hclock

/-- The same teams have been handed over and tried, at the same time, and none is held back that was not. -/
lemma congr (h : σ.OnTime pause a) (hclock : σ'.clock = σ.clock) (hprotos : σ'.protos = σ.protos)
    (hstarter : σ'.starter = σ.starter ∨
      (∀ p due, σ.starter ≠ .pausing p due) ∧ ∀ p due, σ'.starter ≠ .pausing p due) :
    σ'.OnTime pause a := by
  refine ⟨h.times, ?_, ?_⟩
  · intro p due hpausing
    rcases hstarter with heq | ⟨-, hnot⟩
    · rw [hclock]
      exact h.held p due (heq ▸ hpausing)
    · exact absurd hpausing (hnot p due)
  · intro hnot hsome
    rw [hclock]
    refine h.ready ?_ (hprotos ▸ hsome)
    rcases hstarter with heq | ⟨hbefore, -⟩
    · exact heq ▸ hnot
    · exact hbefore

/-- The clock moves on while a team is held back, or none waits. -/
lemma wait (h : σ.OnTime pause a) {clock : Nat}
    (hdue : ∀ p due, σ.starter = .pausing p due → clock = σ.clock ∨ clock ≤ due)
    (hprompt : clock = σ.clock ∨ σ.protos = [] ∨ ∃ p due, σ.starter = .pausing p due) :
    { σ with clock := clock }.OnTime pause a := by
  refine ⟨h.times, fun p due hpausing => ?_, fun hnot hsome => ?_⟩
  · obtain ⟨hat, hle⟩ := h.held p due hpausing
    refine ⟨hat, ?_⟩
    rcases hdue p due hpausing with hsame | hle'
    · exact hsame ▸ hle
    · exact hle'
  · rcases hprompt with rfl | hnone | ⟨p, due, hpausing⟩
    · exact h.ready hnot hsome
    · exact absurd hnone hsome
    · exact absurd hpausing (hnot p due)

/-- **A team is tried at its time**, and the next one, if there is one, is due a pause later. -/
lemma attempt (h : σ.OnTime pause a) (hqueued : σ.Queued a) (hpaced : σ.Paced pause a) {p : ProtoRound}
    {due : Nat} (hstarter : σ.starter = .pausing p due) (hdue : due ≤ σ.clock) {starter : Starter}
    (hafter : ∀ p due, starter ≠ .pausing p due) (events : Channel Worker Event) (sent : List Event) :
    { σ with starter := starter, events := events }.OnTime pause
      (a.add σ.clock { tried := [p], sent := sent }) := by
  obtain ⟨hat, hle⟩ := h.held p due hstarter
  obtain ⟨-, hlength⟩ := hqueued.lengths
  have htimetable : (a.add σ.clock { tried := [p], sent := sent }).timetable pause = a.timetable pause := by
    simp [Account.timetable, Account.add]
  have htried : (a.add σ.clock { tried := [p], sent := sent }).tried = a.tried ++ [(σ.clock, p)] := rfl
  obtain rfl : due = σ.clock := Nat.le_antisymm hdue hle
  refine ⟨?_, fun q due hpausing => absurd hpausing (hafter q due), fun _ hsome => ?_⟩
  · rw [htimetable, htried, List.map_append, List.length_append, h.times, List.length_singleton,
      List.take_add_one, hat]
    rfl
  · -- whoever waits was handed over before now
    have hnext : a.tried.length + 1 < a.handed.length := by
      have hwaits := List.length_pos_iff.2 hsome
      simp only [pending, hstarter, List.length_cons] at hlength hwaits
      omega
    have hknown : (a.handed.map Prod.fst)[a.tried.length + 1]? = some a.handed[a.tried.length + 1].1 := by
      simp [hnext]
    have hbefore := hpaced.handed_le _ (List.getElem_mem hnext)
    have hsucc := getElem?_schedule_succ hat hknown
    rw [Nat.max_eq_left hbefore] at hsucc
    rw [htimetable, htried, List.length_append, List.length_singleton]
    exact hsucc

lemma getLastD_le {last clock : Nat} {ts : List Nat} (hlast : last ≤ clock) (h : ∀ t ∈ ts, t ≤ clock) :
    ts.getLastD last ≤ clock := by
  induction ts generalizing last with
  | nil => exact hlast
  | cons t rest ih =>
      rw [List.getLastD_cons]
      exact ih (h t List.mem_cons_self) fun u hu => h u (List.mem_cons_of_mem t hu)

/-- **Teams are handed over**: the first of them is due a pause from now, unless others wait. -/
lemma turn (h : σ.OnTime pause a) (hqueued : σ.Queued a) (hpaced : σ.Paced pause a)
    (handed : List ProtoRound) (heard : List Event) (events : Channel Worker Event)
    (inFlight : RoundId → Option (List NodeId)) (next : Nat) :
    { σ with protos := σ.protos ++ handed, events := events, inFlight := inFlight, next := next }.OnTime pause
      (a.add σ.clock { handed := handed, heard := heard }) := by
  obtain ⟨-, hlength⟩ := hqueued.lengths
  have htimetable : (a.add σ.clock { handed := handed, heard := heard }).timetable pause
      = a.timetable pause ++ schedule pause ((a.timetable pause).getLastD 0)
          (handed.map fun _ => σ.clock) := by
    simp [Account.timetable, Account.add, schedule_append, Function.comp_def]
  have htried : (a.add σ.clock { handed := handed, heard := heard }).tried = a.tried := List.append_nil _
  have hsize : (a.timetable pause).length = a.handed.length := by simp [Account.timetable]
  have hearlier : ∀ due, (a.timetable pause)[a.tried.length]? = some due →
      ((a.add σ.clock { handed := handed, heard := heard }).timetable pause)[a.tried.length]? = some due := by
    intro due hat
    obtain ⟨hbelow, -⟩ := List.getElem?_eq_some_iff.1 hat
    rw [htimetable, List.getElem?_append_left hbelow, hat]
  refine ⟨?_, fun p due hpausing => ?_, fun hnot hsome => ?_⟩
  · rw [htried, htimetable, List.take_append_of_le_length (by omega)]
    exact h.times
  · obtain ⟨hat, hle⟩ := h.held p due hpausing
    rw [htried]
    exact ⟨hearlier due hat, hle⟩
  · rw [htried]
    by_cases hnone : σ.protos = []
    · -- everybody before has been tried, and that is past
      have hpending : σ.pending = [] := hnone ▸ pending_of_not_pausing (σ := σ) hnot
      rw [hpending, List.length_nil] at hlength
      have hall : a.tried.map Prod.fst = a.timetable pause := by
        rw [h.times, List.take_of_length_le (by omega)]
      have hlast : (a.timetable pause).getLastD 0 ≤ σ.clock := by
        refine getLastD_le (Nat.zero_le _) fun t ht => ?_
        rw [← hall] at ht
        obtain ⟨y, hy, rfl⟩ := List.mem_map.1 ht
        exact hpaced.tried_le y hy
      cases handed with
      | nil => simp [hnone] at hsome
      | cons p rest =>
          rw [htimetable, List.getElem?_append_right (by omega), hsize,
            show a.tried.length - a.handed.length = 0 by omega, List.map_cons, schedule,
            List.getElem?_cons_zero, Nat.max_eq_right hlast]
    · exact hearlier _ (h.ready hnot hnone)

theorem step (h : σ.OnTime pause a) (hmanned : σ.Manned) (hqueued : σ.Queued a) (hpaced : σ.Paced pause a)
    (hstep : σ.Step pause x σ')
    (hprompt : σ'.clock = σ.clock ∨ σ.protos = [] ∨ ∃ p due, σ.starter = .pausing p due) :
    σ'.OnTime pause (a.add σ.clock x) := by
  cases hstep with
  | wait hle hdue =>
      rw [Account.add_nothing]
      exact h.wait hdue hprompt
  | launch hidle =>
      have habsent : σ.starter = .absent := by simpa [hidle] using hmanned.staffed
      rw [Account.add_nothing]
      exact h.congr rfl rfl (Or.inr ⟨by simp [habsent], by simp⟩)
  | take hstarter hprotos =>
      have hat := h.ready (by simp [hstarter]) (by simp [hprotos])
      rw [Account.add_nothing]
      refine ⟨h.times, fun q due hpausing => ?_, fun hnot => absurd rfl (hnot _ _)⟩
      cases hpausing
      exact ⟨hat, Nat.le_add_right _ _⟩
  | attempt hstarter hdue hopen he =>
      refine h.attempt hqueued hpaced hstarter hdue (fun q due => ?_) _ _
      split <;> exact Starter.noConfusion
  | admitStarter hadmitted =>
      obtain ⟨hreporting, -⟩ := hmanned.reporting_of_admit hadmitted
      rw [Account.add_nothing]
      exact h.congr rfl rfl (Or.inr ⟨by simp [hreporting], by simp⟩)
  | admitWatcher | tell =>
      rw [Account.add_nothing]
      exact h.congr rfl rfl (Or.inl rfl)
  | turn => exact h.turn hqueued hpaced ..

end OnTime

end Dispatch

end MixRounds.Live
