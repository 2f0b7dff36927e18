import Mathlib.Data.List.Forall2
import MixRounds.Proofs.Live.Dispatch

/-!
# The account of the starter

Teams wait in a queue without bound, the starter holds one back at a time, its reports wait in a bounded
queue, and the loop keeps a table of the teams in flight.  `Account` is what has passed between them, each
with the time at which it did, and a few invariants tie the four places to it.

* The starter is in line exactly while it waits to report (`Dispatch.Manned`); so whoever is let into the
  queue as the starter has waited for it, and no team is held back meanwhile.
* The teams that were handed over are those that were tried, in this order, and those that are still to come;
  each try was answered by one report on this team; the reports that were sent are those that were heard, in
  this order, and those on their way (`Dispatch.Queued`).
* The numbers of the teams go up (`Dispatch.Numbered`), and in flight are the teams of which the loop has not
  heard (`Dispatch.Reserved`).
* A try comes a pause after the one before, and after its team was handed over (`Dispatch.Paced`).

Each has a step lemma, with one case for each thing that a move can do.
-/

namespace MixRounds.Live

/-- What has passed between the loop and the starter, each with what the clock showed, in order. -/
structure Account where
  handed : List (Nat × ProtoRound) := []
  tried : List (Nat × ProtoRound) := []
  sent : List (Nat × Event) := []
  heard : List (Nat × Event) := []

namespace Account

/-- The account with what has passed at this time. -/
def add (a : Account) (clock : Nat) (x : Passage) : Account where
  handed := a.handed ++ x.handed.map fun p => (clock, p)
  tried := a.tried ++ x.tried.map fun p => (clock, p)
  sent := a.sent ++ x.sent.map fun e => (clock, e)
  heard := a.heard ++ x.heard.map fun e => (clock, e)

/-- The teams that were handed over. -/
def teams (a : Account) : List ProtoRound := a.handed.map Prod.snd

/-- The teams of which the loop has not heard. -/
def unheard (a : Account) : List ProtoRound := a.teams.drop a.heard.length

@[simp] lemma map_snd_at {α : Type} (clock : Nat) (xs : List α) :
    (xs.map fun y => (clock, y)).map Prod.snd = xs := by
  rw [List.map_map]
  exact List.map_id xs

@[simp] lemma add_nothing (a : Account) (clock : Nat) : a.add clock {} = a := by simp [add]

lemma teams_add (a : Account) (clock : Nat) (x : Passage) : (a.add clock x).teams = a.teams ++ x.handed := by
  rw [teams, add, List.map_append, map_snd_at, teams]

end Account

namespace Dispatch

variable {σ σ' : Dispatch} {a : Account} {x : Passage} {pause : Nat}

/-- The teams whose start is still to come. -/
def pending (σ : Dispatch) : List ProtoRound :=
  match σ.starter with
  | .pausing p _ => p :: σ.protos
  | _ => σ.protos

lemma pending_of_not_pausing (h : ∀ p due, σ.starter ≠ .pausing p due) : σ.pending = σ.protos := by
  rw [pending]
  split
  · exact absurd ‹_› (h _ _)
  · rfl

/-! ## The starter and its queues -/

/-- A loop that runs has a starter, which is in line with a report exactly if it waits for that. -/
structure Manned (σ : Dispatch) : Prop where
  staffed : σ.running = true ↔ σ.starter ≠ .absent
  before : σ.running = false → σ.protos = []
  line : (σ.events.waiting.map Prod.fst).count .starter = if σ.starter = .reporting then 1 else 0

/-- Who joins the line joins it at its end. -/
lemma waiting_send (ch : Channel Worker Event) (who : Worker) (e : Event) (hopen : ch.closed = false) :
    (ch.send who e).2.waiting.map Prod.fst = ch.waiting.map Prod.fst ++ if ch.hasRoom then [] else [who] := by
  cases hroom : ch.hasRoom <;> simp [Channel.send, hopen, hroom]

lemma waiting_of_admitted {ch ch' : Channel Worker Event} {who : Worker} (h : ch.admit? = some (who, ch')) :
    ch.waiting.map Prod.fst = who :: ch'.waiting.map Prod.fst ∧ ch'.capacity = ch.capacity := by
  unfold Channel.admit? at h
  split at h
  · cases h
  · rename_i hwaiting
    split at h <;> cases h
    simp [hwaiting]

lemma Hears.waiting {ch ch' : Channel Worker Event} {heard : List Event} (h : Hears ch heard ch') :
    ch'.waiting = ch.waiting ∧ ch'.capacity = ch.capacity := by
  cases h with
  | nothing => exact ⟨rfl, rfl⟩
  | event hreceive =>
      unfold Channel.receive? at hreceive
      split at hreceive <;> cases hreceive
      exact ⟨rfl, rfl⟩

namespace Manned

/-- Whoever is let in as the starter has waited for it. -/
lemma reporting_of_admit (h : σ.Manned) {ch : Channel Worker Event}
    (hadmitted : σ.events.admit? = some (.starter, ch)) :
    σ.starter = .reporting ∧ (ch.waiting.map Prod.fst).count .starter = 0 := by
  have hline := h.line
  rw [(waiting_of_admitted hadmitted).1, List.count_cons_self] at hline
  split at hline
  · rename_i hreporting
    exact ⟨hreporting, by omega⟩
  · omega

theorem step (h : σ.Manned) (hstep : σ.Step pause x σ') : σ'.Manned := by
  have hstaffed := h.staffed
  have hline := h.line
  cases hstep with
  | wait => exact ⟨h.staffed, h.before, h.line⟩
  | launch hidle =>
      have habsent : σ.starter = .absent := by simpa [hidle] using hstaffed
      exact ⟨by simp, by simp, by simpa [habsent] using hline⟩
  | take hstarter hprotos =>
      have hrunning : σ.running = true := hstaffed.2 (by simp [hstarter])
      exact ⟨by simp [hrunning], by simp [hrunning], by simpa [hstarter] using hline⟩
  | attempt hstarter hdue hopen he =>
      have hrunning : σ.running = true := hstaffed.2 (by simp [hstarter])
      refine ⟨?_, by simp [hrunning], ?_⟩
      · cases σ.events.hasRoom <;> simp [hrunning]
      · rw [waiting_send _ _ _ hopen, List.count_append, hline]
        cases σ.events.hasRoom <;> simp [hstarter]
  | admitStarter hadmitted =>
      obtain ⟨hreporting, hnone⟩ := h.reporting_of_admit hadmitted
      have hrunning : σ.running = true := hstaffed.2 (by simp [hreporting])
      exact ⟨by simp [hrunning], by simp [hrunning], by simp [hnone]⟩
  | admitWatcher hadmitted =>
      refine ⟨h.staffed, h.before, ?_⟩
      rw [(waiting_of_admitted hadmitted).1] at hline
      simpa using hline
  | @tell round phase e hopen he =>
      refine ⟨h.staffed, h.before, ?_⟩
      rw [waiting_send _ _ _ hopen, List.count_append, hline]
      cases σ.events.hasRoom <;> simp
  | turn hrunning hheard =>
      refine ⟨h.staffed, by simp [hrunning], ?_⟩
      rw [hheard.waiting.1]
      exact hline

end Manned

lemma Step.capacity (hstep : σ.Step pause x σ') : σ'.events.capacity = σ.events.capacity := by
  have hsend (who : Worker) (e : Event) : (σ.events.send who e).2.capacity = σ.events.capacity := by
    unfold Channel.send
    split
    · rfl
    · split <;> rfl
  cases hstep with
  | wait | launch | take => rfl
  | attempt => exact hsend .starter _
  | tell => exact hsend _ _
  | admitStarter hadmitted | admitWatcher hadmitted => exact (waiting_of_admitted hadmitted).2
  | turn hrunning hheard => exact hheard.waiting.2

/-! ## Everything in its order -/

/-- The teams are tried in the order in which they were handed over; each try is answered by one report; and
the reports are heard in their order. -/
structure Queued (σ : Dispatch) (a : Account) : Prop where
  teams : a.teams = a.tried.map Prod.snd ++ σ.pending
  reports : List.Forall₂ (fun t r => r.1 = t.1 ∧ r.2.ReportsOn t.2) a.tried a.sent
  heard : a.sent.map Prod.snd = a.heard.map Prod.snd ++ σ.reports

lemma reports_send (who : Worker) (e : Event) (hopen : σ.events.closed = false) :
    (σ.events.send who e).2.messages.filter Event.isReport = σ.reports ++ [e].filter Event.isReport := by
  simp [Channel.messages_send, hopen, reports]

theorem Queued.step (h : σ.Queued a) (hmanned : σ.Manned) (hstep : σ.Step pause x σ') :
    σ'.Queued (a.add σ.clock x) := by
  have hteams := h.teams
  cases hstep with
  | wait =>
      rw [Account.add_nothing]
      exact ⟨h.teams, h.reports, h.heard⟩
  | launch hidle =>
      have habsent : σ.starter = .absent := by simpa [hidle] using hmanned.staffed
      rw [Account.add_nothing]
      refine ⟨?_, h.reports, h.heard⟩
      simpa [pending, habsent] using hteams
  | take hstarter hprotos =>
      rw [Account.add_nothing]
      refine ⟨?_, h.reports, h.heard⟩
      simpa [pending, hstarter, hprotos] using hteams
  | @attempt p due e hstarter hdue hopen he =>
      have hsent := reports_send .starter e hopen
      refine ⟨?_, ?_, ?_⟩
      · rw [Account.teams_add]
        cases hroom : σ.events.hasRoom <;> simpa [Account.add, pending, hstarter] using hteams
      · exact List.rel_append h.reports (List.Forall₂.cons ⟨rfl, he⟩ List.Forall₂.nil)
      · simp [Account.add, Dispatch.reports, hsent, h.heard, he.isReport]
  | admitStarter hadmitted =>
      obtain ⟨hreporting, -⟩ := hmanned.reporting_of_admit hadmitted
      rw [Account.add_nothing]
      refine ⟨?_, h.reports, ?_⟩
      · simpa [pending, hreporting] using hteams
      · simpa only [Dispatch.reports, Channel.messages_admit? hadmitted] using h.heard
  | admitWatcher hadmitted =>
      rw [Account.add_nothing]
      refine ⟨hteams, h.reports, ?_⟩
      simpa only [Dispatch.reports, Channel.messages_admit? hadmitted] using h.heard
  | @tell round phase e hopen he =>
      have hsent := reports_send (.watcher round phase) e hopen
      rw [Account.add_nothing]
      refine ⟨hteams, h.reports, ?_⟩
      simpa [Dispatch.reports, hsent, he] using h.heard
  | @turn handed heard events inFlight next hrunning hheard =>
      refine ⟨?_, ?_, ?_⟩
      · rw [Account.teams_add, hteams]
        cases hstarter : σ.starter <;> simp [Account.add, pending, hstarter]
      · simpa [Account.add] using h.reports
      · have hfirst := hheard.reports
        have hheard' := h.heard
        rw [Dispatch.reports, hfirst] at hheard'
        simpa only [Account.add, List.map_append, Account.map_snd_at, List.map_nil, List.append_nil,
          List.append_assoc, Dispatch.reports] using hheard'

/-! ## Numbers and reservations -/

/-- The numbers of the teams go up, and are below the next one. -/
structure Numbered (σ : Dispatch) (a : Account) : Prop where
  increasing : a.teams.Pairwise fun p q => p.id.toNat < q.id.toNat
  below : ∀ p ∈ a.teams, p.id.toNat < σ.next

theorem Numbered.step (h : σ.Numbered a) (hstep : σ.Step pause x σ') : σ'.Numbered (a.add σ.clock x) := by
  cases hstep with
  | turn hrunning hheard hnext hnumbers hincreasing =>
      refine ⟨?_, ?_⟩ <;> rw [Account.teams_add]
      · refine List.pairwise_append.2 ⟨h.increasing, hincreasing, fun p hp q hq => ?_⟩
        have hold := h.below p hp
        have hnew := hnumbers q hq
        omega
      · intro p hp
        rcases List.mem_append.1 hp with hp | hp
        · exact Nat.lt_of_lt_of_le (h.below p hp) hnext
        · exact (hnumbers p hp).2
  | attempt => exact ⟨by simpa [Account.teams_add] using h.increasing,
      by simpa [Account.teams_add] using h.below⟩
  | wait | launch | take | admitStarter | admitWatcher | tell =>
      rw [Account.add_nothing]
      exact ⟨h.increasing, h.below⟩

/-- In flight are the teams of which the loop has not heard. -/
def Reserved (σ : Dispatch) (a : Account) : Prop :=
  ∀ id team, σ.inFlight id = some team ↔ ∃ p ∈ a.unheard, p.id = id ∧ p.topology = team

namespace Queued

lemma lengths (h : σ.Queued a) : a.heard.length + σ.reports.length = a.tried.length ∧
    a.tried.length + σ.pending.length = a.handed.length := by
  have hteams := congrArg List.length h.teams
  have hheard := congrArg List.length h.heard
  have hreports := h.reports.length_eq
  simp only [Account.teams, List.length_map, List.length_append] at hteams hheard
  omega

/-- **The next report** that the loop hears is on the first team of which it has not heard. -/
lemma first (h : σ.Queued a) {e : Event} {later : List Event} (hnext : σ.reports = e :: later) :
    ∃ p rest, a.unheard = p :: rest ∧ rest = a.teams.drop (a.heard.length + 1) ∧ e.ReportsOn p := by
  obtain ⟨hheard, hpending⟩ := h.lengths
  rw [hnext, List.length_cons] at hheard
  have htried : a.heard.length < a.tried.length := by omega
  have hsent : a.heard.length < a.sent.length := h.reports.length_eq ▸ htried
  have hteam : a.heard.length < a.teams.length := by
    simp only [Account.teams, List.length_map]
    omega
  refine ⟨a.teams[a.heard.length], _, List.drop_eq_getElem_cons hteam, rfl, ?_⟩
  have hreport : a.sent[a.heard.length].2 = e := by
    have hget : (a.sent.map Prod.snd)[a.heard.length]? = some e := by
      rw [h.heard, hnext, List.getElem?_append_right (by simp)]
      simp
    simpa [hsent] using hget
  have htry : a.teams[a.heard.length] = a.tried[a.heard.length].2 := by
    have hget : a.teams[a.heard.length]? = some a.tried[a.heard.length].2 := by
      rw [h.teams, List.getElem?_append_left (by simpa using htried)]
      simp [htried]
    simpa [hteam] using hget
  have hanswer := (h.reports.get htried hsent).2
  simp only [List.get_eq_getElem, hreport] at hanswer
  rw [htry]
  exact hanswer

end Queued

/-- A number is given once. -/
lemma Numbered.ne_of_mem (h : σ.Numbered a) {p q : ProtoRound} {rest : List ProtoRound}
    (hunheard : a.unheard = p :: rest) (hq : q ∈ rest) : q.id ≠ p.id := by
  have hincreasing : (p :: rest).Pairwise fun p q => p.id.toNat < q.id.toNat :=
    hunheard ▸ h.increasing.sublist (List.drop_sublist ..)
  have hlt := (List.pairwise_cons.1 hincreasing).1 q hq
  intro heq
  rw [heq] at hlt
  omega

lemma Hears.heard_cases {ch ch' : Channel Worker Event} {heard : List Event} (h : Hears ch heard ch') :
    heard = [] ∨ ∃ e, heard = [e] := by
  cases h with
  | nothing => exact Or.inl rfl
  | @event e ch' hreceive => cases hreport : e.isReport <;> simp [hreport]

/-- Nothing leaves the table but the first team of which the loop has not heard, when it hears of it. -/
theorem Reserved.step (h : σ.Reserved a) (hqueued : σ.Queued a) (hnumbered : σ.Numbered a)
    (hstep : σ.Step pause x σ') : σ'.Reserved (a.add σ.clock x) := by
  intro id team
  cases hstep with
  | wait | launch | take | admitStarter | admitWatcher | tell =>
      rw [Account.add_nothing]
      exact h id team
  | attempt =>
      have hsame : ∀ e p, (a.add σ.clock { tried := [p], sent := [e] }).unheard = a.unheard := by
        simp [Account.unheard, Account.add, Account.teams]
      rw [hsame]
      exact h id team
  | @turn handed heard events inFlight next hrunning hheard hnext hnumbers hincreasing hflight =>
      have hlengths := hqueued.lengths
      have hreports : σ.reports = heard ++ events.messages.filter Event.isReport := hheard.reports
      have hknown : a.heard.length + heard.length ≤ a.teams.length := by
        rw [hreports, List.length_append] at hlengths
        simp only [Account.teams, List.length_map]
        omega
      have hunheard : (a.add σ.clock { handed := handed, heard := heard }).unheard
          = a.teams.drop (a.heard.length + heard.length) ++ handed := by
        rw [Account.unheard, Account.teams_add, ← List.drop_append_of_le_length hknown]
        simp [Account.add]
      rw [hunheard]
      simp only [hflight, List.mem_append, or_and_right, exists_or]
      refine or_congr_left ?_
      rw [h id team]
      rcases hheard.heard_cases with rfl | ⟨e, rfl⟩
      · simp [Account.unheard]
      · -- the first team leaves the table, and no later one has its number
        obtain ⟨p, rest, hfirst, hrest, he⟩ := hqueued.first hreports
        rw [hfirst, List.length_singleton, ← hrest]
        simp only [List.mem_singleton, forall_eq, he.reported?, ne_eq, Option.some.injEq]
        constructor
        · rintro ⟨⟨q, hq, hid, hteam⟩, hother⟩
          rcases List.mem_cons.1 hq with rfl | hq
          · exact absurd hid hother
          · exact ⟨q, hq, hid, hteam⟩
        · rintro ⟨q, hq, rfl, hteam⟩
          exact ⟨⟨q, List.mem_cons_of_mem p hq, rfl, hteam⟩, fun heq =>
            hnumbered.ne_of_mem hfirst hq heq.symm⟩

/-! ## The pauses -/

/-- A try comes a pause after the one before it, and after its team was handed over. -/
structure Paced (pause : Nat) (σ : Dispatch) (a : Account) : Prop where
  handed_le : ∀ h ∈ a.handed, h.1 ≤ σ.clock
  tried_le : ∀ t ∈ a.tried, t.1 ≤ σ.clock
  apart : a.tried.Pairwise fun s t => s.1 + pause ≤ t.1
  late : ∀ (k : Nat) (h t : Nat × ProtoRound), a.handed[k]? = some h → a.tried[k]? = some t →
    h.1 + pause ≤ t.1
  due : ∀ p due, σ.starter = .pausing p due → (∀ t ∈ a.tried, t.1 + pause ≤ due) ∧
    ∀ h, a.handed[a.tried.length]? = some h → h.1 + pause ≤ due

/-- Nothing new has been tried or handed over, and nothing new is held back. -/
lemma Paced.mono (h : σ.Paced pause a) (hclock : σ.clock ≤ σ'.clock)
    (hstarter : ∀ p due, σ'.starter = .pausing p due → σ.starter = .pausing p due) : σ'.Paced pause a where
  handed_le x hx := Nat.le_trans (h.handed_le x hx) hclock
  tried_le x hx := Nat.le_trans (h.tried_le x hx) hclock
  apart := h.apart
  late := h.late
  due p due hpausing := h.due p due (hstarter p due hpausing)

/-- **A team is tried** when it is due, and that is late enough. -/
lemma Paced.attempt (h : σ.Paced pause a) {p : ProtoRound} {due : Nat} (hstarter : σ.starter = .pausing p due)
    (hdue : due ≤ σ.clock) {starter : Starter} (hafter : ∀ p due, starter ≠ .pausing p due)
    (events : Channel Worker Event) (sent : List Event) :
    { σ with starter := starter, events := events }.Paced pause
      (a.add σ.clock { tried := [p], sent := sent }) := by
  obtain ⟨hlast, hteam⟩ := h.due p due hstarter
  have hhanded : (a.add σ.clock { tried := [p], sent := sent }).handed = a.handed := List.append_nil _
  have htried : (a.add σ.clock { tried := [p], sent := sent }).tried = a.tried ++ [(σ.clock, p)] := rfl
  refine ⟨?_, ?_, ?_, fun k x t hx ht => ?_, fun q due hpausing => absurd hpausing (hafter q due)⟩
  · rw [hhanded]
    exact h.handed_le
  · rw [htried]
    intro t ht
    rcases List.mem_append.1 ht with ht | ht
    · exact h.tried_le t ht
    · obtain rfl := List.mem_singleton.1 ht
      exact Nat.le_refl _
  · rw [htried]
    refine List.pairwise_append.2 ⟨h.apart, List.pairwise_singleton .., fun s hs t ht => ?_⟩
    obtain rfl := List.mem_singleton.1 ht
    exact Nat.le_trans (hlast s hs) hdue
  · rw [hhanded] at hx
    rw [htried, List.getElem?_append] at ht
    split at ht
    · exact h.late k x t hx ht
    · obtain ⟨hk, rfl⟩ := List.getElem?_eq_some_iff.1 ht
      have hzero : k - a.tried.length < 1 := hk
      obtain rfl : k = a.tried.length := by omega
      simpa using Nat.le_trans (hteam x hx) hdue

/-- **Teams are handed over**, and what was known of those before stays. -/
lemma Paced.turn (h : σ.Paced pause a) (hqueued : σ.Queued a) (handed : List ProtoRound) (heard : List Event)
    (events : Channel Worker Event) (inFlight : RoundId → Option (List NodeId)) (next : Nat) :
    { σ with protos := σ.protos ++ handed, events := events, inFlight := inFlight, next := next }.Paced pause
      (a.add σ.clock { handed := handed, heard := heard }) := by
  obtain ⟨-, hlength⟩ := hqueued.lengths
  have hearlier : ∀ k < a.handed.length,
      (a.add σ.clock { handed := handed, heard := heard }).handed[k]? = a.handed[k]? :=
    fun k hk => List.getElem?_append_left hk
  have htried : (a.add σ.clock { handed := handed, heard := heard }).tried = a.tried := List.append_nil _
  refine ⟨fun x hx => ?_, ?_, ?_, fun k x t hx ht => ?_, fun p due hpausing => ?_⟩
  · rcases List.mem_append.1 hx with hx | hx
    · exact h.handed_le x hx
    · obtain ⟨p, -, rfl⟩ := List.mem_map.1 hx
      exact Nat.le_refl _
  · rw [htried]
    exact h.tried_le
  · rw [htried]
    exact h.apart
  · rw [htried] at ht
    obtain ⟨hk, -⟩ := List.getElem?_eq_some_iff.1 ht
    rw [hearlier k (by omega)] at hx
    exact h.late k x t hx ht
  · have hheld : σ.pending.length = σ.protos.length + 1 := by
      simp [pending, show σ.starter = .pausing p due from hpausing]
    rw [htried, hearlier _ (by omega)]
    exact h.due p due hpausing

theorem Paced.step (h : σ.Paced pause a) (hqueued : σ.Queued a) (hstep : σ.Step pause x σ') :
    σ'.Paced pause (a.add σ.clock x) := by
  cases hstep with
  | wait hle =>
      rw [Account.add_nothing]
      exact h.mono hle fun _ _ => id
  | launch | admitStarter =>
      rw [Account.add_nothing]
      exact h.mono (Nat.le_refl _) fun p due hpausing => by cases hpausing
  | admitWatcher | tell =>
      rw [Account.add_nothing]
      exact h.mono (Nat.le_refl _) fun _ _ => id
  | take hstarter hprotos =>
      rw [Account.add_nothing]
      refine { h with due := fun q due hpausing => ?_ }
      cases hpausing
      exact ⟨fun t ht => Nat.add_le_add_right (h.tried_le t ht) pause,
        fun x hx => Nat.add_le_add_right (h.handed_le x (List.mem_of_getElem? hx)) pause⟩
  | attempt hstarter hdue hopen he =>
      refine h.attempt hstarter hdue (fun q due => ?_) _ _
      split <;> exact Starter.noConfusion
  | turn => exact h.turn hqueued ..

end Dispatch

end MixRounds.Live
