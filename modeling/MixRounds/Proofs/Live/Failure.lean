import MixRounds.Proofs.Live.Strikes

/-!
# Why a round failed

Bans, errors and timers may strike a round in any order and any number of times, and some of them when it
has failed long ago.  The log keeps one record of it, and the record is of the first strike
(`Annals.Judged`): a strike finds the round alive, and then it fails with this record; or it finds the
round failed, and then there is a record already.

**`World.errorsFor_of_run`** says so for every run, and says what the record tells.  It names the node that
was banned or reported the error, and of a timer it names no node but the phase that the round was in.
-/

namespace MixRounds.Live

namespace Annals

variable {a a' : Annals} {es : List RoundError}

/-- The strikes on one round. -/
def on (es : List RoundError) (id : RoundId) : List RoundError := es.filter fun e => e.round = id

lemma on_append (es fs : List RoundError) (id : RoundId) : on (es ++ fs) id = on es id ++ on fs id :=
  List.filter_append ..

lemma on_single (e : RoundError) (id : RoundId) : on [e] id = if e.round = id then [e] else [] := by
  by_cases h : e.round = id <;> simp [on, h]

/-- Every round has the record of the first of the strikes `es` on it, and has failed if there was
one. -/
structure Judged (a : Annals) (es : List RoundError) : Prop where
  errors : ∀ id, on a.errors id = (on es id).head?.toList
  failed_iff : ∀ id, (a.rounds id).map Round.phase = some .failed ↔ on es id ≠ []

/-- Only a living or a failed round is struck. -/
lemma Step.round_of_struck {e : RoundError} (h : a.Step (some e) a') :
    ∃ r, a.rounds e.round = some r ∧ (r.phase.isTerminal = false ∨ r.phase = .failed) := by
  cases h with
  | fail hround hlive => exact ⟨_, hround, Or.inl hlive⟩
  | again hround hfailed => exact ⟨_, hround, Or.inr hfailed⟩

namespace Judged

/-- A round may get into any phase but the last, as long as it has not failed. -/
lemma of_rounds (h : a.Judged es) {id : RoundId} {r : Round} (hafter : r.phase ≠ .failed)
    (hbefore : (a.rounds id).map Round.phase ≠ some .failed) (herrors : a'.errors = a.errors)
    (hrounds : a'.rounds = fun j => if j = id then some r else a.rounds j) : a'.Judged es := by
  refine ⟨fun j => herrors ▸ h.errors j, fun j => ?_⟩
  rw [hrounds, ← h.failed_iff j]
  by_cases hj : j = id
  · subst hj
    simp [hafter, hbefore]
  · simp [hj]

/-- **A living round is struck**, and fails. -/
lemma fail (h : a.Judged es) {e : RoundError} {r : Round} (hround : a.rounds e.round = some r)
    (hlive : r.phase.isTerminal = false) (herrors : a'.errors = a.errors ++ [e])
    (hrounds : ∀ j, (a'.rounds j).map Round.phase
      = if j = e.round then some .failed else (a.rounds j).map Round.phase) : a'.Judged (es ++ [e]) := by
  have hnone : on es e.round = [] := by
    by_contra hstruck
    have hfailed := (h.failed_iff e.round).2 hstruck
    rw [hround, Option.map_some, Option.some.injEq] at hfailed
    rw [hfailed] at hlive
    cases hlive
  refine ⟨fun j => ?_, fun j => ?_⟩
  · rw [herrors, on_append, on_append, on_single, h.errors j]
    by_cases hj : e.round = j
    · subst hj
      simp [hnone]
    · simp [hj]
  · rw [hrounds, on_append, on_single]
    by_cases hj : j = e.round
    · simp [hj]
    · simpa [hj, Ne.symm hj] using h.failed_iff j

/-- **A failed round is struck again**, and keeps its record. -/
lemma again (h : a.Judged es) {e : RoundError} {r : Round} (hround : a.rounds e.round = some r)
    (hfailed : r.phase = .failed) : a.Judged (es ++ [e]) := by
  have hstruck : on es e.round ≠ [] := (h.failed_iff _).1 (by simp [hround, hfailed])
  refine ⟨fun j => ?_, fun j => ?_⟩
  · rw [h.errors j, on_append, on_single]
    by_cases hj : e.round = j
    · subst hj
      rw [List.head?_append_of_ne_nil _ hstruck]
    · simp [hj]
  · rw [h.failed_iff j, on_append, on_single]
    by_cases hj : e.round = j
    · subst hj
      simp [hstruck]
    · simp [hj]

/-- **Every step keeps the records right.** -/
theorem step (h : a.Judged es) {struck : Option RoundError} (hstep : a.Step struck a') :
    a'.Judged (es ++ struck.toList) := by
  cases hstep with
  | still => simpa using h
  | start hnew hphase hstamps =>
      rw [Option.toList_none, List.append_nil]
      exact h.of_rounds (by simp [hphase]) (by simp [hnew]) rfl rfl
  | @count id r n hround =>
      rw [Option.toList_none, List.append_nil]
      refine ⟨h.errors, fun j => ?_⟩
      rw [← h.failed_iff j]
      by_cases hj : j = id
      · simp [set, hj, hround]
      · simp [set, hj]
  | @advance id r next stamp hround hmay hnext =>
      rw [Option.toList_none, List.append_nil]
      have hlive : r.phase ≠ .failed := fun hfailed => by rw [hfailed] at hmay; cases hmay
      exact h.of_rounds hnext (by simpa [hround] using hlive) rfl rfl
  | fail hround hlive =>
      refine h.fail hround hlive rfl fun j => ?_
      dsimp only [announce, publish, set, record]
      split <;> rfl
  | again hround hfailed => exact h.again hround hfailed

end Judged

end Annals

namespace World

variable {w : World}

/-- The strike on a round in a move, as one sees it happen. -/
inductive Struck (w : World) (m : Move) : RoundError → Prop
  /-- The loop applies the first ban of a node that holds the round. -/
  | ban {n : Notification} {id : RoundId} (hn : w.delivered? m = some n)
      (hheld : w.shared.net.holding n.node = some id) (hbefore : n.fromStatus ≠ .banned)
      (hstatus : n.toStatus = .banned) : Struck w m ⟨id, some n.node, .nodeBanned, w.wall⟩
  /-- The loop applies the report of an error of a node that holds the round. -/
  | error {n : Notification} {id : RoundId} (hn : w.delivered? m = some n)
      (hheld : w.shared.net.holding n.node = some id) (hstatus : n.toStatus ≠ .banned)
      (herror : n.toActivity = .error) : Struck w m ⟨id, some n.node, .nodeError, w.wall⟩
  /-- The loop hears that the timer of the phase has run out that the round is in. -/
  | timeout {id : RoundId} {p : TimedPhase} (he : w.heard? m = some (.timedOut id p))
      (hphase : w.shared.net.phase? id = some p.watched) : Struck w m ⟨id, none, .timeout p, w.wall⟩

lemma struck_iff {m : Move} {e : RoundError} : w.Struck m e ↔ w.strike? m = some e := by
  constructor
  · rintro (⟨hn, hheld, hbefore, hstatus⟩ | ⟨hn, hheld, hstatus, herror⟩ | ⟨he, hphase⟩)
    · simp [strike?, hn, Shared.strike?, hheld, Notification.grounds?, hstatus, hbefore]
    · simp [strike?, hn, Shared.strike?, hheld, Notification.grounds?, hstatus, herror]
    · have hnone : w.delivered? m = none := by
        cases m with
        | iterate source chance => cases source <;> first | rfl | cases he
        | _ => rfl
      simp [strike?, hnone, he, ranOut?, hphase]
  · intro h
    rw [strike?, Option.or_eq_some_iff] at h
    rcases h with h | ⟨-, h⟩
    · obtain ⟨n, hn, hstrike⟩ := Option.bind_eq_some_iff.1 h
      obtain ⟨id, hheld, hgrounds⟩ := Option.bind_eq_some_iff.1 hstrike
      obtain ⟨cause, hcause, rfl⟩ := Option.map_eq_some_iff.1 hgrounds
      rw [Notification.grounds?] at hcause
      split at hcause
      · split at hcause
        · cases hcause
        · cases hcause
          exact .ban hn hheld ‹_› ‹_›
      · split at hcause
        · cases hcause
          exact .error hn hheld ‹_› ‹_›
        · cases hcause
    · obtain ⟨event, hheard, hran⟩ := Option.bind_eq_some_iff.1 h
      cases event with
      | timedOut id p =>
          rw [ranOut?] at hran
          split at hran
          · cases hran
            exact .timeout hheard ‹_›
          · cases hran
      | started id | startFailed p fault | finished id => cases hran

/-! ## Every run -/

/-- What strikes rounds in a run, in order. -/
def strikes (w : World) : List Move → List RoundError
  | [] => []
  | m :: rest => (w.strike? m).toList ++ (w.step m).strikes rest

/-- Nothing strikes the round in the run. -/
def Spared (w : World) (id : RoundId) (moves : List Move) : Prop :=
  ∀ earlier m later e, moves = earlier ++ m :: later → (w.run earlier).Struck m e → e.round ≠ id

lemma spared_of_strikes {id : RoundId} {moves : List Move} (h : Annals.on (w.strikes moves) id = []) :
    w.Spared id moves := by
  rintro earlier m later e rfl hstruck
  induction earlier generalizing w with
  | nil =>
      rw [run_nil, struck_iff] at hstruck
      rw [List.nil_append, strikes, Annals.on_append, hstruck, Option.toList_some,
        Annals.on_single] at h
      intro hround
      simp [hround] at h
  | cons m' rest ih =>
      rw [List.cons_append, strikes, Annals.on_append, List.append_eq_nil_iff] at h
      exact ih h.2 hstruck

lemma run_judged (h : w.Regular) {es : List RoundError} (hjudged : w.annals.Judged es)
    (moves : List Move) : (w.run moves).annals.Judged (es ++ w.strikes moves) := by
  induction moves generalizing w es with
  | nil => simpa [strikes] using hjudged
  | cons m rest ih =>
      have hrest := ih (h.step m) (hjudged.step (step_annals h m))
      simpa only [strikes, run_cons, List.append_assoc] using hrest

lemma create_judged (settings : Settings) (latency : Latency) (isDisabled : NodeId → Bool)
    {net : Network} (wall : Instant) (h : net.Fresh) :
    (create settings latency isDisabled net wall).annals.Judged [] where
  errors id := by
    have herrors : (create settings latency isDisabled net wall).annals.errors = [] := by
      simp [annals, Shared.annals, Network.annals, create, h.log, UpdateLog.empty]
    simp [herrors, Annals.on]
  failed_iff id := by
    have hnone : (create settings latency isDisabled net wall).annals.rounds id = none :=
      h.idle.rounds id
    simp [hnone, Annals.on]

/-- The first strike on a round is that of some move, before which there was none. -/
lemma exists_first_strike {id : RoundId} {moves : List Move} (h : Annals.on (w.strikes moves) id ≠ []) :
    ∃ before m after e, moves = before ++ m :: after ∧ Annals.on (w.strikes before) id = [] ∧
      (w.run before).strike? m = some e ∧ e.round = id ∧
      (Annals.on (w.strikes moves) id).head? = some e := by
  induction moves generalizing w with
  | nil => exact absurd rfl h
  | cons m rest ih =>
      rw [strikes, Annals.on_append] at h ⊢
      by_cases hnow : Annals.on (w.strike? m).toList id = []
      · rw [hnow, List.nil_append] at h ⊢
        obtain ⟨before, m', after, e, rfl, hnone, hstrike, hround, hhead⟩ := ih h
        refine ⟨m :: before, m', after, e, rfl, ?_, hstrike, hround, hhead⟩
        rw [strikes, Annals.on_append, hnow, hnone, List.append_nil]
      · cases hstrike : w.strike? m with
        | none => simp [hstrike, Annals.on] at hnow
        | some e =>
            rw [hstrike, Option.toList_some, Annals.on_single] at hnow
            have hround : e.round = id := by
              by_contra hne
              simp [hne] at hnow
            refine ⟨[], m, rest, e, rfl, rfl, hstrike, hround, ?_⟩
            simp [Annals.on, hround]

/-- **The record of a failure.**  In every state that any run from a fresh network reaches, a round that
has not failed was never struck and has no record; one that has failed has one record, of the first strike
on it, which found the round alive. -/
theorem errorsFor_of_run (settings : Settings) (latency : Latency) (isDisabled : NodeId → Bool)
    {net : Network} (wall : Instant) (hfresh : net.Fresh) (moves : List Move) (id : RoundId) :
    let w := create settings latency isDisabled net wall
    let after := (w.run moves).shared.net
    (after.phase? id ≠ some .failed ∧ after.log.errorsFor id = [] ∧ w.Spared id moves) ∨
    (after.phase? id = some .failed ∧ ∃ earlier m later e, moves = earlier ++ m :: later ∧
      w.Spared id earlier ∧
      (∃ p, (w.run earlier).shared.net.phase? id = some p ∧ p.isTerminal = false) ∧
      (w.run earlier).Struck m e ∧ e.round = id ∧ after.log.errorsFor id = [e]) := by
  intro w after
  have hregular := create_regular settings latency isDisabled wall hfresh.idle
  have hcreated := create_judged settings latency isDisabled wall hfresh
  have hjudged : ∀ moves, (w.run moves).annals.Judged (w.strikes moves) := run_judged hregular hcreated
  have herrors : after.log.errorsFor id = (Annals.on (w.strikes moves) id).head?.toList :=
    (hjudged moves).errors id
  have hfailed : after.phase? id = some .failed ↔ Annals.on (w.strikes moves) id ≠ [] :=
    (hjudged moves).failed_iff id
  by_cases hstruck : Annals.on (w.strikes moves) id = []
  · refine Or.inl ⟨fun hphase => hfailed.1 hphase hstruck, ?_, spared_of_strikes hstruck⟩
    rw [herrors, hstruck]
    rfl
  · obtain ⟨earlier, m, later, e, hmoves, hbefore, hstrike, hround, hhead⟩ := exists_first_strike hstruck
    refine Or.inr ⟨hfailed.2 hstruck, earlier, m, later, e, hmoves, spared_of_strikes hbefore, ?_,
      struck_iff.2 hstrike, hround, ?_⟩
    · have hstep := step_annals (hregular.run earlier) m
      rw [show ((create settings latency isDisabled net wall).run earlier).strike? m = some e from
        hstrike] at hstep
      obtain ⟨r, hget, hlive⟩ := hstep.round_of_struck
      have hphase : (w.run earlier).shared.net.phase? id = some r.phase :=
        Option.map_eq_some_iff.2 ⟨r, hround ▸ hget, rfl⟩
      -- nothing has struck the round before, so that it has not failed
      have hnot : r.phase ≠ .failed := fun hfail =>
        ((hjudged earlier).failed_iff id).1 (hphase.trans (by rw [hfail])) hbefore
      exact ⟨r.phase, hphase, hlive.resolve_right hnot⟩
    · rw [herrors, hhead]
      rfl

/-- The ban of one member strikes a round, and the error of another finds it failed. -/
def banAndError : List Move :=
  gather ["a", "b"] ++ kickoff ++ [.ban 1 "a", .poll 2 "b" .error,
    .iterate .updates fun _ => .still, .iterate .updates fun _ => .still]

/-- The record is of the ban. -/
theorem errorsFor_of_banAndError : (smallNetwork ["a", "b"]).Fresh ∧
    ∃ earlier m later e, banAndError = earlier ++ m :: later ∧
      ((small ["a", "b"]).run earlier).Struck m e ∧ e.node = some "a" ∧ e.cause = .nodeBanned ∧
      ((small ["a", "b"]).run banAndError).shared.net.log.errorsFor ⟨1⟩ = [e] := by
  have hphase : ((small ["a", "b"]).run banAndError).shared.net.phase? ⟨1⟩ = some .failed := by
    decide +kernel
  have htold : (((small ["a", "b"]).run banAndError).shared.net.log.errorsFor ⟨1⟩).map
      (fun e => (e.node, e.cause)) = [(some "a", .nodeBanned)] := by decide +kernel
  refine ⟨fresh_smallNetwork _, ?_⟩
  rcases errorsFor_of_run _ _ _ _ (fresh_smallNetwork ["a", "b"]) banAndError ⟨1⟩ with
    ⟨hnot, -⟩ | ⟨-, earlier, m, later, e, hmoves, -, -, hstruck, -, herrors⟩
  · exact absurd hphase hnot
  · rw [show ((small ["a", "b"]).run banAndError).shared.net.log.errorsFor ⟨1⟩ = [e] from herrors] at htold
    simp only [List.map_cons, List.map_nil, List.cons.injEq, Prod.mk.injEq, and_true] at htold
    exact ⟨earlier, m, later, e, hmoves, hstruck, htold.1, htold.2, herrors⟩

end World

end MixRounds.Live
