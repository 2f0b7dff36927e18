import MixRounds.Proofs.Live.Conservation
import MixRounds.Proofs.Live.Draining
import MixRounds.Proofs.Live.Strikes
import MixRounds.Proofs.Live.Winding

/-!
# Between the loop and the starter

The loop puts teams into the queue of the starter, the starter reports on them through the queue of events,
and the loop takes its reports from there.  `World.dispatch` is what the two have between them, and
`World.passage` what passes between them in one move: the teams that are handed over, the team whose start is
tried, the report that gets on its way, and the report that the loop hears.  All but the try are read off
the queues before and after the move, whoever made it.

**`World.step_dispatch`** lists what a move can do here, as long as the loop is alive after it: the starter
takes a team, tries it, or is let into the queue; a watcher tells the loop something else; time passes, but
not beyond a start that is due; or the loop takes its turn, in which it may hear a report and then hands
teams over (`World.HandedOver`).
-/

namespace MixRounds.Live

namespace Event

/-- The round of the team that the starter reports on. -/
def reported? : Event → Option RoundId
  | .started id => some id
  | .startFailed p _ => some p.id
  | _ => none

/-- The event is a report of the starter. -/
def isReport (e : Event) : Bool := e.reported?.isSome

/-- The starter reports on this team: it was started, or its start has failed. -/
def ReportsOn (e : Event) (p : ProtoRound) : Prop := e = .started p.id ∨ ∃ fault, e = .startFailed p fault

/-- The report on a team, by what came of its start. -/
def ofStart (p : ProtoRound) : Except Fault Unit → Event
  | .ok () => .started p.id
  | .error fault => .startFailed p fault

variable {e : Event} {p : ProtoRound}

lemma reportsOn_ofStart (p : ProtoRound) (result : Except Fault Unit) : (ofStart p result).ReportsOn p := by
  cases result with
  | ok u => exact Or.inl rfl
  | error fault => exact Or.inr ⟨fault, rfl⟩

lemma ReportsOn.reported? (h : e.ReportsOn p) : e.reported? = some p.id := by
  rcases h with rfl | ⟨fault, rfl⟩ <;> rfl

lemma ReportsOn.isReport (h : e.ReportsOn p) : e.isReport = true := by
  rw [Event.isReport, h.reported?, Option.isSome_some]

end Event

/-! ## Teams are handed over -/

namespace World

variable {w w' w'' : World} {teams teams' : List ProtoRound}

/-- The loop has handed over these teams, one after the other.  Their numbers go up from the next number on,
they are in flight, and their members were online. -/
structure HandedOver (w : World) (teams : List ProtoRound) (w' : World) : Prop where
  protos : w'.protos = w.protos ++ teams
  next_le : w.roster.next ≤ w'.roster.next
  numbers : ∀ p ∈ teams, w.roster.next ≤ p.id.toNat ∧ p.id.toNat < w'.roster.next
  increasing : teams.Pairwise fun p q => p.id.toNat < q.id.toNat
  flight : ∀ id team, w'.loop.inFlight.get? id = some team ↔
    w.loop.inFlight.get? id = some team ∨ ∃ p ∈ teams, p.id = id ∧ p.topology = team
  online : ∀ v, v ∈ w.shared.pool.online ↔ v ∈ w'.shared.pool.online ∨ ∃ p ∈ teams, v ∈ p.topology

namespace HandedOver

lemma refl (w : World) : HandedOver w [] w where
  protos := by simp
  next_le := Nat.le_refl _
  numbers p hp := by cases hp
  increasing := List.Pairwise.nil
  flight id team := by simp
  online v := by simp

/-- Later teams have greater numbers. -/
lemma trans (h : HandedOver w teams w') (h' : HandedOver w' teams' w'') :
    HandedOver w (teams ++ teams') w'' where
  protos := by rw [h'.protos, h.protos, List.append_assoc]
  next_le := Nat.le_trans h.next_le h'.next_le
  numbers p hp := by
    have hnext := h.next_le
    have hnext' := h'.next_le
    rcases List.mem_append.1 hp with hp | hp
    · have hold := h.numbers p hp
      omega
    · have hnew := h'.numbers p hp
      omega
  increasing := by
    refine List.pairwise_append.2 ⟨h.increasing, h'.increasing, fun p hp q hq => ?_⟩
    have hold := h.numbers p hp
    have hnew := h'.numbers q hq
    omega
  flight id team := by
    rw [h'.flight, h.flight]
    simp only [List.mem_append, or_and_right, exists_or, or_assoc]
  online v := by
    rw [h.online, h'.online]
    simp only [List.mem_append, or_and_right, exists_or, or_assoc]
    exact or_congr_right or_comm

end HandedOver

/-- A team that could not be formed is put back, and costs a number. -/
lemma handedOver_of_putBack (h : PutBack w w') (hnext : w.roster.next ≤ w'.roster.next) :
    HandedOver w [] w' where
  protos := by rw [h.protos, List.append_nil]
  next_le := hnext
  numbers p hp := by cases hp
  increasing := List.Pairwise.nil
  flight id team := by simp [h.inFlight]
  online v := by simp [h.online.mem_iff]

/-- A team is put in flight under the next number. -/
lemma handedOver_of_putInFlight {p : ProtoRound} (h : PutInFlight w p w')
    (hid : p.id.toNat = w.roster.next) (hnext : w'.roster.next = w.roster.next + 1) :
    HandedOver w [p] w' where
  protos := h.protos
  next_le := by omega
  numbers q hq := by
    obtain rfl := List.mem_singleton.1 hq
    omega
  increasing := List.pairwise_singleton ..
  flight id team := by
    rw [h.inFlight, Table.get?_insert]
    by_cases hp : id = p.id
    · subst hp
      simp [h.number]
    · have hne : ¬ p.id = id := fun heq => hp heq.symm
      simp [hp, hne]
  online v := by simp [h.online.mem_iff]

lemma handedOver_assembleOne (hr : w.roster.Sound) (hrun : w.handsOut = true) (chance : Shuffle)
    (hgoes : ∀ setback, (w.assembleOne chance).2 ≠ .fatal setback) :
    ∃ teams, HandedOver w teams (w.assembleOne chance).1 := by
  revert hgoes
  rw [assembleOne]
  cases hpick : w.shared.pool.pick w.threshold w.settings.teamSize.toNat w.isDisabled chance with
  | error fault =>
      intro _
      dsimp only
      split <;> exact ⟨[], .refl w⟩
  | ok result =>
      obtain ⟨picked, pool⟩ := result
      obtain ⟨hnet, hspec⟩ := formTeam_spec (w.mapShared fun s => { s with pool := pool }) picked
      dsimp only
      rcases hform : (w.mapShared fun s => { s with pool := pool }).formTeam picked with
        ⟨(fault | _) | p, net⟩
      all_goals
        intro hgoes
        rw [hform] at hnet hspec
        dsimp only at hnet hspec hgoes ⊢
      · have hnext : (w.shared.net.counter.next + 1).toNat = w.roster.next + 1 := by
          rcases hspec with ⟨fault', heq, hconf⟩ | ⟨hnext, -⟩
          · cases heq
            exact absurd (assemblyFailed_of_not_isConfiguration _ picked hconf) (hgoes (.fault fault))
          · exact hnext
        refine ⟨[], handedOver_of_putBack (putBack_of_formTeam hr hpick hform) ?_⟩
        rw [roster_assemblyFailed, hnet]
        exact Nat.le_of_lt (Nat.lt_of_lt_of_eq (Nat.lt_succ_self _) hnext.symm)
      · exact absurd rfl (hgoes .overflow)
      · rcases hspec with ⟨fault, heq, -⟩ | ⟨hnext, hteam⟩
        · cases heq
        obtain ⟨-, hid⟩ := hteam p rfl
        refine ⟨[p], handedOver_of_putInFlight (putInFlight_of_formTeam hr hrun hpick hform) hid ?_⟩
        rw [roster_teamFormed, hnet]
        exact hnext

lemma handedOver_assembleFrom (fuel : Nat) (chance : Nat → Shuffle) (hr : w.roster.Sound)
    (hrun : w.handsOut = true) (hgoes : (assembleFrom fuel chance w).2 = none) :
    ∃ teams, HandedOver w teams (assembleFrom fuel chance w).1 := by
  induction fuel generalizing w chance with
  | zero => exact ⟨[], .refl w⟩
  | succ fuel ih =>
      obtain ⟨hrun', -, hsound⟩ := assembleOne_sound hr hrun (chance 0)
      have hone := handedOver_assembleOne hr hrun (chance 0)
      rw [assembleFrom] at hgoes ⊢
      split at hgoes <;> rename_i after heq <;> rw [heq] at hone hrun' hsound
      · obtain ⟨team, hteam⟩ := hone (by simp)
        obtain ⟨teams, hteams⟩ := ih _ (hsound (by simp)) hrun' hgoes
        exact ⟨team ++ teams, hteam.trans hteams⟩
      · exact hone (by simp)
      · cases hgoes

/-- **A turn after which the loop goes on** has handed over some teams, or none. -/
lemma handedOver_settleTurn (hr : w.roster.Sound) (hrun : w.handsOut = true) {chance : Nat → Shuffle}
    (hgoes : (w.settleTurn chance).handsOut = true) : ∃ teams, HandedOver w teams (w.settleTurn chance) := by
  rcases w.settleTurn_cases chance with ⟨w', hw', heq | heq⟩ | ⟨setback, heq⟩
  · rw [heq]
    rcases hw' with rfl | ⟨rfl, hnone⟩
    · exact ⟨[], .refl w'⟩
    · exact handedOver_assembleFrom _ chance hr hrun hnone
  · simp [heq, handsOut_finish] at hgoes
  · simp [heq, handsOut_finish] at hgoes

end World

/-! ## What passes -/

/-- What the loop and the starter have between them. -/
structure Dispatch where
  /-- The loop runs, and has a starter. -/
  running : Bool
  starter : Starter
  /-- The teams in the queue of the starter. -/
  protos : List ProtoRound
  events : Channel Worker Event
  inFlight : RoundId → Option (List NodeId)
  /-- The number of the next team. -/
  next : Nat
  clock : Nat

/-- What passes between the loop and the starter. -/
structure Passage where
  /-- The teams that the loop hands over. -/
  handed : List ProtoRound := []
  /-- The team whose start the starter tries. -/
  tried : List ProtoRound := []
  /-- The reports that get on their way. -/
  sent : List Event := []
  /-- The report that the loop hears. -/
  heard : List Event := []

namespace Dispatch

/-- The reports of which the loop has not heard yet. -/
def reports (σ : Dispatch) : List Event := σ.events.messages.filter Event.isReport

/-- A turn of the loop takes at most one event, and hears it if it is a report. -/
inductive Hears (ch : Channel Worker Event) : List Event → Channel Worker Event → Prop
  | nothing : Hears ch [] ch
  | event {e : Event} {ch' : Channel Worker Event} (hreceive : ch.receive? = some (e, ch')) :
      Hears ch ([e].filter Event.isReport) ch'

/-- **A report that is heard** was the first of those on their way. -/
lemma Hears.reports {ch ch' : Channel Worker Event} {heard : List Event} (h : Hears ch heard ch') :
    ch.messages.filter Event.isReport = heard ++ ch'.messages.filter Event.isReport := by
  cases h with
  | nothing => rfl
  | event hreceive => rw [Channel.messages_receive? hreceive, ← List.singleton_append, List.filter_append]

/-- One move, between a loop that is alive and a starter that pauses so long, with what passes in it. -/
inductive Step (pause : Nat) (σ : Dispatch) : Passage → Dispatch → Prop
  | wait {clock : Nat} (hle : σ.clock ≤ clock)
      (hdue : ∀ p due, σ.starter = .pausing p due → clock = σ.clock ∨ clock ≤ due) :
      Step pause σ {} { σ with clock := clock }
  | launch (hidle : σ.running = false) : Step pause σ {} { σ with running := true, starter := .idle }
  | take {p : ProtoRound} {rest : List ProtoRound} (hstarter : σ.starter = .idle)
      (hprotos : σ.protos = p :: rest) :
      Step pause σ {} { σ with starter := .pausing p (σ.clock + pause), protos := rest }
  | attempt {p : ProtoRound} {due : Nat} {e : Event} (hstarter : σ.starter = .pausing p due)
      (hdue : due ≤ σ.clock) (hopen : σ.events.closed = false) (he : e.ReportsOn p) :
      Step pause σ { tried := [p], sent := [e] }
        { σ with
          starter := if σ.events.hasRoom then .idle else .reporting
          events := (σ.events.send .starter e).2 }
  | admitStarter {ch : Channel Worker Event} (hadmitted : σ.events.admit? = some (.starter, ch)) :
      Step pause σ {} { σ with starter := .idle, events := ch }
  | admitWatcher {round : RoundId} {phase : TimedPhase} {ch : Channel Worker Event}
      (hadmitted : σ.events.admit? = some (.watcher round phase, ch)) :
      Step pause σ {} { σ with events := ch }
  | tell {round : RoundId} {phase : TimedPhase} {e : Event} (hopen : σ.events.closed = false)
      (he : e.isReport = false) :
      Step pause σ {} { σ with events := (σ.events.send (.watcher round phase) e).2 }
  | turn {handed : List ProtoRound} {heard : List Event} {events : Channel Worker Event}
      {inFlight : RoundId → Option (List NodeId)} {next : Nat} (hrunning : σ.running = true)
      (hheard : Hears σ.events heard events) (hnext : σ.next ≤ next)
      (hnumbers : ∀ p ∈ handed, σ.next ≤ p.id.toNat ∧ p.id.toNat < next)
      (hincreasing : handed.Pairwise fun p q => p.id.toNat < q.id.toNat)
      (hflight : ∀ id team, inFlight id = some team ↔
        (σ.inFlight id = some team ∧ ∀ e ∈ heard, e.reported? ≠ some id) ∨
          ∃ p ∈ handed, p.id = id ∧ p.topology = team) :
      Step pause σ { handed := handed, heard := heard }
        { σ with protos := σ.protos ++ handed, events := events, inFlight := inFlight, next := next }

end Dispatch

namespace World

/-- What the loop and the starter have between them. -/
def dispatch (w : World) : Dispatch :=
  ⟨w.isRunning, w.starter, w.protos, w.events, w.loop.inFlight.get?, w.roster.next, w.clock⟩

/-- The team whose start is tried in a move. -/
def tried? (w : World) : Move → Option ProtoRound
  | .attempt =>
      match w.starter with
      | .pausing p due => if w.clock < due then none else some p
      | _ => none
  | _ => none

/-- What passes between the loop and the starter in a move: the teams that are added to the queue of the
starter, the team whose start is tried, the reports that are added to the queue of events, and the report
that the loop takes from there. -/
def passage (w : World) (m : Move) : Passage where
  handed := (w.step m).protos.drop w.protos.length
  tried := (w.tried? m).toList
  sent := (w.step m).dispatch.reports.drop w.dispatch.reports.length
  heard := (w.heard? m).toList.filter Event.isReport

variable {w : World}

/-- Nothing is tried and nothing is heard, but in a try and in a turn of the loop. -/
lemma passage_of_dispatch {m : Move} {handed : List ProtoRound} {sent : List Event}
    (hprotos : (w.step m).protos = w.protos ++ handed)
    (hreports : (w.step m).dispatch.reports = w.dispatch.reports ++ sent) :
    w.passage m = ⟨handed, (w.tried? m).toList, sent, (w.heard? m).toList.filter Event.isReport⟩ := by
  rw [passage, hprotos, hreports, List.drop_left, List.drop_left]

/-- A move in which nothing passes. -/
lemma passage_eq_nothing {m : Move} (hprotos : (w.step m).protos = w.protos)
    (hreports : (w.step m).dispatch.reports = w.dispatch.reports) (htried : w.tried? m = none)
    (hheard : w.heard? m = none) : w.passage m = {} := by
  have hnothing := passage_of_dispatch (hprotos.trans (List.append_nil _).symm)
    (hreports.trans (List.append_nil _).symm)
  rw [htried, hheard] at hnothing
  exact hnothing

/-- A move that does not show. -/
lemma passes_of_dispatch_eq {m : Move} {pause : Nat} (hsame : (w.step m).dispatch = w.dispatch)
    (htried : w.tried? m = none) (hheard : w.heard? m = none) :
    Dispatch.Step pause w.dispatch (w.passage m) (w.step m).dispatch := by
  have hprotos : (w.step m).protos = w.protos := congrArg Dispatch.protos hsame
  have hreports : (w.step m).dispatch.reports = w.dispatch.reports := congrArg Dispatch.reports hsame
  rw [passage_eq_nothing hprotos hreports htried hheard, hsame]
  exact .wait (Nat.le_refl _) fun _ _ _ => Or.inl rfl

/-! ### Callers and watchers -/

lemma next_of_isCall {m : Move} (hcall : m.isCall = true) : (w.step m).roster.next = w.roster.next := by
  cases m with
  | poll call v a =>
      dsimp only [step]
      rcases roster_poll w call v a with heq | ⟨-, heq⟩ <;> rw [heq]
  | ban call v => simp only [step, roster_ban]
  | request r => simp only [step, roster_request]
  | resumeBan call => simp only [step, roster_resumeBan]
  | admitUpdate => simp only [step, roster_admitUpdate]
  | admitRequest => simp only [step, roster_admitRequest]
  | _ => cases hcall

lemma dispatch_of_isCall {m : Move} (hcall : m.isCall = true) : (w.step m).dispatch = w.dispatch := by
  have hinterior := interior_of_isCall (w := w) hcall
  have hloop : (w.step m).loop = w.loop := congrArg Interior.loop hinterior
  have hstarter : (w.step m).starter = w.starter := congrArg Interior.starter hinterior
  have hprotos : (w.step m).protos = w.protos := congrArg Interior.protos hinterior
  have hevents : (w.step m).events = w.events := congrArg Interior.events hinterior
  have hclock : (w.step m).clock = w.clock :=
    congrArg Conditions.clock (conditions_of_step (by cases m <;> first | rfl | cases hcall))
  simp only [dispatch, isRunning, hloop, hstarter, hprotos, hevents, hclock, next_of_isCall hcall]

/-- A watcher tells the loop something, but that is no report. -/
lemma reports_tell (w : World) (x : Watcher) {e : Event} (he : e.isReport = false) :
    (w.tell x e).dispatch.reports = w.dispatch.reports := by
  have hmessages := w.events.messages_send (.watcher x.round x.phase) e
  simp only [Dispatch.reports, dispatch, tell, hmessages]
  split
  · rfl
  · simp [he]

lemma passes_tell {m : Move} {pause : Nat} {w' : World} {x : Watcher} {e : Event}
    (hopen : w.events.closed = false) (hstep : w.step m = w'.tell x e) (hsame : w'.dispatch = w.dispatch)
    (he : e.isReport = false) (htried : w.tried? m = none) (hheard : w.heard? m = none) :
    Dispatch.Step pause w.dispatch (w.passage m) (w.step m).dispatch := by
  have hprotos : (w.step m).protos = w.protos := by
    rw [hstep]
    exact congrArg Dispatch.protos hsame
  have hreports : (w.step m).dispatch.reports = w.dispatch.reports := by
    rw [hstep, reports_tell w' x he, hsame]
  rw [passage_eq_nothing hprotos hreports htried hheard, hstep]
  have htold : (w'.tell x e).dispatch
      = { w'.dispatch with events := (w'.events.send (.watcher x.round x.phase) e).2 } := rfl
  have hevents : w'.events = w.events := congrArg Dispatch.events hsame
  rw [htold, hsame, hevents]
  exact .tell hopen he

lemma passes_leave (hopen : w.events.closed = false) (x : Watcher) (pause : Nat) :
    Dispatch.Step pause w.dispatch (w.passage (.leave x)) (w.step (.leave x)).dispatch := by
  by_cases hleaves : x ∈ w.shared.watchers ∧ w.hasLeft x = true
  · cases hphase : x.phase with
    | precomputation =>
        refine passes_of_dispatch_eq ?_ rfl rfl
        simp only [step, leave, hleaves, and_self, if_true, hphase]
        rfl
    | realtime =>
        have hstep : w.step (.leave x) = ((w.unwatch x).mapShared fun s =>
            { s with tracker := (s.tracker.remove x.round).2 }).tell x (.finished x.round) := by
          simp only [step, leave, hleaves, and_self, if_true, hphase]
        exact passes_tell hopen hstep rfl rfl rfl rfl
  · refine passes_of_dispatch_eq ?_ rfl rfl
    simp only [step, leave, hleaves, if_false]

lemma passes_expire (hopen : w.events.closed = false) (x : Watcher) (pause : Nat) :
    Dispatch.Step pause w.dispatch (w.passage (.expire x)) (w.step (.expire x)).dispatch := by
  by_cases hfires : x ∈ w.shared.watchers ∧ x.deadline ≤ w.clock
  · have hstep : w.step (.expire x) = ((w.unwatch x).mapShared fun s =>
        s.notify (.timerExpired x.round x.phase)).tell x (.timedOut x.round x.phase) := by
      simp only [step, expire, hfires, and_self, if_true]
    exact passes_tell hopen hstep rfl rfl rfl rfl
  · refine passes_of_dispatch_eq ?_ rfl rfl
    simp only [step, expire, hfires, if_false]

/-! ### The starter -/

lemma passes_launch (pause : Nat) :
    Dispatch.Step pause w.dispatch (w.passage .launch) (w.step .launch).dispatch := by
  by_cases hidle : w.loop.stage = .idle
  · have hlaunched : w.step .launch = { w with
        loop := { w.loop with stage := .running }
        starter := .idle
        nextSweep := some (w.clock + 1000 * w.settings.cleanupIntervalSecs.toNat) } := by
      simp only [step, launch, hidle]
    have hrunning : w.dispatch.running = false := by simp [dispatch, isRunning, hidle]
    rw [passage_eq_nothing (by rw [hlaunched]) (by rw [hlaunched]; rfl) rfl rfl, hlaunched]
    exact .launch hrunning
  · refine passes_of_dispatch_eq ?_ rfl rfl
    dsimp only [step, launch]
    split
    · exact absurd ‹_› hidle
    · rfl

/-- **The starter reports** to a loop that is alive: at once, or it gets in line. -/
lemma report_of_open (hopen : w.events.closed = false) (e : Event) : w.report e = { w with
    starter := if w.events.hasRoom then .idle else .reporting
    events := (w.events.send .starter e).2 } := by
  cases hroom : w.events.hasRoom <;> simp [report, Channel.send, hopen, hroom]

/-- What the starter reports on a team that it tries now. -/
def reportOn (w : World) (p : ProtoRound) : Event := .ofStart p (w.shared.start w.wall w.clock p).2

/-- **A start is tried** when it is due, and the starter reports on it at once. -/
lemma attempt_of_due (hr : w.roster.Sound) {p : ProtoRound} {due : Nat} (hstarter : w.starter = .pausing p due)
    (hdue : due ≤ w.clock) : ∃ s : Shared, s.net.counter = w.shared.net.counter ∧
      w.attempt = ({ w with shared := s } : World).report (w.reportOn p) := by
  have hp : p ∈ w.pending := by simp [pending, hstarter]
  have hnot : ¬ w.clock < due := Nat.not_lt.2 hdue
  rcases start_pending hr hp w.wall w.clock with ⟨v, -, hstart⟩ | ⟨s, hstart, hstarted⟩
  · exact ⟨w.shared.notify (.startFailed p.id (.banned v)), rfl,
      by simp [attempt, hstarter, hnot, reportOn, Event.ofStart, hstart]⟩
  · exact ⟨s, hstarted.counter, by simp [attempt, hstarter, hnot, reportOn, Event.ofStart, hstart]⟩

lemma dispatch_attempt (hr : w.roster.Sound) (hopen : w.events.closed = false) {p : ProtoRound} {due : Nat}
    (hstarter : w.starter = .pausing p due) (hdue : due ≤ w.clock) :
    (w.step .attempt).dispatch = { w.dispatch with
      starter := if w.events.hasRoom then .idle else .reporting
      events := (w.events.send .starter (w.reportOn p)).2 } := by
  obtain ⟨s, hcounter, hattempt⟩ := attempt_of_due hr hstarter hdue
  rw [step, hattempt, report_of_open (w := { w with shared := s }) hopen]
  simp only [dispatch, roster, hcounter]
  rfl

/-- **A try shows what came of it.** -/
lemma passage_attempt (hr : w.roster.Sound) (hopen : w.events.closed = false) {p : ProtoRound} {due : Nat}
    (hstarter : w.starter = .pausing p due) (hdue : due ≤ w.clock) :
    w.passage .attempt = { tried := [p], sent := [w.reportOn p] } := by
  have hstep := dispatch_attempt hr hopen hstarter hdue
  have hreport : (w.reportOn p).isReport = true := (Event.reportsOn_ofStart p _).isReport
  have hreports : (w.step .attempt).dispatch.reports = w.dispatch.reports ++ [w.reportOn p] := by
    rw [hstep]
    simp [Dispatch.reports, dispatch, Channel.messages_send, hopen, hreport]
  have hprotos : (w.step .attempt).protos = w.protos ++ [] := by
    rw [List.append_nil]
    exact congrArg Dispatch.protos hstep
  have htried : w.tried? .attempt = some p := by simp [tried?, hstarter, Nat.not_lt.2 hdue]
  rw [passage_of_dispatch hprotos hreports, htried]
  rfl

/-- **The report on a try** tells what came of the start. -/
lemma sent_of_tried? (hr : w.roster.Sound) (hopen : w.events.closed = false) {m : Move} {p : ProtoRound}
    (h : w.tried? m = some p) : (w.passage m).sent = [w.reportOn p] := by
  cases m with
  | attempt =>
      rw [tried?] at h
      split at h
      · rename_i q due hstarter
        split at h
        · cases h
        · rename_i hdue
          cases h
          rw [passage_attempt hr hopen hstarter (Nat.le_of_not_lt hdue)]
      · cases h
  | _ => cases h

lemma passes_attempt (hr : w.roster.Sound) (hopen : w.events.closed = false) (pause : Nat) :
    Dispatch.Step pause w.dispatch (w.passage .attempt) (w.step .attempt).dispatch := by
  have hidle (hnone : w.tried? .attempt = none) (hsame : w.attempt = w) :
      Dispatch.Step pause w.dispatch (w.passage .attempt) (w.step .attempt).dispatch :=
    passes_of_dispatch_eq (congrArg dispatch hsame) hnone rfl
  cases hstarter : w.starter with
  | pausing p due =>
      by_cases hclock : w.clock < due
      · exact hidle (by simp [tried?, hstarter, hclock]) (by simp [attempt, hstarter, hclock])
      · have hdue : due ≤ w.clock := Nat.le_of_not_lt hclock
        rw [passage_attempt hr hopen hstarter hdue, dispatch_attempt hr hopen hstarter hdue]
        exact .attempt hstarter hdue hopen (Event.reportsOn_ofStart p _)
  | absent | idle | reporting => exact hidle (by simp [tried?, hstarter]) (by simp [attempt, hstarter])

lemma passes_takeProto (hgoes : (w.step .takeProto).handsOut = true) :
    Dispatch.Step w.settings.minDelayMs.toNat w.dispatch (w.passage .takeProto)
      (w.step .takeProto).dispatch := by
  have hrun : w.handsOut = true := handsOut_of_step hgoes
  have hidle (hsame : w.takeProto = w) : Dispatch.Step w.settings.minDelayMs.toNat w.dispatch
      (w.passage .takeProto) (w.step .takeProto).dispatch :=
    passes_of_dispatch_eq (congrArg dispatch hsame) rfl rfl
  cases hstarter : w.starter with
  | idle =>
      cases hprotos : w.protos with
      | nil => exact hidle (by simp [takeProto, hstarter, hprotos, hrun])
      | cons p rest =>
          have htake : w.step .takeProto = { w with
              starter := .pausing p (w.clock + w.settings.minDelayMs.toNat)
              protos := rest } := by simp [step, takeProto, hstarter, hprotos]
          -- a queue that gets shorter shows that nothing was added
          have hpassage : w.passage .takeProto = {} := by
            simp [passage, tried?, heard?, htake, hprotos, dispatch, Dispatch.reports]
          rw [hpassage, htake]
          exact .take hstarter hprotos
  | absent | pausing | reporting => exact hidle (by simp [takeProto, hstarter])

lemma passes_admitEvent (pause : Nat) :
    Dispatch.Step pause w.dispatch (w.passage .admitEvent) (w.step .admitEvent).dispatch := by
  cases hadmitted : w.events.admit? with
  | none => exact passes_of_dispatch_eq (by simp [step, admitEvent, hadmitted]) rfl rfl
  | some admitted =>
      obtain ⟨sender, ch⟩ := admitted
      have hmessages := Channel.messages_admit? hadmitted
      cases sender with
      | starter =>
          have hstep : w.step .admitEvent = { w with events := ch, starter := .idle } := by
            simp [step, admitEvent, hadmitted]
          rw [passage_eq_nothing (by rw [hstep])
            (by simp [hstep, Dispatch.reports, dispatch, hmessages]) rfl rfl, hstep]
          exact .admitStarter hadmitted
      | watcher round phase =>
          have hstep : w.step .admitEvent = { w with events := ch } := by simp [step, admitEvent, hadmitted]
          rw [passage_eq_nothing (by rw [hstep])
            (by simp [hstep, Dispatch.reports, dispatch, hmessages]) rfl rfl, hstep]
          exact .admitWatcher hadmitted

/-! ### Time -/

/-- Time passes no start that is due. -/
lemma clock_pass_le {ms due : Nat} {p : ProtoRound} (hstarter : w.starter = .pausing p due) :
    (w.pass ms).clock = w.clock ∨ (w.pass ms).clock ≤ due := by
  rw [pass]
  split
  · rename_i hall
    refine Or.inr ?_
    have hdue := List.all_eq_true.1 hall due (by simp [deadlines, hstarter])
    simpa using hdue
  · exact Or.inl rfl

lemma passes_pass (pause ms : Nat) :
    Dispatch.Step pause w.dispatch (w.passage (.pass ms)) (w.step (.pass ms)).dispatch := by
  have hle : w.clock ≤ (w.pass ms).clock := (clocks_of_step w (.pass ms)).1
  have hstep : w.step (.pass ms) = { w with clock := (w.pass ms).clock } := by
    dsimp only [step, pass]
    split <;> rfl
  rw [passage_eq_nothing (by rw [hstep]) (by rw [hstep]; rfl) rfl rfl, hstep]
  exact .wait hle fun p due hstarter => clock_pass_le hstarter

/-! ### The turn of the loop -/

/-- The event that is taken as a message. -/
def Message.event? : Message → Option Event
  | .event e => some e
  | _ => none

lemma heard?_of_take? {source : Source} {chance : Nat → Shuffle} {message : Message} {w' : World}
    (hrunning : w.isRunning = true) (htake : w.take? source = some (message, w')) :
    w.heard? (.iterate source chance) = message.event? := by
  cases source <;> simp only [take?, Option.map_eq_some_iff] at htake <;>
    obtain ⟨⟨content, ch⟩, hreceive, heq⟩ := htake <;> cases heq
  · rfl
  · simp [heard?, hrunning, hreceive, Message.event?]
  · rfl

lemma heard?_of_take?_eq_none {source : Source} {chance : Nat → Shuffle} (htake : w.take? source = none) :
    w.heard? (.iterate source chance) = none := by
  cases source with
  | events =>
      have hreceive : w.events.receive? = none := by simpa [take?] using htake
      simp [heard?, hreceive]
  | updates | requests => rfl

lemma hears_of_taken {message : Message} {w' : World} (htaken : w.Taken message w') :
    Dispatch.Hears w.events (message.event?.toList.filter Event.isReport) w'.events := by
  cases htaken with
  | update hreceive | request hreceive => exact .nothing
  | event hreceive => exact .event hreceive

lemma get?_inFlight_unreserve (w : World) (j id : RoundId) :
    (w.unreserve j).loop.inFlight.get? id = if j = id then none else w.loop.inFlight.get? id := by
  cases hj : w.loop.inFlight.get? j with
  | none =>
      have hsame : w.unreserve j = w := by rw [unreserve, hj]
      rw [hsame]
      split
      · rename_i heq
        rw [← heq, hj]
      · rfl
  | some members =>
      have herased : (w.unreserve j).loop.inFlight = w.loop.inFlight.erase j := by rw [unreserve, hj]
      rw [herased, Table.get?_erase]
      simp only [eq_comm]

/-- **What the loop hears of is not in flight any more**, and everything else is as it was. -/
lemma get?_inFlight_process (w : World) (message : Message) (id : RoundId) :
    (w.process message).loop.inFlight.get? id
      = if message.event?.bind Event.reported? = some id then none else w.loop.inFlight.get? id := by
  cases message with
  | update n =>
      have hloop : (w.processUpdate n).loop.inFlight = w.loop.inFlight := by
        rw [processUpdate]
        dsimp only
        split <;> rfl
      simp [process, hloop, Message.event?]
  | event e =>
      cases e with
      | timedOut j phase =>
          obtain ⟨s, f, heq, -⟩ := processTimeout_cases w j phase
          simp [process, processEvent, heq, count, Message.event?, Event.reported?]
      | started j =>
          have hget := get?_inFlight_unreserve w j id
          simpa [process, processEvent, count, Message.event?, Event.reported?] using hget
      | startFailed p fault =>
          have hget := get?_inFlight_unreserve w p.id id
          simpa [process, processEvent, count, mapShared, Message.event?, Event.reported?] using hget
      | finished j => simp [process, processEvent, Message.event?, Event.reported?]
  | request r => cases r <;> simp [process, processRequest, answer, Message.event?]

lemma inFlight_process_iff (w : World) (message : Message) (id : RoundId) (team : List NodeId) :
    (w.process message).loop.inFlight.get? id = some team ↔ w.loop.inFlight.get? id = some team ∧
      ∀ e ∈ message.event?.toList.filter Event.isReport, e.reported? ≠ some id := by
  rw [get?_inFlight_process]
  split
  · rename_i hreported
    obtain ⟨e, he, hid⟩ := Option.bind_eq_some_iff.1 hreported
    refine ⟨fun hnone => absurd hnone (by simp), fun hin => ?_⟩
    exact absurd hid (hin.2 e (by simp [he, Event.isReport, hid]))
  · rename_i hreported
    refine ⟨fun hin => ⟨hin, fun e he hid => hreported ?_⟩, And.left⟩
    obtain ⟨he, -⟩ := List.mem_filter.1 he
    rw [Option.mem_toList.1 he]
    exact hid

/-- No number is drawn when a message is dealt with. -/
lemma next_process (hr : w.roster.Sound) {message : Message} {w' : World} (htaken : w.Taken message w') :
    (w'.process message).roster.next = w.roster.next := by
  cases htaken with
  | @update n ch hreceive =>
      have happlied := (applied_takenOver (w := { w with updates := ch }) hr n).counter
      have hcounter : (({ w with updates := ch } : World).processUpdate n).shared.net.counter
          = w.shared.net.counter := by
        rw [processUpdate]
        dsimp only
        split <;> exact happlied
      simp only [process, roster, hcounter]
  | @event e ch hreceive =>
      cases e with
      | timedOut id phase =>
          have hroster := roster_processTimeout { w with events := ch } id phase
          simp only [process, processEvent, hroster]
          rfl
      | started id | startFailed p fault =>
          dsimp only [process, processEvent, unreserve]
          split <;> rfl
      | finished id => rfl
  | @request r ch hreceive => cases r <;> rfl

lemma settleTurn_frame {chance : Nat → Shuffle} (hgoes : (w.settleTurn chance).handsOut = true) :
    (w.settleTurn chance).isRunning = w.isRunning ∧ (w.settleTurn chance).starter = w.starter ∧
      (w.settleTurn chance).events = w.events ∧ (w.settleTurn chance).clock = w.clock := by
  have hevents : (w.settleTurn chance).events = w.events :=
    congrArg Remainder.events (remainder_settleTurn hgoes)
  have hclock : (w.settleTurn chance).clock = w.clock :=
    congrArg Conditions.clock (conditions_settleTurn w chance)
  have hassembled : ((w.assemble chance).1.isRunning, (w.assemble chance).1.starter)
      = (w.isRunning, w.starter) := by
    refine read_assembleFrom (fun w => (w.isRunning, w.starter)) (fun w chance => ?_) _ chance w
    rw [assembleOne_eq]
    rfl
  obtain ⟨hrunning, hstarter⟩ := Prod.mk.inj hassembled
  rcases settleTurn_of_handsOut hgoes with heq | heq
  · exact ⟨by rw [heq], by rw [heq], hevents, hclock⟩
  · exact ⟨by rw [heq, hrunning], by rw [heq, hstarter], hevents, hclock⟩

/-- What is left alone when a message is taken and dealt with. -/
lemma process_frame {source : Source} {message : Message} {w' : World}
    (htake : w.take? source = some (message, w')) :
    (w'.process message).isRunning = w.isRunning ∧ (w'.process message).starter = w.starter ∧
      (w'.process message).protos = w.protos ∧ (w'.process message).events = w'.events ∧
      (w'.process message).clock = w.clock := by
  have hstage : (w'.process message).loop.stage = w.loop.stage := by
    rw [stage_process, loop_take? htake]
  refine ⟨by simp only [isRunning, hstage], ?_⟩
  rw [process_eq, take?_eq htake]
  exact ⟨rfl, rfl, rfl, rfl⟩

/-- **The teams that a turn hands over** are those that it adds to the queue. -/
lemma handedOver_of_take? (hr : w.roster.Sound) {source : Source} {chance : Nat → Shuffle}
    {message : Message} {w' : World} (hrunning : w.isRunning = true)
    (htake : w.take? source = some (message, w'))
    (hgoes : (w.step (.iterate source chance)).handsOut = true) :
    HandedOver (w'.process message) (w.passage (.iterate source chance)).handed
      (w.step (.iterate source chance)) := by
  have hstep := step_of_take? chance hrunning htake
  obtain ⟨hruns, -, hprotos, -, -⟩ := process_frame htake
  rw [hstep] at hgoes
  obtain ⟨teams, hteams⟩ := handedOver_settleTurn (process_sound hr htake)
    (handsOut_of_isRunning (hruns.trans hrunning)) hgoes
  have hhanded : (w.passage (.iterate source chance)).handed = teams := by
    simp only [passage, hstep, hteams.protos, hprotos, List.drop_left]
  rw [hhanded, hstep]
  exact hteams

/-- **A turn in which a message is taken**: a report is heard, if it is one, and teams are handed over. -/
lemma passes_turn (hr : w.roster.Sound) {source : Source} {chance : Nat → Shuffle} {message : Message}
    {w' : World} (pause : Nat) (hrunning : w.isRunning = true)
    (htake : w.take? source = some (message, w'))
    (hgoes : (w.step (.iterate source chance)).handsOut = true) :
    Dispatch.Step pause w.dispatch (w.passage (.iterate source chance))
      (w.step (.iterate source chance)).dispatch := by
  have hteams := handedOver_of_take? hr hrunning htake hgoes
  have hhanded := hteams.protos
  generalize hpassed : (w.passage (.iterate source chance)).handed = teams at hteams hhanded
  have hstep := step_of_take? chance hrunning htake
  rw [hstep] at hgoes hteams hhanded ⊢
  obtain ⟨hruns, hstarter, hprotos, hevents, hclock⟩ := process_frame htake
  obtain ⟨hruns', hstarter', hevents', hclock'⟩ := settleTurn_frame hgoes
  have hnext := next_process hr (taken_of_take? htake)
  have hheard := hears_of_taken (taken_of_take? htake)
  -- the queue of events can only get shorter
  have hshorter : ((w'.process message).settleTurn chance).dispatch.reports.length
      ≤ w.dispatch.reports.length := by
    have hreports := congrArg List.length hheard.reports
    simp only [Dispatch.reports, dispatch, hevents', hevents, hreports, List.length_append]
    omega
  have hpassage : w.passage (.iterate source chance)
      = ⟨teams, [], [], message.event?.toList.filter Event.isReport⟩ := by
    rw [← hpassed]
    simp only [passage, hstep, List.drop_eq_nil_of_le hshorter, heard?_of_take? hrunning htake, tried?,
      Option.toList_none]
  have hdispatch : ((w'.process message).settleTurn chance).dispatch = { w.dispatch with
      protos := w.protos ++ teams
      events := w'.events
      inFlight := ((w'.process message).settleTurn chance).loop.inFlight.get?
      next := ((w'.process message).settleTurn chance).roster.next } := by
    simp only [dispatch, hruns', hruns, hstarter', hstarter, hevents', hevents, hclock', hclock, hhanded,
      hprotos]
  rw [hpassage, hdispatch]
  refine .turn hrunning hheard (hnext ▸ hteams.next_le :) (fun p hp => ?_) hteams.increasing
    fun id team => ?_
  · have hnumber := hteams.numbers p hp
    rw [hnext] at hnumber
    exact hnumber
  · rw [hteams.flight, inFlight_process_iff, loop_take? htake]
    rfl

lemma passes_iterate (hr : w.roster.Sound) (source : Source) (chance : Nat → Shuffle) (pause : Nat)
    (hgoes : (w.step (.iterate source chance)).handsOut = true) :
    Dispatch.Step pause w.dispatch (w.passage (.iterate source chance))
      (w.step (.iterate source chance)).dispatch := by
  cases hrunning : w.isRunning with
  | false =>
      refine passes_of_dispatch_eq (by simp [step, iterate, hrunning]) rfl ?_
      cases source <;> simp [heard?, hrunning]
  | true =>
      cases htake : w.take? source with
      | none =>
          exact passes_of_dispatch_eq (by simp [step, iterate, hrunning, htake]) rfl
            (heard?_of_take?_eq_none htake)
      | some taken => exact passes_turn hr pause hrunning htake hgoes

/-! ## Every move -/

/-- **What a move does between a living loop and its starter.** -/
theorem step_dispatch (hr : w.roster.Sound) (hwakeful : w.Wakeful) {m : Move}
    (hgoes : (w.step m).handsOut = true) :
    Dispatch.Step w.settings.minDelayMs.toNat w.dispatch (w.passage m) (w.step m).dispatch := by
  have hrun : w.handsOut = true := handsOut_of_step hgoes
  have hopen : w.events.closed = false := hwakeful.is_open hrun
  cases hcall : m.isCall with
  | true =>
      have hsame := dispatch_of_isCall (w := w) hcall
      cases m <;> first | exact passes_of_dispatch_eq hsame rfl rfl | cases hcall
  | false =>
      cases m with
      | iterate source chance => exact passes_iterate hr source chance _ hgoes
      | takeProto => exact passes_takeProto hgoes
      | attempt => exact passes_attempt hr hopen _
      | admitEvent => exact passes_admitEvent _
      | pass ms => exact passes_pass _ ms
      | wallPass nanos => exact passes_of_dispatch_eq rfl rfl rfl
      | drop => cases hgoes
      | conclude =>
          refine passes_of_dispatch_eq ?_ rfl rfl
          dsimp only [step, conclude] at hgoes ⊢
          split at hgoes
          · cases hgoes
          · rfl
      | launch => exact passes_launch _
      | leave x => exact passes_leave hopen x _
      | expire x => exact passes_expire hopen x _
      | sweep =>
          refine passes_of_dispatch_eq ?_ rfl rfl
          dsimp only [step, sweep]
          split
          · rfl
          · split <;> rfl
      | poll | ban | request | resumeBan | admitUpdate | admitRequest => cases hcall

end World

end MixRounds.Live
