import MixRounds.Live.Settle
import MixRounds.Proofs.Live.Timetable
import MixRounds.Proofs.Settings.Sufficiency

/-!
# Every team is answered for

A team that the loop hands over is out of its hands until the starter reports: the members are reserved, and
nobody else may have them.  So the starter has to report on every team, once, and the loop has to find the
team when it hears of it.  `World.account` is what passes between the two in a run, and it is right as long as
the loop is alive (`World.Vouched.run`).

**`World.answered_of_run`** is what an operator gets from that.  The teams are tried one after the other in the
order of their numbers, with pauses, and each is answered for by one report, which tells what came of the
start (`World.Answered`).  With it the loop ends the reservation, and puts back online those members of a team
that was not started that wait, are not banned, and hold no round (`World.Releases`).  On a virtual clock
(`World.Prompt`) no team is forgotten: each is tried exactly at its time (`World.OnSchedule`).
-/

namespace MixRounds.Live

/-- A move in which the clock of the timers moves on. -/
def Move.isPass : Move → Bool
  | .pass _ => true
  | _ => false

namespace World

variable {w : World} {a : Account} {moves : List Move}

/-! ## The account of a run -/

/-- What has passed before the moves and in them. -/
def accountFrom (w : World) (a : Account) : List Move → Account
  | [] => a
  | m :: rest => (w.step m).accountFrom (a.add w.clock (w.passage m)) rest

/-- What has passed in the moves. -/
def account (w : World) (moves : List Move) : Account := w.accountFrom {} moves

/-- The pause before each start. -/
def minDelay (w : World) : Nat := w.settings.minDelayMs.toNat

lemma minDelay_step (w : World) (m : Move) : (w.step m).minDelay = w.minDelay := by
  rw [minDelay, settings_of_step, minDelay]

/-- The account is right. -/
structure Vouched (w : World) (a : Account) : Prop where
  roster : w.roster.Sound
  wakeful : w.Wakeful
  manned : w.dispatch.Manned
  queued : w.dispatch.Queued a
  numbered : w.dispatch.Numbered a
  reserved : w.dispatch.Reserved a
  paced : w.dispatch.Paced w.minDelay a

namespace Vouched

/-- **Every move of a living loop keeps the account right.** -/
theorem step (h : w.Vouched a) {m : Move} (hgoes : (w.step m).handsOut = true) :
    (w.step m).Vouched (a.add w.clock (w.passage m)) := by
  have hstep := step_dispatch h.roster h.wakeful hgoes
  exact {
    roster := step_sound h.roster m
    wakeful := step_wakeful h.wakeful m
    manned := h.manned.step hstep
    queued := h.queued.step h.manned hstep
    numbered := h.numbered.step hstep
    reserved := h.reserved.step h.queued h.numbered hstep
    paced := (minDelay_step w m).symm ▸ h.paced.step h.queued hstep }

theorem run (h : w.Vouched a) (halive : (w.run moves).handsOut = true) :
    (w.run moves).Vouched (w.accountFrom a moves) := by
  induction moves generalizing w a with
  | nil => exact h
  | cons m rest ih => exact ih (h.step (handsOut_of_run halive)) halive

end Vouched

lemma create_vouched (settings : Settings) (latency : Latency) (isDisabled : NodeId → Bool)
    {net : Network} (wall : Instant) (hidle : net.Idle) :
    (create settings latency isDisabled net wall).Vouched {} where
  roster := create_sound settings latency isDisabled wall hidle
  wakeful := create_wakeful settings latency isDisabled net wall
  manned := ⟨by simp [dispatch, create, isRunning], fun _ => rfl, rfl⟩
  queued := ⟨rfl, .nil, rfl⟩
  numbered := ⟨.nil, fun p hp => by cases hp⟩
  reserved id team := by
    have hnone : (create settings latency isDisabled net wall).loop.inFlight.get? id = none := rfl
    simp [dispatch, hnone, Account.unheard, Account.teams]
  paced := {
    handed_le := fun x hx => by cases hx
    tried_le := fun x hx => by cases hx
    apart := .nil
    late := fun k x t hx => by cases hx
    due := fun p due hpausing => by cases hpausing }

/-! ## A virtual clock -/

/-- The clock moves on only when there is nothing else to do. -/
def Prompt (w : World) : List Move → Prop
  | [] => True
  | m :: rest => (m.isPass = true → w.nextMove?.isNone = true) ∧ (w.step m).Prompt rest

instance decidablePrompt : (w : World) → (moves : List Move) → Decidable (w.Prompt moves)
  | _, [] => isTrue trivial
  | w, m :: rest =>
      have := decidablePrompt (w.step m) rest
      inferInstanceAs (Decidable ((m.isPass = true → w.nextMove?.isNone = true) ∧ (w.step m).Prompt rest))

/-- With nothing else to do the starter has no team to take: it holds one back, or none waits. -/
lemma starter_of_nextMove?_eq_none (hmanned : w.dispatch.Manned) (hroom : 0 < w.events.capacity)
    (hnone : w.nextMove? = none) : w.protos = [] ∨ ∃ p due, w.starter = .pausing p due := by
  cases hrunning : w.isRunning with
  | false => exact Or.inl (hmanned.before hrunning)
  | true =>
      have hstaffed : w.starter ≠ .absent := hmanned.staffed.1 hrunning
      rw [nextMove?] at hnone
      cases hsource : w.nextSource? with
      | some source => simp [hsource] at hnone
      | none =>
          simp only [hsource, Option.or_eq_none_iff] at hnone
          obtain ⟨hwaiting, hstart, -, -⟩ := hnone
          have hempty : w.events.queue = [] := by
            by_contra hsome
            simp only [nextSource?, hrunning] at hsource
            simp [hsome] at hsource
            split at hsource <;> cases hsource
          have hadmitted : w.events.admit? = none := by
            by_contra hsome
            rw [nextWaiting?, Option.isSome_iff_ne_none.2 hsome] at hwaiting
            split at hwaiting <;> cases hwaiting
          cases hstarter : w.starter with
          | absent => exact absurd hstarter hstaffed
          | pausing p due => exact Or.inr ⟨p, due, rfl⟩
          | idle =>
              refine Or.inl ?_
              by_contra hsome
              simp [nextStart?, hstarter, hsome] at hstart
          | reporting =>
              -- the starter is in line, and there is room
              have hline := hmanned.line
              have hreporting : w.dispatch.starter = .reporting := hstarter
              rw [if_pos hreporting] at hline
              cases hwaits : w.events.waiting with
              | nil => simp [dispatch, hwaits] at hline
              | cons first rest => simp [Channel.admit?, hwaits, hempty, hroom] at hadmitted

theorem onTime_step (h : w.Vouched a) (hon : w.dispatch.OnTime w.minDelay a)
    (hroom : 0 < w.events.capacity) {m : Move} (hgoes : (w.step m).handsOut = true)
    (hprompt : m.isPass = true → w.nextMove?.isNone = true) :
    (w.step m).dispatch.OnTime (w.step m).minDelay (a.add w.clock (w.passage m)) := by
  have hstep := step_dispatch h.roster h.wakeful hgoes
  rw [minDelay_step]
  refine hon.step h.manned h.queued h.paced hstep ?_
  cases hpass : m.isPass with
  | true =>
      have hnone : w.nextMove? = none := Option.isNone_iff_eq_none.1 (hprompt hpass)
      exact Or.inr (starter_of_nextMove?_eq_none h.manned hroom hnone)
  | false =>
      refine Or.inl ?_
      cases htime : m.isTime with
      | false => exact congrArg Conditions.clock (conditions_of_step htime)
      | true =>
          cases m with
          | wallPass nanos => rfl
          | pass ms => cases hpass
          | _ => cases htime

theorem onTime_run (h : w.Vouched a) (hon : w.dispatch.OnTime w.minDelay a)
    (hroom : 0 < w.events.capacity) (halive : (w.run moves).handsOut = true) (hprompt : w.Prompt moves) :
    (w.run moves).dispatch.OnTime (w.run moves).minDelay (w.accountFrom a moves) := by
  induction moves generalizing w a with
  | nil => exact hon
  | cons m rest ih =>
      have hgoes : (w.step m).handsOut = true := handsOut_of_run halive
      have hroom' : 0 < (w.step m).events.capacity := by
        have hcapacity := (step_dispatch h.roster h.wakeful hgoes).capacity
        simp only [dispatch] at hcapacity
        omega
      exact ih (h.step hgoes) (onTime_step h hon hroom hgoes hprompt.1) hroom' halive hprompt.2

lemma create_onTime (settings : Settings) (latency : Latency) (isDisabled : NodeId → Bool)
    (net : Network) (wall : Instant) :
    (create settings latency isDisabled net wall).dispatch.OnTime settings.minDelayMs.toNat {} where
  times := rfl
  held p due hpausing := by cases hpausing
  ready _ hsome := absurd rfl hsome

/-! ## What the loop makes of a report -/

/-- The node waits, is not banned, and holds no round. -/
def MayWait (w : World) (v : NodeId) : Prop := ∃ node, w.shared.net.nodes.get? v = some node ∧
  node.round = none ∧ node.status ≠ .banned ∧ node.activity = .waiting

lemma returns_iff {v : NodeId} : returns w.shared.net.nodes v = true ↔ w.MayWait v := by
  cases hnode : w.shared.net.nodes.get? v <;> simp [returns, MayWait, hnode, and_assoc]

/-- In the move the loop hears the report on this team, and when it has dealt with it the scheduler is
`w'`. -/
structure Releases (w : World) (m : Move) (e : Event) (p : ProtoRound) (w' : World) : Prop where
  report : e.ReportsOn p
  /-- The team is found in flight. -/
  found : w.loop.inFlight.get? p.id = some p.topology
  /-- Until now its members were reserved, and out of the pool. -/
  bound : ∀ v ∈ p.topology, v ∈ w.loop.reserved ∧ v ∉ w.shared.pool
  /-- It is not in flight any more, and the other teams are. -/
  inFlight : ∀ id, w'.loop.inFlight.get? id = if id = p.id then none else w.loop.inFlight.get? id
  /-- Its members are reserved no more, and the others are. -/
  reserved : ∀ v, v ∈ w'.loop.reserved ↔ v ∈ w.loop.reserved ∧ v ∉ p.topology
  /-- Online are those members of a team that was not started who may wait; -/
  back : ∀ v ∈ p.topology, v ∈ w'.shared.pool.online ↔ (∃ fault, e = .startFailed p fault) ∧ w.MayWait v
  /-- and who was online before. -/
  others : ∀ v ∉ p.topology, v ∈ w'.shared.pool.online ↔ v ∈ w.shared.pool.online
  /-- The move ends as every turn does. -/
  turn : ∃ chance, w.step m = w'.settleTurn chance
  /-- Whoever is online now is so at the end of the turn, or has been put on a new team. -/
  stays : (w.step m).handsOut = true → ∀ v, v ∈ w'.shared.pool.online ↔
    v ∈ (w.step m).shared.pool.online ∨ ∃ q ∈ (w.passage m).handed, v ∈ q.topology

lemma receive?_of_heard? {m : Move} {e : Event} (h : w.heard? m = some e) : ∃ chance ch,
    m = .iterate .events chance ∧ w.isRunning = true ∧ w.events.receive? = some (e, ch) := by
  cases m with
  | iterate source chance =>
      cases source with
      | events =>
          rw [heard?] at h
          split at h
          · obtain ⟨⟨e', ch⟩, hreceive, rfl⟩ := Option.map_eq_some_iff.1 h
            exact ⟨chance, ch, rfl, ‹_›, hreceive⟩
          · cases h
      | updates | requests => cases h
  | _ => cases h

/-- **A report is dealt with**: the reservation ends, and of a team that was not started go back who may. -/
lemma processEvent_of_reportsOn {e : Event} {p : ProtoRound} (he : e.ReportsOn p)
    (hfound : w.loop.inFlight.get? p.id = some p.topology) (hnodup : p.topology.Nodup)
    (hout : ∀ v ∈ p.topology, v ∉ w.shared.pool) :
    (∀ v, v ∈ (w.processEvent e).loop.reserved ↔ v ∈ w.loop.reserved ∧ v ∉ p.topology) ∧
      ∀ v, v ∈ (w.processEvent e).shared.pool.online ↔
        v ∈ w.shared.pool.online ∨ (∃ fault, e = .startFailed p fault) ∧ v ∈ p.topology ∧ w.MayWait v := by
  have hunreserved : w.unreserve p.id = { w with loop := { w.loop with
      inFlight := w.loop.inFlight.erase p.id
      reserved := w.loop.reserved.filter fun v => v ∉ p.topology } } := by
    simp only [unreserve, hfound]
  rcases he with rfl | ⟨fault, rfl⟩ <;> simp only [processEvent, hunreserved]
  · exact ⟨fun v => by simp [count], fun v => by simp [count]⟩
  · have hback := Pool.foldl_add_of_not_mem (hnodup.filter (returns w.shared.net.nodes))
      fun v hv => hout v (List.mem_filter.1 hv).1
    refine ⟨fun v => by simp [count, mapShared], fun v => ?_⟩
    simp only [count, mapShared, hback, List.mem_append, List.mem_filter, returns_iff]
    simp

/-- **Of which team the loop hears**: of the first of which it has not heard. -/
theorem Vouched.releases (h : w.Vouched a) {m : Move} {e : Event} (hheard : w.heard? m = some e)
    (hreport : e.isReport = true) : ∃ p rest w', a.unheard = p :: rest ∧ w.Releases m e p w' := by
  obtain ⟨chance, ch, rfl, hrunning, hreceive⟩ := receive?_of_heard? hheard
  have hnext : w.dispatch.reports = e :: ch.messages.filter Event.isReport := by
    simp [Dispatch.reports, dispatch, Channel.messages_receive? hreceive, hreport]
  obtain ⟨p, rest, hunheard, -, he⟩ := h.queued.first hnext
  have hfound : w.loop.inFlight.get? p.id = some p.topology :=
    (h.reserved p.id p.topology).2 ⟨p, by simp [hunheard], rfl, rfl⟩
  have hbound : ∀ v ∈ p.topology, v ∈ w.loop.reserved ∧ v ∉ w.shared.pool := by
    intro v hv
    have hreserved : v ∈ w.loop.reserved := (h.roster.reserved_iff v).2 ⟨p.id, p.topology, hfound, hv⟩
    exact ⟨hreserved, h.roster.not_mem_pool_of_reserved hreserved⟩
  have htake : w.take? .events = some (.event e, { w with events := ch }) := by simp [take?, hreceive]
  obtain ⟨hreserved, honline⟩ := processEvent_of_reportsOn (w := { w with events := ch }) he hfound
    (h.roster.flight_nodup _ _ hfound) fun v hv => (hbound v hv).2
  refine ⟨p, rest, ({ w with events := ch } : World).processEvent e, hunheard, {
    report := he
    found := hfound
    bound := hbound
    inFlight := fun id => ?_
    reserved := hreserved
    back := fun v hv => ?_
    others := fun v hv => ?_
    turn := ⟨chance, step_of_take? chance hrunning htake⟩
    stays := fun hgoes => (handedOver_of_take? h.roster hrunning htake hgoes).online }⟩
  · have hget := get?_inFlight_process { w with events := ch } (.event e) id
    simpa [process, Message.event?, he.reported?, eq_comm] using hget
  · have hout : v ∉ w.shared.pool.online := fun hin => (hbound v hv).2 (Or.inl hin)
    have hmay : ({ w with events := ch } : World).MayWait v ↔ w.MayWait v := Iff.rfl
    simp [honline, hout, hv, hmay]
  · simp [honline, hv]

/-! ## Every run -/

/-- In `w` the starter has answered for the teams that were handed to it, as far as it has come. -/
structure Answered (w : World) (a : Account) : Prop where
  /-- The teams that were handed over are those that were tried, in this order, and those still to come. -/
  order : a.teams = a.tried.map Prod.snd ++ w.pending
  /-- Each try was answered at once, by one report, and that was on its team. -/
  reports : List.Forall₂ (fun t r => r.1 = t.1 ∧ r.2.ReportsOn t.2) a.tried a.sent
  /-- The loop has heard the reports in this order, but for those on their way. -/
  heard : a.sent.map Prod.snd = a.heard.map Prod.snd ++ w.events.messages.filter Event.isReport
  increasing : a.teams.Pairwise fun p q => p.id.toNat < q.id.toNat
  started : ((a.sent.map Prod.snd).filterMap Event.started?).Pairwise fun i j => i.toNat < j.toNat
  /-- A try comes a pause after the one before, -/
  apart : a.tried.Pairwise fun s t => s.1 + w.minDelay ≤ t.1
  /-- and after its team was handed over. -/
  late : ∀ (k : Nat) (h t : Nat × ProtoRound), a.handed[k]? = some h → a.tried[k]? = some t →
    h.1 + w.minDelay ≤ t.1
  /-- In flight are the teams of which the loop has not heard, -/
  inFlight : ∀ id team, w.loop.inFlight.get? id = some team ↔
    ∃ p ∈ a.unheard, p.id = id ∧ p.topology = team
  /-- and their members are reserved. -/
  reserved : ∀ v, v ∈ w.loop.reserved ↔ ∃ p ∈ a.unheard, v ∈ p.topology

/-- Every team was tried at its time, and the time of those still to come is not past. -/
structure OnSchedule (w : World) (a : Account) : Prop where
  times : a.tried.map Prod.fst = (a.timetable w.minDelay).take a.tried.length
  waits : ∀ k due, a.tried.length ≤ k → (a.timetable w.minDelay)[k]? = some due → w.clock ≤ due

/-- The rounds that were started are among those that were reported on. -/
lemma started_sublist {tried : List (Nat × ProtoRound)} {sent : List (Nat × Event)}
    (h : List.Forall₂ (fun t r => r.1 = t.1 ∧ r.2.ReportsOn t.2) tried sent) :
    ((sent.map Prod.snd).filterMap Event.started?).Sublist (tried.map fun t => t.2.id) := by
  induction h with
  | nil => exact .refl _
  | @cons t r tried sent hreport _ ih =>
      obtain ⟨-, he⟩ := hreport
      rw [List.map_cons, List.map_cons]
      rcases he with he | ⟨fault, he⟩ <;> rw [he]
      · exact ih.cons_cons _
      · exact ih.cons _

lemma Vouched.answered (h : w.Vouched a) : w.Answered a where
  order := h.queued.teams
  reports := h.queued.reports
  heard := h.queued.heard
  increasing := h.numbered.increasing
  started := by
    have htried : (a.tried.map fun t => t.2.id).Pairwise fun i j => i.toNat < j.toNat := by
      have hsub : (a.tried.map Prod.snd).Sublist a.teams := by
        rw [h.queued.teams]
        exact List.sublist_append_left ..
      have hincreasing := h.numbered.increasing.sublist hsub
      rw [List.pairwise_map] at hincreasing ⊢
      exact hincreasing
    exact htried.sublist (started_sublist h.queued.reports)
  apart := h.paced.apart
  late := h.paced.late
  inFlight := h.reserved
  reserved v := by
    refine (h.roster.reserved_iff v).trans ?_
    constructor
    · rintro ⟨id, team, hteam, hv⟩
      obtain ⟨p, hp, -, rfl⟩ := (h.reserved id team).1 hteam
      exact ⟨p, hp, hv⟩
    · rintro ⟨p, hp, hv⟩
      exact ⟨p.id, p.topology, (h.reserved p.id p.topology).2 ⟨p, hp, rfl, rfl⟩, hv⟩

/-- **The starter answers for every team**, in every run after which the loop is alive.

* It tries the teams in the order in which they were handed to it, with the pauses that the settings give, and
  answers for each with one report; the loop hears the reports in this order.
* A report tells what came of the start.
* When the loop hears a report, that is on the first team of which it has not heard.  It finds the team in
  flight and ends its reservation; and of a team that was not started those members are back online that wait,
  are not banned, and hold no round.
* On a virtual clock each team is tried exactly at its time, and its time does not go by without that. -/
theorem answered_of_run (settings : Settings) (latency : Latency) (isDisabled : NodeId → Bool)
    {net : Network} (wall : Instant) (hidle : net.Idle) (moves : List Move)
    (halive : ((create settings latency isDisabled net wall).run moves).handsOut = true) :
    let start := create settings latency isDisabled net wall
    let w := start.run moves
    let a := start.account moves
    w.Answered a ∧
      (∀ m p, w.tried? m = some p → (w.passage m).sent = [w.reportOn p]) ∧
      (∀ m e, w.heard? m = some e → e.isReport = true →
        ∃ p rest w', a.unheard = p :: rest ∧ w.Releases m e p w') ∧
      (settings.validate = .ok () → start.Prompt moves → w.OnSchedule a) := by
  intro start w a
  have hstart := create_vouched settings latency isDisabled wall hidle
  have hvouched : w.Vouched a := hstart.run halive
  have hopen : w.events.closed = false := hvouched.wakeful.is_open halive
  refine ⟨hvouched.answered, fun m p => sent_of_tried? hvouched.roster hopen,
    fun m e => hvouched.releases, fun hvalid hprompt => ?_⟩
  have hroom : 0 < start.events.capacity := (Settings.buffers_pos_of_validate hvalid).2
  have hon := onTime_run hstart (create_onTime settings latency isDisabled net wall) hroom halive hprompt
  exact ⟨hon.times, fun k due => hon.clock_le hvouched.queued⟩

/-- Two nodes, each of them a team of its own, and half a second before each start. -/
def paced : World :=
  create { Settings.builtIn with teamSize := 1, poolThreshold := 0 } .builtIn (fun _ => false)
    (smallNetwork ["a", "b"]) ⟨0, 0⟩

/-- Both teams are handed over at once; the first is started, and the member of the second is banned while
the starter holds it back. -/
def oneBanned : List Move :=
  .launch :: reporting "a" .waiting ++ reporting "b" .waiting ++ [.takeProto, .pass 500] ++ kickoff ++
    [.takeProto, .ban 1 "b", .iterate .updates fun _ => .still, .pass 500, .attempt]

/-- The second team is tried half a second after the first, and when the loop hears of that, its member stays
away from the pool. -/
theorem answered_of_oneBanned :
    let w := paced.run oneBanned
    let a := paced.account oneBanned
    let hears : Move := .iterate .events fun _ => .still
    let p : ProtoRound := ⟨⟨2⟩, ["b"], 32, 60000, 15000⟩
    (smallNetwork ["a", "b"]).Idle ∧ w.handsOut = true ∧ paced.settings.validate = .ok () ∧
      paced.Prompt oneBanned ∧ w.Answered a ∧ w.OnSchedule a ∧
      a.handed.map Prod.fst = [0, 0] ∧ a.tried.map Prod.fst = [500, 1000] ∧
      a.heard = [(500, .started ⟨1⟩)] ∧ a.unheard = [p] ∧
      w.heard? hears = some (.startFailed p (.banned "b")) ∧
      ∃ w', w.Releases hears (.startFailed p (.banned "b")) p w' ∧ "b" ∉ w'.shared.pool.online := by
  intro w a hears p
  have halive : w.handsOut = true := by decide +kernel
  have hvalid : paced.settings.validate = .ok () := by decide +kernel
  have hprompt : paced.Prompt oneBanned := by decide +kernel
  have hunheard : a.unheard = [p] := by decide +kernel
  have hheard : w.heard? hears = some (.startFailed p (.banned "b")) := by decide +kernel
  have hbanned : (w.shared.net.nodes.get? "b").map Node.status = some .banned := by decide +kernel
  obtain ⟨hanswered, -, hreleases, hschedule⟩ := answered_of_run _ _ _ _ (idle_smallNetwork ["a", "b"])
    oneBanned halive
  obtain ⟨q, rest, w', hfirst, hq⟩ : ∃ q rest w', a.unheard = q :: rest ∧
      w.Releases hears (.startFailed p (.banned "b")) q w' := hreleases hears _ hheard rfl
  obtain ⟨rfl, -⟩ : p = q ∧ [] = rest := List.cons.inj (hunheard.symm.trans hfirst)
  refine ⟨idle_smallNetwork _, halive, hvalid, hprompt, hanswered, hschedule hvalid hprompt,
    by decide +kernel, by decide +kernel, by decide +kernel, hunheard, hheard, w', hq, ?_⟩
  intro honline
  obtain ⟨-, node, hnode, -, hstatus, -⟩ := (hq.back "b" List.mem_cons_self).1 honline
  rw [hnode] at hbanned
  exact hstatus (Option.some.inj hbanned)

end World

end MixRounds.Live
