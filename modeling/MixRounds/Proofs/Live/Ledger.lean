import MixRounds.Proofs.Live.Delivery

/-!
# What a move does to the rounds

`Ledger` is what there is to know about rounds at one moment: every round that was allocated, and who
holds which.  Of everything that can happen to a scheduler only three things touch it
(**`World.ledger_of_delivered`**, **`World.ledger_of_not_delivered`**):

* a start adds a round with nobody counted, and gives it to its team (`Ledger.start`);
* a timer fails a round, and parts nobody from it (`Ledger.fail`);
* a notification that is applied changes the round that its node holds, and may part the two
  (`Ledger.apply`).

The order of the moves, and everything else a scheduler is made of, plays no part any more.
-/

namespace MixRounds.Live

/-- The rounds at one moment, and who holds which. -/
@[ext]
structure Ledger where
  rounds : RoundId → Option Round
  holding : NodeId → Option RoundId

namespace Ledger

/-- The round `r` is there, and the team `p` holds it. -/
def start (l : Ledger) (p : ProtoRound) (r : Round) : Ledger where
  rounds j := if j = p.id then some r else l.rounds j
  holding v := if v ∈ p.topology then some p.id else l.holding v

/-- The round ran out of time. -/
def fail (l : Ledger) (now : Instant) (id : RoundId) : Ledger where
  rounds j := if j = id then (l.rounds j).map fun r => (r.fail now).2 else l.rounds j
  holding := l.holding

/-- A notification of kind `k` about the node `v` was applied. -/
def apply (l : Ledger) (settings : Settings) (now : Instant) (v : NodeId) (k : Kind) : Ledger where
  rounds j :=
    if l.holding v = some j then (l.rounds j).map fun r => k.effect settings now j r else l.rounds j
  holding j := if j = v ∧ k.detaches = true then none else l.holding j

end Ledger

namespace World

/-- The rounds of a scheduler, and who holds which. -/
def ledger (w : World) : Ledger := ⟨w.shared.net.rounds.get?, w.shared.net.holding⟩

variable {w : World}

/-! ## What does not touch the ledger -/

lemma ledger_eq {w' : World} (hrounds : w'.shared.net.rounds = w.shared.net.rounds)
    (hholding : w'.shared.net.holding = w.shared.net.holding) : w'.ledger = w.ledger := by
  simp only [ledger, hrounds, hholding]

lemma ledger_of_roster {w' : World} (hrounds : w'.shared.net.rounds = w.shared.net.rounds)
    (hroster : w'.roster = { w.roster with pool := w'.roster.pool }) : w'.ledger = w.ledger := by
  refine ledger_eq hrounds ?_
  have hholding : w'.roster.holding = w.roster.holding := by rw [hroster]
  exact hholding

@[simp] lemma rounds_bringOnline (w : World) (v : NodeId) :
    (w.bringOnline v).shared.net.rounds = w.shared.net.rounds := by
  rw [bringOnline_eq]
  rfl

@[simp] lemma rounds_enqueue (w : World) (who : Notifier) (n : Notification) (sent : Outcome) :
    (w.enqueue who n sent).shared.net.rounds = w.shared.net.rounds := by
  rw [enqueue]
  split <;> rfl

lemma ledger_poll (w : World) (call : CallId) (v : NodeId) (a : Activity) :
    (w.poll call v a).ledger = w.ledger := by
  refine ledger_of_roster ?_ ?_
  · rw [poll]
    split
    · rfl
    · split
      · rfl
      · split
        · rfl
        · exact rounds_bringOnline _ _
        · exact (rounds_enqueue _ _ _ _).trans (rounds_bringOnline _ _)
  · rcases roster_poll w call v a with heq | ⟨-, heq⟩ <;> rw [heq]

lemma ledger_ban (w : World) (call : CallId) (v : NodeId) : (w.ban call v).ledger = w.ledger := by
  refine ledger_of_roster ?_ (by rw [roster_ban])
  rw [ban]
  split
  · rfl
  · split
    · exact rounds_enqueue _ _ _ _
    · rfl

lemma ledger_resumeBan (w : World) (call : CallId) : (w.resumeBan call).ledger = w.ledger := by
  refine ledger_of_roster ?_ (by rw [roster_resumeBan])
  rw [resumeBan]
  split
  · rfl
  · split
    · rfl
    · split
      · exact rounds_enqueue _ _ _ _
      · rfl

lemma ledger_sweepNow (h : w.roster.Sound) : w.sweepNow.ledger = w.ledger :=
  ledger_eq rfl (holding_sweepNow h)

lemma ledger_closeQueues (w : World) : w.closeQueues.ledger = w.ledger := by
  have hrounds : w.closeQueues.shared.net.rounds = w.shared.net.rounds :=
    read_closeQueues (fun w => w.shared.net.rounds) (fun _ _ => rfl) (fun _ _ => rfl) (fun _ => rfl) w
  have hholding : w.closeQueues.roster.holding = w.roster.holding := by rw [roster_closeQueues]
  exact ledger_eq hrounds hholding

lemma ledger_drop (w : World) : w.drop.ledger = w.ledger := by
  rw [drop]
  split
  · exact ledger_closeQueues w
  · exact ledger_closeQueues w
  · rfl

/-! ## The turn -/

lemma ledger_finish (w : World) (result : Except Setback Unit) : (w.finish result).ledger = w.ledger :=
  (ledger_closeQueues w : (w.closeQueues).ledger = w.ledger)

lemma ledger_settleTurn (w : World) (chance : Nat → Shuffle) :
    (w.settleTurn chance).ledger = w.ledger := by
  obtain ⟨hnodes, hrounds, -, -⟩ := assembleFrom_frame (w.shared.pool.online.length + 1) chance w
  have hassembled : (w.assemble chance).1.ledger = w.ledger :=
    ledger_eq hrounds (Network.holding_congr hnodes)
  have hacknowledged : ∀ w : World, w.acknowledge.ledger = w.ledger := fun w => by
    simp only [ledger, shared_acknowledge]
  exact read_settleTurn ledger hassembled hacknowledged ledger_finish

/-- **A notification** changes the round that its node holds, and may part the two. -/
lemma ledger_processUpdate (hr : w.roster.Sound) (n : Notification) :
    (w.processUpdate n).ledger
      = w.ledger.apply w.settings w.wall n.node (w.shared.kindOf n) := by
  have happlied := applied_takenOver hr n
  let s := ((w.takenOver n).shared.apply w.settings w.wall w.clock w.loop.reserved n).1
  have hledger : (({ w with shared := s } : World).mapNode n.node Node.release).ledger
      = w.ledger.apply w.settings w.wall n.node (w.shared.kindOf n) := by
    have hreleased := congrArg Roster.holding
      (roster_release ({ w with shared := s } : World) n.node)
    ext1
    · funext j
      exact (happlied.rounds j).trans (by rw [holding_takenOver]; rfl)
    · refine hreleased.trans ((holding_of_applied happlied).trans ?_)
      rw [holding_takenOver]
      rfl
  rw [← hledger]
  rw [processUpdate]
  dsimp only
  split <;> rfl

lemma ledger_processEvent (w : World) (e : Event) :
    (w.processEvent e).ledger = w.ledger ∨
      ∃ id, (w.processEvent e).ledger = w.ledger.fail w.wall id := by
  cases e with
  | timedOut id phase =>
      dsimp only [processEvent]
      obtain ⟨s, f, heq, rfl | ⟨cause, rfl⟩⟩ := processTimeout_cases w id phase <;> rw [heq]
      · exact Or.inl rfl
      · refine Or.inr ⟨id, ?_⟩
        ext1
        · funext j
          exact w.shared.kill_get?_rounds w.wall id cause none j
        · exact Network.holding_congr (w.shared.kill_nodes w.wall id cause none)
  | started id | startFailed p fault =>
      refine Or.inl ?_
      dsimp only [processEvent, unreserve]
      split <;> rfl
  | finished id => exact Or.inl rfl

/-! ## The start -/

lemma ledger_report (w : World) (e : Event) : (w.report e).ledger = w.ledger := by
  rw [report]
  split <;> rfl

/-- **A start** adds a round and gives it to its team, or is refused and changes nothing. -/
lemma ledger_attempt (hr : w.roster.Sound) :
    w.attempt.ledger = w.ledger ∨ ∃ p ∈ w.pending, ∃ r : Round,
      r.topology = p.topology ∧ r.phase = .precomputing ∧ r.ready = 0 ∧
        w.attempt.ledger = w.ledger.start p r := by
  rw [attempt]
  split
  · rename_i p due hstarter
    have hp : p ∈ w.pending := by simp [pending, hstarter]
    split
    · exact Or.inl rfl
    · rcases start_pending hr hp w.wall w.clock with ⟨v, -, hstart⟩ | ⟨s', hstart, hstarted⟩
      · simp only [hstart]
        rw [ledger_report]
        exact Or.inl rfl
      · simp only [hstart]
        rw [ledger_report]
        obtain ⟨r, htopology, hphase, hready, hrounds⟩ := hstarted.rounds
        refine Or.inr ⟨p, hp, r, htopology, hphase, hready, ?_⟩
        have hroster := roster_started w
          (fun v hv => (free_of_pending hr hp v hv).imp fun _ => And.left) hstarted
        ext1
        · funext j
          exact hrounds j
        · have hholding := congrArg Roster.holding hroster
          exact hholding
  · exact Or.inl rfl

/-! ## Every move -/

/-- **A move that applies a notification** changes the ledger as the kind of the notification says. -/
theorem ledger_of_delivered (hr : w.roster.Sound) {m : Move} {n : Notification}
    (hn : w.delivered? m = some n) : (w.step m).ledger
      = w.ledger.apply w.settings w.wall n.node (w.shared.kindOf n) := by
  obtain ⟨ch, chance, -, -, hstep⟩ := step_of_delivered hn
  rw [hstep, ledger_settleTurn]
  exact ledger_processUpdate (w := { w with updates := ch }) hr n

/-- **Every other move** leaves the ledger alone, fails a round, or starts one. -/
theorem ledger_of_not_delivered (hr : w.roster.Sound) {m : Move} (hnone : w.delivered? m = none) :
    (w.step m).ledger = w.ledger ∨ (∃ id, (w.step m).ledger = w.ledger.fail w.wall id) ∨
      ∃ p ∈ w.pending, ∃ r : Round, r.topology = p.topology ∧ r.phase = .precomputing ∧
        r.ready = 0 ∧ (w.step m).ledger = w.ledger.start p r := by
  cases m with
  | iterate source chance =>
      dsimp only [step, iterate]
      split
      · rename_i hrunning
        cases source with
        | updates =>
            have hreceive : w.updates.receive? = none := by
              simpa [delivered?, hrunning] using hnone
            exact Or.inl (by simp [take?, hreceive])
        | events =>
            cases hreceive : w.events.receive? with
            | none => exact Or.inl (by simp [take?, hreceive])
            | some m =>
                simp only [take?, hreceive, Option.map_some]
                rw [ledger_settleTurn]
                rcases ledger_processEvent ({ w with events := m.2 }) m.1 with heq | ⟨id, heq⟩
                · exact Or.inl heq
                · exact Or.inr (Or.inl ⟨id, heq⟩)
        | requests =>
            cases hreceive : w.requests.receive? with
            | none => exact Or.inl (by simp [take?, hreceive])
            | some m =>
                simp only [take?, hreceive, Option.map_some]
                rw [ledger_settleTurn]
                cases m.1 <;> exact Or.inl rfl
      · exact Or.inl rfl
  | attempt => exact (ledger_attempt hr).imp id Or.inr
  | poll call v a => exact Or.inl (ledger_poll w call v a)
  | ban call v => exact Or.inl (ledger_ban w call v)
  | resumeBan call => exact Or.inl (ledger_resumeBan w call)
  | drop => exact Or.inl (ledger_drop w)
  | sweep =>
      refine Or.inl ?_
      dsimp only [step, sweep]
      split
      · rfl
      · split
        · rfl
        · exact ledger_sweepNow hr
  | wallPass nanos => exact Or.inl rfl
  | request r =>
      refine Or.inl ?_
      dsimp only [step, request]
      split <;> rfl
  | admitUpdate =>
      refine Or.inl ?_
      dsimp only [step, admitUpdate]
      split <;> rfl
  | admitEvent =>
      refine Or.inl ?_
      dsimp only [step, admitEvent]
      split <;> rfl
  | admitRequest =>
      refine Or.inl ?_
      dsimp only [step, admitRequest]
      split <;> rfl
  | takeProto =>
      refine Or.inl ?_
      dsimp only [step, takeProto]
      split
      · rfl
      · split <;> rfl
      · rfl
  | conclude =>
      refine Or.inl ?_
      dsimp only [step, conclude]
      split <;> rfl
  | launch =>
      refine Or.inl ?_
      dsimp only [step, launch]
      split <;> rfl
  | leave watcher =>
      refine Or.inl ?_
      dsimp only [step, leave]
      split
      · split <;> rfl
      · rfl
  | expire watcher =>
      refine Or.inl ?_
      dsimp only [step, expire]
      split <;> rfl
  | pass ms =>
      refine Or.inl ?_
      dsimp only [step, pass]
      split <;> rfl

end World

end MixRounds.Live
