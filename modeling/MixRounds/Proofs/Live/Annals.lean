import MixRounds.Proofs.Live.Apply
import MixRounds.Proofs.Live.Start

/-!
# The annals of the rounds

What became of a round is told twice: the round itself is in a phase, and the log holds what was published
about it.  `Annals` is these two side by side, the rounds, the broadcasts and the records of failures, and
`Annals.Step` lists everything that one move can do to them.  A round is never put into a new phase without
a broadcast, and it fails only together with a record; a member that is counted ready is the only change of
which nobody is told.

A step is labelled with what strikes a round in it, which is the record that is written if the round fails
by it.  A round that has failed may be struck again, and nothing happens.

The steps are found here in the three things that write to rounds and log: failing a round
(`Shared.step_annals_kill`), applying a notification (`Shared.step_annals_apply`), and a start
(`Shared.step_annals_start`).
-/

namespace MixRounds

/-- A step of the life cycle leads to another phase. -/
lemma Phase.ne_of_mayAdvance {p q : Phase} (h : p.mayAdvance q = true) : q ≠ p := by
  rintro rfl
  cases q <;> cases h

namespace Network

/-- Nothing was allocated and nothing was published yet. -/
structure Fresh (net : Network) : Prop where
  idle : net.Idle
  log : net.log = .empty

lemma fresh_empty (key : SigningKey) (first : RoundId) : (empty key first).Fresh :=
  ⟨idle_empty key first, rfl⟩

lemma Fresh.register {net : Network} (h : net.Fresh) (v : NodeId) (region : String) (status : Status)
    (now : Instant) : (net.register v region status now).Fresh := by
  refine ⟨h.idle.register v region status now, ?_⟩
  rw [Network.register]
  split <;> exact h.log

end Network

namespace Live

/-- The rounds, and what was published about them. -/
@[ext]
structure Annals where
  rounds : RoundId → Option Round
  updates : List RoundInfo
  errors : List RoundError

namespace Annals

/-- A round is in a new state. -/
def set (a : Annals) (id : RoundId) (r : Round) : Annals :=
  { a with rounds := fun j => if j = id then some r else a.rounds j }

/-- The state of a round is broadcast, and the broadcast has the next number. -/
def publish (a : Annals) (id : RoundId) (r : Round) : Annals :=
  { a with updates := a.updates ++
      [{ r.info id with updateId := UInt64.ofNat (a.updates.length + 1) }] }

/-- A failure is put on record. -/
def record (a : Annals) (e : RoundError) : Annals := { a with errors := a.errors ++ [e] }

/-- A round is in a new state, and that is broadcast. -/
def announce (a : Annals) (id : RoundId) (r : Round) : Annals := (a.set id r).publish id r

/-- A state that is written again changes nothing. -/
lemma set_self {a : Annals} {id : RoundId} {r : Round} (h : a.rounds id = some r) : a.set id r = a := by
  ext1
  · funext j
    by_cases hj : j = id <;> simp [set, hj, h]
  · rfl
  · rfl

/-- What one move can do, labelled with what struck a round in it. -/
inductive Step (a : Annals) : Option RoundError → Annals → Prop
  | still : Step a none a
  | start {id : RoundId} {r : Round} (hnew : a.rounds id = none) (hphase : r.phase = .precomputing)
      (hstamps : r.stamps.phases = [.pending, .precomputing]) : Step a none (a.announce id r)
  | count {id : RoundId} {r : Round} (n : Nat) (hround : a.rounds id = some r) :
      Step a none (a.set id { r with ready := n })
  | advance {id : RoundId} {r : Round} {next : Phase} (stamp : Instant) (hround : a.rounds id = some r)
      (hmay : r.phase.mayAdvance next = true) (hnext : next ≠ .failed) :
      Step a none
        (a.announce id { r with phase := next, ready := 0, stamps := r.stamps.insert next stamp })
  | fail {r : Round} {e : RoundError} (hround : a.rounds e.round = some r)
      (hlive : r.phase.isTerminal = false) :
      Step a (some e) ((a.record e).announce e.round
        { r with phase := .failed, stamps := r.stamps.insert .failed e.time })
  | again {r : Round} {e : RoundError} (hround : a.rounds e.round = some r)
      (hfailed : r.phase = .failed) : Step a (some e) a

end Annals

end Live

/-! ## The network -/

namespace Network

/-- The annals that a network keeps. -/
def annals (net : Network) : Live.Annals where
  rounds := net.rounds.get?
  updates := net.log.updates.map Signed.payload
  errors := net.log.errors.map Signed.payload

variable {net : Network}

@[simp] lemma annals_mapNode (v : NodeId) (f : Node → Node) : (net.mapNode v f).annals = net.annals := rfl

lemma annals_setRound {id : RoundId} {r₀ : Round} (hround : net.rounds.get? id = some r₀) (r : Round) :
    (net.setRound id r).annals = net.annals.set id r := by
  ext1
  · funext j
    simp only [annals, Live.Annals.set, get?_setRound]
    split
    · rename_i hj
      simp [hj, hround]
    · rfl
  · rfl
  · rfl

lemma annals_publish (id : RoundId) (r : Round) :
    (net.publish id r).annals = net.annals.publish id r := by
  simp [annals, Live.Annals.publish, publish, UpdateLog.push, Signed.sign]

lemma annals_publishError (id : RoundId) (node : Option NodeId) (cause : Cause) (now : Instant) :
    (net.publishError id node cause now).annals = net.annals.record ⟨id, node, cause, now⟩ := by
  simp [annals, Live.Annals.record, publishError, UpdateLog.pushError, Signed.sign]

lemma annals_announce {id : RoundId} {r₀ : Round} (hround : net.rounds.get? id = some r₀) (r : Round) :
    ((net.setRound id r).publish id r).annals = net.annals.announce id r := by
  rw [annals_publish, annals_setRound hround]
  rfl

end Network

/-- The grounds on which a notification ends the round of its node: the node is banned now, or it reports an
error. -/
def Notification.grounds? (n : Notification) : Option Cause :=
  if n.toStatus = .banned then
    if n.fromStatus = .banned then none else some .nodeBanned
  else if n.toActivity = .error then some .nodeError
  else none

namespace Live

namespace Shared

variable {s : Shared}

/-- The annals that the loop and its workers keep. -/
def annals (s : Shared) : Annals := s.net.annals

@[simp] lemma annals_mapNode (s : Shared) (v : NodeId) (f : Node → Node) :
    (s.mapNode v f).annals = s.annals := rfl

/-! ## A round is failed -/

/-- A round that has not come to its end is failed with a record and a broadcast. -/
lemma annals_kill_of_live (now : Instant) {id : RoundId} (node : Option NodeId) (cause : Cause) {r : Round}
    (hround : s.net.rounds.get? id = some r) (hlive : r.phase.isTerminal = false) :
    (s.kill now id node cause).1.annals
      = (s.annals.record ⟨id, node, cause, now⟩).announce id (r.fail now).2 := by
  have hthere : ∀ net : Network, net.rounds = s.net.rounds → net.log = s.net.log →
      (((net.setRound id (r.fail now).2).publishError id node cause now).publish id (r.fail now).2).annals
        = (s.annals.record ⟨id, node, cause, now⟩).announce id (r.fail now).2 := by
    intro net hrounds hlog
    have hget : net.rounds.get? id = some r := hrounds ▸ hround
    have hannals : net.annals = s.annals := by simp only [Network.annals, annals, hrounds, hlog]
    rw [Network.annals_publish, Network.annals_publishError, Network.annals_setRound hget, hannals]
    rfl
  have hfirst : r.fail now = (true, (r.fail now).2) := by
    rw [Round.fail, if_neg (by simp [hlive])]
  cases node <;> simp only [kill, mapNode, Network.mapNode_rounds, hround]
  · rw [hfirst]
    exact hthere _ rfl rfl
  · rw [hfirst]
    exact hthere _ rfl rfl

/-- A round that has come to its end is left as it is. -/
lemma annals_kill_of_terminal (now : Instant) {id : RoundId} (node : Option NodeId) (cause : Cause)
    {r : Round} (hround : s.net.rounds.get? id = some r) (hterminal : r.phase.isTerminal = true) :
    (s.kill now id node cause).1.annals = s.annals := by
  cases node <;> simp [kill, mapNode, hround, Round.fail, hterminal, annals]

/-- **A round is failed** with a record and a broadcast, or it has failed already. -/
lemma step_annals_kill (now : Instant) {id : RoundId} (node : Option NodeId) (cause : Cause) {r : Round}
    (hround : s.net.rounds.get? id = some r) (hcompleted : r.phase ≠ .completed) :
    Annals.Step s.annals (some ⟨id, node, cause, now⟩) (s.kill now id node cause).1.annals := by
  cases hterminal : r.phase.isTerminal with
  | true =>
      have hfailed : r.phase = .failed := by
        cases hp : r.phase <;> simp_all [Phase.isTerminal]
      rw [annals_kill_of_terminal now node cause hround hterminal]
      exact .again (e := ⟨id, node, cause, now⟩) hround hfailed
  | false =>
      rw [annals_kill_of_live now node cause hround hterminal, Round.fail, if_neg (by simp [hterminal])]
      exact .fail (e := ⟨id, node, cause, now⟩) hround hterminal

lemma step_annals_killHeld (now : Instant) (v : NodeId) {held : Option RoundId} (cause : Cause)
    (hheld : ∀ id, held = some id → ∃ r, s.net.rounds.get? id = some r ∧ r.phase ≠ .completed) :
    Annals.Step s.annals (held.map fun id => ⟨id, some v, cause, now⟩)
      (s.killHeld now v held cause).1.annals := by
  cases held with
  | none => exact .still
  | some id =>
      obtain ⟨r, hround, hcompleted⟩ := hheld id rfl
      have hkill := step_annals_kill now (some v) cause hround hcompleted
      dsimp only [killHeld, Option.map_some]
      split <;> rename_i heq <;> rw [heq] at hkill <;> exact hkill

/-! ## A notification -/

/-- **A count in the annals**: the round is what it has been tallied to, and if it has moved, that is
broadcast. -/
lemma annals_countAndAdvance {id : RoundId} {r : Round} (hround : s.net.rounds.get? id = some r)
    (next : Phase) (stamp : Instant) {after : Shared → Shared}
    (hafter : ∀ t : Shared, (after t).net = t.net) :
    (s.countAndAdvance id r next stamp after).1.annals =
      if (r.tallied id next stamp).phase = r.phase then s.annals.set id (r.tallied id next stamp)
      else s.annals.announce id (r.tallied id next stamp) := by
  rw [countAndAdvance, Round.tallied]
  cases hcount : r.countReady id with
  | error fault => exact (Annals.set_self hround).symm.trans (if_pos rfl).symm
  | ok result =>
      obtain ⟨counted, complete⟩ := result
      have hcounted : counted.phase = r.phase := by
        rw [Round.countReady] at hcount
        split at hcount <;> cases hcount
        rfl
      have hset : (s.net.setRound id counted).annals = s.annals.set id counted :=
        Network.annals_setRound hround counted
      cases complete with
      | false => exact hset.trans (if_pos hcounted).symm
      | true =>
          simp only [Bool.not_true, Bool.false_eq_true, if_false]
          cases hadvance : counted.advance id next stamp with
          | error fault => exact hset.trans (if_pos hcounted).symm
          | ok moved =>
              have hmoved : moved.phase ≠ r.phase := by
                rw [Round.advance] at hadvance
                split at hadvance
                · rename_i hmay
                  cases hadvance
                  rw [← hcounted]
                  exact Phase.ne_of_mayAdvance hmay
                · cases hadvance
              -- the state in which the last member was counted is seen by nobody
              have hthere : (s.net.setRound id counted).rounds.get? id = some counted := by
                simp [Network.get?_setRound, hround]
              dsimp only [annals]
              rw [hafter, Network.annals_announce hthere, hset, if_neg hmoved]
              ext1
              · funext j
                dsimp only [Annals.announce, Annals.publish, Annals.set]
                split <;> rfl
              · rfl
              · rfl

/-- **A member is counted** in silence, or the round moves on and that is broadcast. -/
lemma step_annals_countAndAdvance {id : RoundId} {r : Round} (hround : s.net.rounds.get? id = some r)
    {next : Phase} (hnext : next ≠ .failed) (stamp : Instant) {after : Shared → Shared}
    (hafter : ∀ t : Shared, (after t).net = t.net) :
    Annals.Step s.annals none (s.countAndAdvance id r next stamp after).1.annals := by
  rw [annals_countAndAdvance hround next stamp hafter]
  rcases r.tallied_cases id next stamp with ⟨-, h⟩ | ⟨-, -, h⟩ | ⟨-, hmay, h⟩
  · rw [h, if_pos rfl, Annals.set_self hround]
    exact .still
  · rw [h, if_pos rfl]
    exact .count _ hround
  · rw [h, if_neg (Phase.ne_of_mayAdvance hmay)]
    exact .advance stamp hround hmay hnext

/-- **The kind of a notification** says on what grounds it ends a round. -/
lemma grounds?_eq (n : Notification) (phase : Option Phase) : n.grounds? = match classify n phase with
    | .ban => some .nodeBanned
    | .activity .error => some .nodeError
    | _ => none := by
  simp only [Notification.grounds?, classify]
  by_cases hstatus : n.toStatus = .banned
  · by_cases hbefore : n.fromStatus = .banned <;> simp [hstatus, hbefore]
  · by_cases herror : n.toActivity = .error
    · simp [hstatus, herror]
    · by_cases hfailed : phase = some .failed
      · simp [hstatus, herror, hfailed]
      · cases hactivity : n.toActivity <;> simp_all

/-- What strikes a round in a notification: its node holds it, and there are grounds to end it. -/
def strike? (s : Shared) (now : Instant) (n : Notification) : Option RoundError :=
  (s.net.holding n.node).bind fun id => n.grounds?.map fun cause => ⟨id, some n.node, cause, now⟩

section Apply

variable {settings : Settings} {now : Instant} {clock : Nat} {reserved : List NodeId}
  {n : Notification}

lemma step_annals_applyActivity {v : NodeId} {held : Option (RoundId × Round)} (node : Node)
    (hheld : s.Holds v held) {a : Activity} (ha : a ≠ .error) : Annals.Step s.annals none
      (s.applyActivity settings now clock reserved v node held a).1.annals := by
  cases a with
  | notStarted | precomputing | realtime => exact .still
  | error => exact absurd rfl ha
  | waiting =>
      dsimp only [applyActivity]
      split
      · exact .still
      · split <;> exact .still
  | standby =>
      cases held with
      | none => exact .still
      | some held => exact step_annals_countAndAdvance hheld.2 (by simp) _ fun _ => rfl
  | completed =>
      cases held with
      | none => exact .still
      | some held =>
          exact step_annals_countAndAdvance (s := s.mapNode v Node.detach) hheld.2 (by simp) _
            fun _ => rfl

/-- **A notification** moves its node's round or counts the node, or strikes the round, or does nothing
to it. -/
lemma step_annals_apply (hheld : ∀ id, s.net.holding n.node = some id →
      ∃ r, s.net.rounds.get? id = some r ∧ r.phase ≠ .completed) :
    Annals.Step s.annals (s.strike? now n)
      (s.apply settings now clock reserved n).1.annals := by
  obtain ⟨held, hholds⟩ := exists_holds fun id hid => (hheld id hid).imp fun _ => And.left
  cases hnode : s.net.nodes.get? n.node with
  | none =>
      have hfree : s.net.holding n.node = none := by simp [Network.holding, hnode]
      simp only [apply, hnode, strike?, hfree]
      exact .still
  | some node =>
      have hgrounds : n.grounds? = match s.kindOf n with
          | .ban => some .nodeBanned
          | .activity .error => some .nodeError
          | _ => none := grounds?_eq n _
      -- without grounds nothing strikes
      have hnone : n.grounds? = none → s.strike? now n = none := by
        intro h
        cases hholding : s.net.holding n.node <;> simp [strike?, h, hholding]
      rw [apply_eq hnode hholds]
      cases hk : s.kindOf n with
      | alreadyBanned | staleAfterFailure =>
          rw [hk] at hgrounds
          rw [hnone hgrounds]
          exact .still
      | ban =>
          rw [hk] at hgrounds
          have hstrike : s.strike? now n
              = (s.net.holding n.node).map fun id => ⟨id, some n.node, .nodeBanned, now⟩ := by
            cases hholding : s.net.holding n.node <;> simp [strike?, hgrounds, hholding]
          rw [hstrike]
          exact step_annals_killHeld (s := { s with pool := (s.pool.remove n.node).2 }) now n.node
            .nodeBanned hheld
      | activity a =>
          by_cases ha : a = .error
          · subst ha
            rw [hk] at hgrounds
            have hid : held.map Prod.fst = s.net.holding n.node := by
              cases held with
              | none => exact hholds.symm
              | some held => exact hholds.1.symm
            have hstrike : s.strike? now n
                = (held.map Prod.fst).map fun id => ⟨id, some n.node, .nodeError, now⟩ := by
              rw [hid]
              cases hholding : s.net.holding n.node <;> simp [strike?, hgrounds, hholding]
            rw [hstrike]
            exact step_annals_killHeld now n.node .nodeError fun id h => hheld id (hid ▸ h)
          · rw [hk] at hgrounds
            rw [hnone (by cases a <;> first | exact hgrounds | exact absurd rfl ha)]
            exact step_annals_applyActivity node hholds ha

end Apply

/-! ## A start -/

/-- **A start that succeeds** puts a round in its first phase under a free number, and that is
broadcast. -/
lemma step_annals_start {s s' : Shared} {clock : Nat} {p : ProtoRound} {now : Instant}
    (hstart : s.start now clock p = (s', .ok ())) : Annals.Step s.annals none s'.annals := by
  simp only [start] at hstart
  split at hstart
  · cases hstart
  split at hstart
  · cases hstart
  rename_i net hadd
  split at hstart
  · cases hstart
  rename_i round hadvance
  split at hstart
  · cases hstart
  rename_i nodes hattach
  obtain rfl := (Prod.mk.inj hstart).1
  rw [Network.addRound] at hadd
  split at hadd
  · cases hadd
  rename_i hfree
  cases hadd
  have hnew : s.net.rounds.get? p.id = none := by
    simpa [Table.contains, Option.isSome_iff_ne_none] using hfree
  have hround : round.phase = .precomputing ∧ round.stamps.phases = [.pending, .precomputing] := by
    rw [Round.advance] at hadvance
    split at hadvance <;> cases hadvance
    exact ⟨rfl, rfl⟩
  have hannals : (({ s.net with
        nodes := nodes
        rounds := (s.net.rounds.insert p.id (Round.allocate p.topology p.batch now)).modify p.id
          fun _ => round } : Network).publish p.id round).annals = s.annals.announce p.id round := by
    rw [Network.annals_publish]
    ext1
    · funext j
      simp only [Network.annals, annals, Annals.announce, Annals.publish, Annals.set, Table.get?_modify,
        Table.get?_insert]
      split <;> rfl
    · rfl
    · rfl
  have hstep : Annals.Step s.annals none (s.annals.announce p.id round) := .start hnew hround.1 hround.2
  rw [← hannals] at hstep
  exact hstep

end Shared

end Live

end MixRounds
