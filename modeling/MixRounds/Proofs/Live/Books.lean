import MixRounds.Proofs.Live.Annals
import MixRounds.Proofs.Table

/-!
# The books

How many rounds there are, how many of them are completed and how many have failed, and for what causes: so
much of a network can be compared with what the loop has counted.  `Network.books` are these four, and there
are two entries that are made in them, one for a round that is completed (`Books.complete`) and one for a
round that fails (`Books.fail`).

What is done to a round is told to the loop, and the entry can be read off what it is told.  Failing a round
says whether it was this call that did it (**`Shared.books_kill`**), and a notification that is applied says
whether a round has moved or has failed by it (**`Shared.books_apply`**).  A start makes one round more
(`Shared.books_start`).
-/

namespace MixRounds

namespace Live

/-- What there is to count in a network. -/
@[ext]
structure Books where
  rounds : Nat
  completed : Nat
  failed : Nat
  /-- The causes of the failures on record, oldest first. -/
  causes : List Cause

namespace Books

/-- A round is completed. -/
def complete (b : Books) : Books := { b with completed := b.completed + 1 }

/-- A round fails, and that is put on record. -/
def fail (b : Books) (cause : Cause) : Books :=
  { b with failed := b.failed + 1, causes := b.causes ++ [cause] }

/-- The entry for a notification, given what came of it. -/
def enter (b : Books) (cause : Cause) : Except Fault Effect → Books
  | .ok (.advanced .completed) => b.complete
  | .ok .killed => b.fail cause
  | _ => b

end Books

end Live

namespace Network

/-- What there is to count in the network. -/
def books (net : Network) : Live.Books where
  rounds := net.rounds.size
  completed := net.rounds.count fun r => r.phase == .completed
  failed := net.rounds.count fun r => r.phase == .failed
  causes := net.log.errors.map fun e => e.payload.cause

variable {net : Network} {id : RoundId} {r₀ r : Round}

@[simp] lemma books_mapNode (v : NodeId) (f : Node → Node) : (net.mapNode v f).books = net.books := rfl

@[simp] lemma books_publish (id : RoundId) (r : Round) : (net.publish id r).books = net.books := rfl

lemma books_publishError (id : RoundId) (node : Option NodeId) (cause : Cause) (now : Instant) :
    (net.publishError id node cause now).books
      = { net.books with causes := net.books.causes ++ [cause] } := by
  simp [books, publishError, UpdateLog.pushError, Signed.sign]

/-- A round is in a new state: of the rounds in a phase there may be one more or one less. -/
lemma count_setRound (hround : net.rounds.get? id = some r₀) (r : Round) (p : Phase) :
    ((net.setRound id r).rounds.count fun r => r.phase == p) + (r₀.phase == p).toNat
      = (net.rounds.count fun r => r.phase == p) + (r.phase == p).toNat :=
  Table.count_modify hround (fun _ => r) _

/-- A round that stays in its phase is not entered anew. -/
lemma books_setRound_of_phase (hround : net.rounds.get? id = some r₀) (h : r.phase = r₀.phase) :
    (net.setRound id r).books = net.books := by
  have hcompleted := count_setRound hround r .completed
  have hfailed := count_setRound hround r .failed
  rw [h] at hcompleted hfailed
  ext1
  · exact Table.size_modify ..
  · exact Nat.add_right_cancel hcompleted
  · exact Nat.add_right_cancel hfailed
  · rfl

/-- **A round that is not at its end** is entered when it comes to one. -/
lemma books_setRound (hround : net.rounds.get? id = some r₀) (hlive : r₀.phase.isTerminal = false)
    (r : Round) : (net.setRound id r).books = { net.books with
      completed := net.books.completed + (r.phase == .completed).toNat
      failed := net.books.failed + (r.phase == .failed).toNat } := by
  have hcompleted := count_setRound hround r .completed
  have hfailed := count_setRound hround r .failed
  have hnot : ∀ p : Phase, p.isTerminal = true → (r₀.phase == p) = false := by
    intro p hp
    exact beq_eq_false_iff_ne.2 fun heq => by simp [heq, hp] at hlive
  rw [hnot _ rfl] at hcompleted hfailed
  ext1
  · exact Table.size_modify ..
  · exact hcompleted
  · exact hfailed
  · rfl

/-- **A round that is allocated** is one more. -/
lemma books_addRound {net' : Network} (hadd : net.addRound id r = .ok net')
    (hlive : r.phase.isTerminal = false) : net'.rounds.get? id = some r ∧
      net'.books = { net.books with rounds := net.books.rounds + 1 } := by
  rw [addRound] at hadd
  split at hadd
  · cases hadd
  · rename_i hfree
    cases hadd
    have hnew : net.rounds.get? id = none := by simpa [Table.contains] using hfree
    have hcount : ∀ p : Phase, p.isTerminal = true →
        ((net.rounds.insert id r).count fun r => r.phase == p) = net.rounds.count fun r => r.phase == p := by
      intro p hp
      have hne : r.phase ≠ p := fun heq => by simp [heq, hp] at hlive
      simp [Table.count_insert hnew, hne]
    refine ⟨by simp [Table.get?_insert], ?_⟩
    ext1
    · exact Table.size_insert hnew r
    · exact hcount _ rfl
    · exact hcount _ rfl
    · rfl

end Network

namespace Live

namespace Shared

variable {s : Shared}

/-- What there is to count in what is shared. -/
def books (s : Shared) : Books := s.net.books

@[simp] lemma books_mapNode (s : Shared) (v : NodeId) (f : Node → Node) :
    (s.mapNode v f).books = s.books := rfl

/-! ## Failing a round -/

/-- **Who fails a round** is told so: the round was there, and not at its end. -/
lemma kill_snd (s : Shared) (now : Instant) (id : RoundId) (node : Option NodeId) (cause : Cause) :
    (s.kill now id node cause).2 = (s.net.rounds.get? id).any fun r => !r.phase.isTerminal := by
  cases hround : s.net.rounds.get? id with
  | none => cases node <;> simp [kill, mapNode, hround]
  | some r =>
      cases hterminal : r.phase.isTerminal <;> cases node <;>
        simp [kill, mapNode, hround, Round.fail, hterminal]

/-- **A round that is failed** is entered by the call that does it, and by no other. -/
theorem books_kill (s : Shared) (now : Instant) (id : RoundId) (node : Option NodeId) (cause : Cause) :
    (s.kill now id node cause).1.books
      = if (s.kill now id node cause).2 then s.books.fail cause else s.books := by
  rw [kill_snd]
  cases hround : s.net.rounds.get? id with
  | none => cases node <;> simp [kill, mapNode, hround, books]
  | some r =>
      cases hterminal : r.phase.isTerminal with
      | true => cases node <;> simp [kill, mapNode, hround, Round.fail, hterminal, books]
      | false =>
          let failed : Round := { r with phase := .failed, stamps := r.stamps.insert .failed now }
          have hthere : ∀ net : Network, net.rounds = s.net.rounds → net.log = s.net.log →
              (((net.setRound id failed).publishError id node cause now).publish id failed).books
                = s.books.fail cause := by
            intro net hrounds hlog
            have hget : net.rounds.get? id = some r := hrounds ▸ hround
            have hbooks : net.books = s.books := by simp only [Network.books, books, hrounds, hlog]
            rw [Network.books_publish, Network.books_publishError, Network.books_setRound hget hterminal,
              hbooks]
            rfl
          cases node <;> simp only [kill, mapNode, Network.mapNode_rounds, hround, Round.fail, hterminal,
            Bool.false_eq_true, if_false, Option.any_some, Bool.not_false, if_true]
          · exact hthere _ rfl rfl
          · exact hthere _ rfl rfl

lemma books_killHeld (s : Shared) (now : Instant) (v : NodeId) (held : Option RoundId) (cause : Cause) :
    (s.killHeld now v held cause).1.books = s.books.enter cause (s.killHeld now v held cause).2 := by
  cases held with
  | none => rfl
  | some id =>
      have hkill := s.books_kill now id (some v) cause
      dsimp only [killHeld]
      split <;> rename_i heq <;> rw [heq] at hkill <;> exact hkill

/-! ## A notification -/

/-- **A member that is counted** completes a round if it is told so. -/
lemma books_countAndAdvance {id : RoundId} {r : Round} (hround : s.net.rounds.get? id = some r)
    {next : Phase} (hnext : next ≠ .failed) (stamp : Instant) (cause : Cause) {after : Shared → Shared}
    (hafter : ∀ t : Shared, (after t).net = t.net) :
    (s.countAndAdvance id r next stamp after).1.books
      = s.books.enter cause (s.countAndAdvance id r next stamp after).2 := by
  rw [countAndAdvance]
  cases hcount : r.countReady id with
  | error fault => rfl
  | ok result =>
      obtain ⟨counted, complete⟩ := result
      have hphase : counted.phase = r.phase := by
        rw [Round.countReady] at hcount
        split at hcount <;> cases hcount
        rfl
      have hcounted : (s.net.setRound id counted).books = s.books :=
        Network.books_setRound_of_phase hround hphase
      have hthere : (s.net.setRound id counted).rounds.get? id = some counted := by
        simp [Network.get?_setRound, hround]
      dsimp only
      split
      · exact hcounted
      · cases hadvance : counted.advance id next stamp with
        | error fault => exact hcounted
        | ok moved =>
            rw [Round.advance] at hadvance
            split at hadvance
            · rename_i hmay
              cases hadvance
              have hlive : counted.phase.isTerminal = false := by
                by_contra hterminal
                rw [Phase.not_mayAdvance_of_isTerminal (by simpa using hterminal)] at hmay
                cases hmay
              have hmoved := Network.books_setRound hthere hlive
                { counted with phase := next, ready := 0, stamps := counted.stamps.insert next stamp }
              rw [hcounted] at hmoved
              dsimp only [books]
              rw [hafter, Network.books_publish]
              rw [hmoved]
              cases next <;> first | rfl | exact absurd rfl hnext
            · cases hadvance

section Apply

variable {settings : Settings} {now : Instant} {clock : Nat} {reserved : List NodeId}
  {n : Notification}

lemma books_applyActivity {v : NodeId} {held : Option (RoundId × Round)} (node : Node)
    (hheld : s.Holds v held) (a : Activity) :
    (s.applyActivity settings now clock reserved v node held a).1.books
      = s.books.enter .nodeError (s.applyActivity settings now clock reserved v node held a).2 := by
  cases a with
  | notStarted | precomputing | realtime => rfl
  | error => exact s.books_killHeld now v _ .nodeError
  | waiting =>
      dsimp only [applyActivity]
      split
      · rfl
      · split <;> rfl
  | standby =>
      cases held with
      | none => rfl
      | some held => exact books_countAndAdvance hheld.2 (by simp) _ _ fun _ => rfl
  | completed =>
      cases held with
      | none => rfl
      | some held =>
          exact books_countAndAdvance (s := s.mapNode v Node.detach) hheld.2 (by simp) _ _ fun _ => rfl

/-- **A notification** is entered as the loop is told of it, and never as a timeout. -/
theorem books_apply (h : ∀ id, s.net.holding n.node = some id → ∃ r, s.net.rounds.get? id = some r) :
    ∃ cause : Cause, cause.isTimeout = false ∧ (s.apply settings now clock reserved n).1.books
      = s.books.enter cause (s.apply settings now clock reserved n).2 := by
  obtain ⟨held, hheld⟩ := exists_holds h
  cases hnode : s.net.nodes.get? n.node with
  | none => exact ⟨.nodeError, rfl, by simp only [apply, hnode]; rfl⟩
  | some node =>
      rw [apply_eq hnode hheld]
      cases s.kindOf n with
      | alreadyBanned | staleAfterFailure => exact ⟨.nodeError, rfl, rfl⟩
      | ban => exact ⟨.nodeBanned, rfl, books_killHeld { s with pool := _ } now n.node _ _⟩
      | activity a => exact ⟨.nodeError, rfl, books_applyActivity node hheld a⟩

end Apply

/-! ## A start -/

/-- **A start that succeeds** makes one round more, which is not at its end. -/
theorem books_start {s s' : Shared} {now : Instant} {clock : Nat} {p : ProtoRound}
    (hstart : s.start now clock p = (s', .ok ())) :
    s'.books = { s.books with rounds := s.books.rounds + 1 } := by
  simp only [start] at hstart
  split at hstart
  · cases hstart
  split at hstart
  · cases hstart
  rename_i net hadd
  split at hstart
  · cases hstart
  rename_i round hadvance
  split at hstart
  · cases hstart
  obtain rfl := (Prod.mk.inj hstart).1
  have hphase : round.phase = .precomputing := by
    rw [Round.advance] at hadvance
    split at hadvance <;> cases hadvance
    rfl
  obtain ⟨hround, hadded⟩ := Network.books_addRound hadd rfl
  have hset : (net.setRound p.id round).books = net.books := by
    rw [Network.books_setRound hround rfl, hphase]
    rfl
  exact hset.trans hadded

end Shared

end Live

end MixRounds
