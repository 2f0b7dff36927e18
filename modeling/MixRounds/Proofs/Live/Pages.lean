import MixRounds.Proofs.Live.Annals

/-!
# A state by seats and pages

What notifications write can be sorted into drawers.  A node has its seat: its record, and where it is in the
pool.  A round has its page: its state, whether it is tracked, and what was published on it.  Together these are
all that a scheduler keeps, but for the timers; and when two courses of events are compared, they are compared
without the times and the numbers of broadcasts, since these tell when something happened and not what.

`Round.undated` and `outline` leave them out.  A change to a round does the same to the undated round whenever
it is made (`Kind.undated_effect`), so the new page can be told from the old one.

`Shared.seat` and `Shared.page` open the drawers, and the lemmas here say what the operations that write do to
each of them: `page_killHeld` and `page_countAndAdvance` for the two that write on a page, of which
`Kind.repage` is the common form, and `Kind.reseat` for the seats.
-/

namespace MixRounds

/-! ## Without times -/

/-- The phases in order, all at one time. -/
def Stamps.undated (s : Stamps) : Stamps := s.map fun e => (e.1, ⟨0, 0⟩)

lemma Stamps.undated_insert (p : Phase) (t : Instant) (s : Stamps) :
    (s.insert p t).undated = s.undated.insert p ⟨0, 0⟩ := by
  induction s with
  | nil => rfl
  | cons e rest ih =>
      simp only [undated] at ih
      simp only [insert, undated, List.map_cons]
      split
      · rfl
      · split
        · rfl
        · simp [ih]

lemma Stamps.undated_undated (s : Stamps) : s.undated.undated = s.undated := by
  simp [undated]

/-- A round without its times. -/
def Round.undated (r : Round) : Round := { r with stamps := r.stamps.undated }

/-- A broadcast without times and number. -/
def RoundInfo.outline (info : RoundInfo) : RoundInfo :=
  { info with stamps := info.stamps.undated, updateId := 0 }

/-- A failure record without its time. -/
def RoundError.outline (e : RoundError) : RoundError := { e with time := ⟨0, 0⟩ }

namespace Round

lemma undated_fail (r : Round) (t : Instant) : (r.fail t).2.undated = (r.undated.fail ⟨0, 0⟩).2 := by
  cases hterminal : r.phase.isTerminal <;> simp [fail, undated, hterminal, Stamps.undated_insert]

lemma undated_tallied (r : Round) (id : RoundId) (next : Phase) (t : Instant) :
    (r.tallied id next t).undated = r.undated.tallied id next ⟨0, 0⟩ := by
  have hsize : r.undated.teamSize = r.teamSize := rfl
  have hready : r.undated.ready = r.ready := rfl
  have hphase : r.undated.phase = r.phase := rfl
  simp only [tallied, countReady, hsize, hready]
  by_cases hfull : r.teamSize ≤ r.ready
  · simp [hfull]
  · simp only [hfull, if_false]
    by_cases hlast : r.ready + 1 == r.teamSize
    · simp only [hlast, Bool.not_true, Bool.false_eq_true, if_false, advance, hphase]
      split
      · rename_i hmove
        split at hmove
        · cases hmove
        · simp [*, undated]
      · rename_i moved hmove
        split at hmove
        · cases hmove
          simp [*, undated, Stamps.undated_insert]
        · cases hmove
    · simp [hlast, undated]

end Round

namespace Live

variable {settings settings' : Settings} {now now' : Instant} {r r' : Round} {id : RoundId}

/-- **What becomes of a round does not depend on when**: rounds that differ in times only still do. -/
lemma Kind.undated_effect (k : Kind) (h : r.undated = r'.undated) :
    (k.effect settings now id r).undated = (k.effect settings' now' id r').undated := by
  simp only [effect]
  split
  · rw [Round.undated_fail, Round.undated_fail, h]
  · rw [Round.undated_fail, Round.undated_fail, h]
  · rw [Round.undated_tallied, Round.undated_tallied, h]
  · rw [Round.undated_tallied, Round.undated_tallied, h]
  · exact h

/-! ## Seats -/

/-- What a scheduler keeps about a node. -/
@[ext]
structure Seat where
  node : Option Node
  online : Bool
  offline : Bool

/-- What a notification of this kind makes of its node's seat. -/
def Kind.reseat (k : Kind) (reserved : List NodeId) (v : NodeId) (seat : Seat) : Seat :=
  match seat.node with
  | none => seat
  | some node =>
      let record := if k.detaches then some node.detach else some node
      match k with
      | .ban => ⟨record, false, false⟩
      | .activity .waiting =>
          if node.status = .banned ∨ v ∈ reserved then { seat with node := record }
          else ⟨record, true, false⟩
      | _ => { seat with node := record }

/-! ## Pages -/

/-- What a scheduler keeps about a round, without times and numbers. -/
@[ext]
structure Page where
  round : Option Round
  tracked : Bool
  updates : List RoundInfo
  errors : List RoundError

namespace Page

/-- The page of a round in the annals, with the tracker. -/
def ofAnnals (a : Annals) (t : Tracker) (id : RoundId) : Page where
  round := (a.rounds id).map Round.undated
  tracked := decide (id ∈ t)
  updates := (a.updates.filter fun info => info.id = id).map RoundInfo.outline
  errors := (a.errors.filter fun e => e.round = id).map RoundError.outline

variable (a : Annals) (t : Tracker) (i j : RoundId)

lemma ofAnnals_set : ofAnnals (a.set i r) t j =
    if j = i then { ofAnnals a t j with round := some r.undated } else ofAnnals a t j := by
  by_cases hj : j = i <;> simp [ofAnnals, Annals.set, hj]

lemma ofAnnals_publish : ofAnnals (a.publish i r) t j =
    if j = i then { ofAnnals a t j with updates := (ofAnnals a t j).updates ++ [r.undated.info i] }
    else ofAnnals a t j := by
  by_cases hj : j = i
  · simp [ofAnnals, Annals.publish, hj, Round.info, RoundInfo.outline, Round.undated]
  · have hne : ¬ i = j := fun heq => hj heq.symm
    simp [ofAnnals, Annals.publish, hj, Round.info, hne]

lemma ofAnnals_record (e : RoundError) : ofAnnals (a.record e) t j =
    if j = e.round then { ofAnnals a t j with errors := (ofAnnals a t j).errors ++ [e.outline] }
    else ofAnnals a t j := by
  by_cases hj : j = e.round
  · simp [ofAnnals, Annals.record, hj]
  · have hne : ¬ e.round = j := fun heq => hj heq.symm
    simp [ofAnnals, Annals.record, hj, hne]

lemma ofAnnals_remove : ofAnnals a (t.remove i).2 j =
    if j = i then { ofAnnals a t j with tracked := false } else ofAnnals a t j := by
  by_cases hj : j = i <;> simp [ofAnnals, Tracker.mem_remove, hj]

end Page

/-- The grounds on which a notification of this kind ends a round. -/
def Kind.grounds? : Kind → Option Cause
  | .ban => some .nodeBanned
  | .activity .error => some .nodeError
  | _ => none

/-- What a notification of this kind by node `v` writes on the page of the round that the node holds: if the round
moves, that is broadcast; and if it is ended, it is tracked no longer, and that goes on record. -/
def Kind.repage (k : Kind) (v : NodeId) (id : RoundId) (page : Page) : Page :=
  match page.round with
  | none => page
  | some r =>
      let moved := (k.effect .builtIn ⟨0, 0⟩ id r).undated
      if moved.phase = r.phase then { page with round := some moved }
      else
        { round := some moved
          tracked := page.tracked && k.grounds?.isNone
          updates := page.updates ++ [moved.info id]
          errors := page.errors ++ (k.grounds?.map fun cause => ⟨id, some v, cause, ⟨0, 0⟩⟩).toList }

namespace Shared

/-- The seat of a node. -/
def seat (s : Shared) (v : NodeId) : Seat :=
  ⟨s.net.nodes.get? v, decide (v ∈ s.pool.online), decide (v ∈ s.pool.offline)⟩

/-- The page of a round. -/
def page (s : Shared) (id : RoundId) : Page := .ofAnnals s.annals s.tracker id

variable {s : Shared}

lemma round_page (hround : s.net.rounds.get? id = some r) : (s.page id).round = some r.undated := by
  simp [page, Page.ofAnnals, annals, Network.annals, hround]

/-- The new page of a round that is there, told from the round. -/
lemma repage_page (hround : s.net.rounds.get? id = some r) (k : Kind) (v : NodeId)
    {moved : Round} (hmoved : k.effect settings now id r = moved) : k.repage v id (s.page id) =
      if moved.phase = r.phase then { s.page id with round := some moved.undated }
      else
        { round := some moved.undated
          tracked := (s.page id).tracked && k.grounds?.isNone
          updates := (s.page id).updates ++ [moved.undated.info id]
          errors := (s.page id).errors
            ++ (k.grounds?.map fun cause => ⟨id, some v, cause, ⟨0, 0⟩⟩).toList } := by
  have hsame : (k.effect .builtIn ⟨0, 0⟩ id r.undated).undated = moved.undated := by
    rw [← hmoved]
    apply Kind.undated_effect
    simp [Round.undated, Stamps.undated_undated]
  simp only [Kind.repage, round_page hround, hsame]
  rfl

lemma tracker_kill (hround : s.net.rounds.get? id = some r) (node : Option NodeId) (cause : Cause) :
    (s.kill now id node cause).1.tracker =
      if r.phase.isTerminal then s.tracker else (s.tracker.remove id).2 := by
  cases hterminal : r.phase.isTerminal <;> cases node <;>
    simp [kill, mapNode, notify, hround, Round.fail, hterminal]

/-- **A round is failed**, with a record and a broadcast, unless it has come to its end. -/
lemma page_killHeld (hround : s.net.rounds.get? id = some r) (v : NodeId) {k : Kind} {cause : Cause}
    (hk : k.grounds? = some cause) (heffect : k.effect settings now id r = (r.fail now).2) (j : RoundId) :
    (s.killHeld now v (some id) cause).1.page j =
      if j = id then k.repage v id (s.page id) else s.page j := by
  have hself : s.annals.set id r = s.annals := Annals.set_self hround
  rw [killHeld_fst, repage_page hround k v heffect, page, tracker_kill hround]
  cases hterminal : r.phase.isTerminal with
  | true =>
      rw [annals_kill_of_terminal now _ cause hround hterminal, Round.fail, if_pos hterminal]
      have hpage := Page.ofAnnals_set (r := r) s.annals s.tracker id j
      rw [hself] at hpage
      by_cases hj : j = id
      · subst hj
        simpa [page] using hpage
      · simp [hj, page]
  | false =>
      have hphase : ¬ (r.fail now).2.phase = r.phase := by
        intro heq
        have hend := r.isTerminal_fail now
        rw [heq, hterminal] at hend
        cases hend
      rw [annals_kill_of_live now _ cause hround hterminal, if_neg hphase]
      simp only [Annals.announce, Bool.false_eq_true, if_false]
      rw [Page.ofAnnals_publish, Page.ofAnnals_set, Page.ofAnnals_record, Page.ofAnnals_remove]
      by_cases hj : j = id
      · subst hj
        simp [hk, RoundError.outline, page]
      · simp [hj, page]

/-- **A member is counted**, and the round moves on with the last of them. -/
lemma page_countAndAdvance (hround : s.net.rounds.get? id = some r) {k : Kind} {next : Phase}
    {stamp : Instant} {after : Shared → Shared} (v : NodeId) (hk : k.grounds? = none)
    (heffect : k.effect settings now id r = r.tallied id next stamp)
    (hafter : ∀ t : Shared, (after t).net = t.net ∧ (after t).tracker = t.tracker) (j : RoundId) :
    (s.countAndAdvance id r next stamp after).1.page j =
      if j = id then k.repage v id (s.page id) else s.page j := by
  have htracker : (s.countAndAdvance id r next stamp after).1.tracker = s.tracker := by
    rw [countAndAdvance]
    split
    · rfl
    · dsimp only
      split
      · rfl
      · split
        · rfl
        · exact (hafter _).2
  rw [repage_page hround k v heffect, page, htracker,
    annals_countAndAdvance hround next stamp fun t => (hafter t).1]
  by_cases hphase : (r.tallied id next stamp).phase = r.phase
  · rw [if_pos hphase, if_pos hphase, Page.ofAnnals_set]
    by_cases hj : j = id
    · simp [hj, page]
    · simp [hj, page]
  · rw [if_neg hphase, if_neg hphase, Annals.announce, Page.ofAnnals_publish, Page.ofAnnals_set]
    by_cases hj : j = id
    · simp [hj, page, hk]
    · simp [hj, page]

end Shared

end Live

end MixRounds
