import Mathlib.Data.List.Infix
import MixRounds.Proofs.Live.Strikes

/-!
# The log tells the history of a round

Pollers see of a round only what was broadcast.  Its broadcasts are exactly the phases that it entered after
it was allocated, each once and in order, and each carries the stamps that the round had when it was sent:
they are the initial segments of the stamps that it has now (`Round.Told`).  A round enters a phase only
together with a broadcast, and the stamp of the new phase comes last, because no phase that was stamped
before comes after it in the life cycle; so one broadcast more keeps this true (`Round.Told.enter`).

**`World.log_faithful`** draws the conclusion for every run.
-/

namespace MixRounds

namespace Phase

/-- The ways in which a round can go through its phases from its start on. -/
def courses : List (List Phase) :=
  [[precomputing], [precomputing, realtime], [precomputing, realtime, completed],
    [precomputing, failed], [precomputing, realtime, failed]]

lemma mayAdvance_failed {p : Phase} (h : p.isTerminal = false) : p.mayAdvance .failed = true := by
  cases p <;> first | rfl | cases h

/-- **A course goes on** with a phase that comes after all phases that it went through. -/
lemma append_mem_courses {course : List Phase} (h : course ∈ courses) {p next : Phase}
    (hlast : course.getLast? = some p) (hmay : p.mayAdvance next = true) :
    course ++ [next] ∈ courses ∧ ∀ q ∈ Phase.pending :: course, q.rank < next.rank := by
  simp only [courses, List.mem_cons, List.not_mem_nil, or_false] at h
  rcases h with rfl | rfl | rfl | rfl | rfl <;> cases hlast <;> cases next <;>
    first | exact absurd hmay (by decide) | simp [courses, rank]

end Phase

namespace Round

/-- The broadcasts `us` tell the history of the round `r`. -/
structure Told (r : Round) (us : List RoundInfo) : Prop where
  course : us.map RoundInfo.phase ∈ Phase.courses
  current : (us.map RoundInfo.phase).getLast? = some r.phase
  phases : r.stamps.phases = .pending :: us.map RoundInfo.phase
  stamps : us.map RoundInfo.stamps = r.stamps.inits.drop 2
  content : ∀ u ∈ us, u.topology = r.topology ∧ u.batch = r.batch

namespace Told

variable {r r' : Round} {us : List RoundInfo} {u : RoundInfo}

/-- **The start is told.** -/
lemma start (hphase : r.phase = .precomputing) (hstamps : r.stamps.phases = [.pending, .precomputing])
    (hu : u.phase = r.phase ∧ u.stamps = r.stamps ∧ u.topology = r.topology ∧ u.batch = r.batch) :
    r.Told [u] := by
  obtain ⟨hp, hs, ht, hb⟩ := hu
  have htwo : r.stamps.length = 2 := by
    have hlength := congrArg List.length hstamps
    simpa [Stamps.phases] using hlength
  refine ⟨by simp [hp, hphase, Phase.courses], by simp [hp], by simp [hp, hphase, hstamps], ?_,
    by simp [ht, hb]⟩
  obtain ⟨a, b, hab⟩ := List.length_eq_two.1 htwo
  simp [hs, hab]

/-- **A round enters its next phase**, and that is told. -/
lemma enter (h : r.Told us) {next : Phase} {t : Instant} (hmay : r.phase.mayAdvance next = true)
    (hnext : r'.phase = next ∧ r'.stamps = r.stamps.insert next t ∧ r'.topology = r.topology ∧
      r'.batch = r.batch)
    (hu : u.phase = r'.phase ∧ u.stamps = r'.stamps ∧ u.topology = r'.topology ∧ u.batch = r'.batch) :
    r'.Told (us ++ [u]) := by
  obtain ⟨hp', hs', ht', hb'⟩ := hnext
  obtain ⟨hp, hs, ht, hb⟩ := hu
  obtain ⟨hcourse, hrank⟩ := Phase.append_mem_courses h.course h.current hmay
  have hinsert : r'.stamps = r.stamps ++ [(next, t)] := by
    rw [hs', Stamps.insert_of_lt]
    rwa [h.phases]
  refine ⟨by simpa [hp, hp'] using hcourse, by simp [hp], ?_, ?_, ?_⟩
  · have hphases := h.phases
    simp only [Stamps.phases] at hphases
    simp [Stamps.phases, hinsert, hphases, hp, hp']
  · -- the start has left two initial segments behind that were never told
    have hlong : 2 ≤ r.stamps.inits.length := by
      have hlength := congrArg List.length h.phases
      simp only [Stamps.phases, List.length_map, List.length_cons] at hlength
      simp only [List.length_inits]
      omega
    rw [List.map_append, h.stamps, hinsert, List.inits_append, List.drop_append_of_le_length hlong]
    simp [hs, hinsert]
  · intro i hi
    rcases List.mem_append.1 hi with hi | hi
    · rw [ht', hb']
      exact h.content i hi
    · rw [List.mem_singleton.1 hi]
      exact ⟨ht, hb⟩

/-- **What one broadcast shows**: the stamps that the round had when it was sent. -/
lemma stamps_eq (h : r.Told us) {before after : List RoundInfo} (hus : us = before ++ u :: after) :
    u.stamps <+: r.stamps ∧ u.stamps.phases = .pending :: (before ++ [u]).map RoundInfo.phase := by
  have hlength : before.length + 2 < r.stamps.inits.length := by
    have hphases := congrArg List.length h.phases
    simp only [Stamps.phases, hus, List.length_map, List.length_cons, List.length_append] at hphases
    simp only [List.length_inits]
    omega
  have hget : u.stamps = r.stamps.take (before.length + 2) := by
    have hnth := congrArg (fun l => l[before.length]?) h.stamps
    simp only [hus, List.map_append, List.map_cons, List.getElem?_drop, Nat.add_comm 2] at hnth
    rw [List.getElem?_eq_getElem hlength, List.getElem_inits] at hnth
    simpa using hnth
  refine ⟨hget ▸ List.take_prefix _ _, ?_⟩
  have hsplit : us.map RoundInfo.phase
      = (before ++ [u]).map RoundInfo.phase ++ after.map RoundInfo.phase := by simp [hus]
  have hphases := congrArg (List.take (before.length + 2)) h.phases
  rwa [Stamps.phases, ← List.map_take, ← hget, hsplit, List.take_succ_cons,
    List.take_left' (by simp)] at hphases

end Told

end Round

namespace Live

namespace Annals

variable {a a' : Annals} {id j : RoundId} {r : Round}

/-- The broadcasts of one round, in order. -/
def broadcasts (a : Annals) (id : RoundId) : List RoundInfo := a.updates.filter fun u => u.id = id

/-- The phase of a round. -/
def phase? (a : Annals) (id : RoundId) : Option Phase := (a.rounds id).map Round.phase

/-- The phase that a round enters when the one state follows the other. -/
def entering (a a' : Annals) (id : RoundId) : List Phase :=
  if a'.phase? id = a.phase? id then [] else (a'.phase? id).toList

/-- Every round is told of by its broadcasts, and nothing else was ever broadcast. -/
structure Faithful (a : Annals) : Prop where
  unknown : ∀ id, a.rounds id = none → a.broadcasts id = []
  told : ∀ id r, a.rounds id = some r → r.Told (a.broadcasts id)

/-- The broadcast that an announcement sends. -/
def sent (a : Annals) (id : RoundId) (r : Round) : RoundInfo :=
  { r.info id with updateId := UInt64.ofNat (a.updates.length + 1) }

lemma broadcasts_announce : (a.announce id r).broadcasts j
    = a.broadcasts j ++ if j = id then [a.sent id r] else [] := by
  have hsent : (a.announce id r).updates = a.updates ++ [a.sent id r] := rfl
  rw [broadcasts, hsent, List.filter_append]
  by_cases hj : j = id
  · subst hj
    simp [broadcasts, sent, Round.info]
  · simp [broadcasts, sent, Round.info, hj, Ne.symm hj]

lemma rounds_announce : (a.announce id r).rounds j = if j = id then some r else a.rounds j := rfl

/-- **An announcement tells of one round**, and of a phase that it was not in before. -/
lemma Faithful.announce (h : a.Faithful) (htold : r.Told (a.broadcasts id ++ [a.sent id r]))
    (hnew : a.phase? id ≠ some r.phase) : (a.announce id r).Faithful ∧
      ∀ j, ((a.announce id r).broadcasts j).map RoundInfo.phase
        = (a.broadcasts j).map RoundInfo.phase ++ a.entering (a.announce id r) j := by
  refine ⟨⟨fun j hj => ?_, fun j s hs => ?_⟩, fun j => ?_⟩
  · rw [rounds_announce] at hj
    rw [broadcasts_announce]
    split at hj
    · cases hj
    · rename_i hne
      simp [hne, h.unknown j hj]
  · rw [rounds_announce] at hs
    rw [broadcasts_announce]
    split at hs
    · rename_i heq
      cases hs
      simpa [heq] using htold
    · rename_i hne
      simpa [hne] using h.told j s hs
  · rw [broadcasts_announce, List.map_append, entering]
    by_cases hj : j = id
    · subst hj
      have hphase : (a.announce j r).phase? j = some r.phase := by simp [phase?, rounds_announce]
      simp [hphase, Ne.symm hnew, sent, Round.info]
    · have hphase : (a.announce id r).phase? j = a.phase? j := by simp [phase?, rounds_announce, hj]
      simp [hphase, hj]

/-- How many are ready is told to nobody. -/
lemma Faithful.count (h : a.Faithful) (n : Nat) (hround : a.rounds id = some r) :
    (a.set id { r with ready := n }).Faithful ∧
      ∀ j, ((a.set id { r with ready := n }).broadcasts j).map RoundInfo.phase
        = (a.broadcasts j).map RoundInfo.phase ++ a.entering (a.set id { r with ready := n }) j := by
  have hphase : ∀ j, (a.set id { r with ready := n }).phase? j = a.phase? j := by
    intro j
    by_cases hj : j = id <;> simp [phase?, set, hj, hround]
  refine ⟨⟨fun j hj => ?_, fun j s hs => ?_⟩, fun j => ?_⟩
  · dsimp only [set] at hj
    split at hj
    · cases hj
    · exact h.unknown j hj
  · dsimp only [set] at hs
    split at hs
    · rename_i heq
      cases hs
      subst heq
      obtain ⟨hcourse, hcurrent, hphases, hstamps, hcontent⟩ := h.told j r hround
      exact ⟨hcourse, hcurrent, hphases, hstamps, hcontent⟩
    · exact h.told j s hs
  · rw [entering, if_pos (hphase j), List.append_nil]
    rfl

/-- **Every step is told as it happens.** -/
theorem Faithful.step (h : a.Faithful) {struck : Option RoundError} (hstep : a.Step struck a') :
    a'.Faithful ∧ ∀ j, (a'.broadcasts j).map RoundInfo.phase
      = (a.broadcasts j).map RoundInfo.phase ++ a.entering a' j := by
  have hstill : a.Faithful ∧ ∀ j, (a.broadcasts j).map RoundInfo.phase
      = (a.broadcasts j).map RoundInfo.phase ++ a.entering a j := ⟨h, fun j => by simp [entering]⟩
  cases hstep with
  | still => exact hstill
  | again => exact hstill
  | start hnew hphase hstamps =>
      refine h.announce ?_ (by simp [phase?, hnew])
      rw [h.unknown _ hnew]
      exact .start hphase hstamps ⟨rfl, rfl, rfl, rfl⟩
  | count n hround => exact h.count n hround
  | advance stamp hround hmay hnext =>
      refine h.announce ?_ ?_
      · exact (h.told _ _ hround).enter hmay ⟨rfl, rfl, rfl, rfl⟩ ⟨rfl, rfl, rfl, rfl⟩
      · simpa [phase?, hround] using (Phase.ne_of_mayAdvance hmay).symm
  | @fail r e hround hlive =>
      have hmay := Phase.mayAdvance_failed hlive
      have hrecorded : (a.record e).Faithful := ⟨h.unknown, h.told⟩
      refine hrecorded.announce ?_ ?_
      · exact (h.told _ _ hround).enter hmay ⟨rfl, rfl, rfl, rfl⟩ ⟨rfl, rfl, rfl, rfl⟩
      · simpa [phase?, record, hround] using (Phase.ne_of_mayAdvance hmay).symm

end Annals

namespace World

variable {w : World}

/-- The phases that a round enters in a run, in order. -/
def entered (w : World) (id : RoundId) : List Move → List Phase
  | [] => []
  | m :: rest =>
      (if (w.step m).shared.net.phase? id = w.shared.net.phase? id then []
        else ((w.step m).shared.net.phase? id).toList) ++ (w.step m).entered id rest

/-- **Every run is told as it happens.** -/
lemma run_faithful (h : w.Regular) (hfaithful : w.annals.Faithful) (moves : List Move) :
    (w.run moves).annals.Faithful ∧ ∀ id, ((w.run moves).annals.broadcasts id).map RoundInfo.phase
      = (w.annals.broadcasts id).map RoundInfo.phase ++ w.entered id moves := by
  induction moves generalizing w with
  | nil => exact ⟨hfaithful, fun id => by simp [entered]⟩
  | cons m rest ih =>
      obtain ⟨hstep, hfirst⟩ := hfaithful.step (step_annals h m)
      obtain ⟨hrun, hrest⟩ := ih (h.step m) hstep
      refine ⟨hrun, fun id => (hrest id).trans ?_⟩
      rw [hfirst, List.append_assoc]
      rfl

lemma create_faithful (settings : Settings) (latency : Latency) (isDisabled : NodeId → Bool)
    {net : Network} (wall : Instant) (h : net.Fresh) :
    (create settings latency isDisabled net wall).annals.Faithful := by
  have hupdates : (create settings latency isDisabled net wall).annals.updates = [] := by
    simp [annals, Shared.annals, Network.annals, create, h.log, UpdateLog.empty]
  have hrounds : ∀ id, (create settings latency isDisabled net wall).annals.rounds id = none :=
    h.idle.rounds
  refine ⟨fun id _ => by rw [Annals.broadcasts, hupdates]; rfl, fun id r hr => ?_⟩
  rw [hrounds id] at hr
  cases hr

end World

end Live

namespace UpdateLog

/-- The broadcasts of one round, oldest first. -/
def updatesFor (log : UpdateLog) (round : RoundId) : List RoundInfo :=
  (log.updates.map Signed.payload).filter fun u => u.id = round

lemma latestFor_eq (log : UpdateLog) (round : RoundId) :
    log.latestFor round = (log.updatesFor round).getLast? := by
  rw [latestFor, updatesFor, List.getLast?_eq_head?_reverse, ← List.filter_reverse, List.head?_filter,
    ← List.map_reverse, List.find?_map]
  rfl

end UpdateLog

/-- The broadcasts of a round are its history, if `entered` are the phases that it has entered. -/
structure Network.Tells (net : Network) (id : RoundId) (entered : List Phase) : Prop where
  /-- They are about the phases that the round has entered, in order. -/
  phases : (net.log.updatesFor id).map RoundInfo.phase = entered
  /-- Once it was started it went through its life cycle. -/
  course : entered = [] ∨ entered ∈ Phase.courses
  /-- Each shows the team, the batch and the stamps of the round, and the phases that have a stamp are
  those that were broadcast by then. -/
  content : ∀ r, net.rounds.get? id = some r → ∀ before u after,
    net.log.updatesFor id = before ++ u :: after → u.topology = r.topology ∧ u.batch = r.batch ∧
      u.stamps <+: r.stamps ∧ u.stamps.phases = .pending :: (before ++ [u]).map RoundInfo.phase
  /-- The newest shows the phase that the round is in, and there is none without a round. -/
  latest : (net.log.latestFor id).map RoundInfo.phase = net.phase? id

namespace Live.World

/-- **The log is a faithful history** of every round, in every state that any run from a fresh network
reaches. -/
theorem log_faithful (settings : Settings) (latency : Latency) (isDisabled : NodeId → Bool)
    {net : Network} (wall : Instant) (hfresh : net.Fresh) (moves : List Move) (id : RoundId) :
    let w := create settings latency isDisabled net wall
    (w.run moves).shared.net.Tells id (w.entered id moves) := by
  intro w
  have hcreated := create_faithful settings latency isDisabled wall hfresh
  obtain ⟨hfaithful, hentered⟩ :=
    run_faithful (create_regular settings latency isDisabled wall hfresh.idle) hcreated moves
  let net' := (w.run moves).shared.net
  have hphases : (net'.log.updatesFor id).map RoundInfo.phase = w.entered id moves := by
    have hnone : w.annals.broadcasts id = [] := hcreated.unknown id (hfresh.idle.rounds id)
    refine (hentered id).trans ?_
    rw [hnone]
    rfl
  have hlatest : (net'.log.latestFor id).map RoundInfo.phase
      = ((net'.log.updatesFor id).map RoundInfo.phase).getLast? := by
    rw [UpdateLog.latestFor_eq, List.getLast?_map]
  cases hround : net'.rounds.get? id with
  | none =>
      have hunknown : net'.log.updatesFor id = [] := hfaithful.unknown id hround
      refine ⟨hphases, Or.inl ?_, fun r hr => ?_, ?_⟩
      · rw [← hphases, hunknown]
        rfl
      · rw [show net'.rounds.get? id = some r from hr] at hround
        cases hround
      · rw [hlatest, hunknown, Network.phase?, hround]
        rfl
  | some r =>
      have htold : r.Told (net'.log.updatesFor id) := hfaithful.told id r hround
      refine ⟨hphases, Or.inr (hphases ▸ htold.course), fun s hs before u after hus => ?_, ?_⟩
      · cases (show net'.rounds.get? id = some s from hs).symm.trans hround
        have hmem : u ∈ net'.log.updatesFor id := by
          rw [show net'.log.updatesFor id = before ++ u :: after from hus]
          simp
        obtain ⟨htopology, hbatch⟩ := htold.content u hmem
        exact ⟨htopology, hbatch, htold.stamps_eq hus⟩
      · rw [hlatest, htold.current, Network.phase?, hround]
        rfl

/-- A round of one member is broadcast three times, and is seen to be completed. -/
theorem log_faithful_of_oneRound : (smallNetwork ["a"]).Fresh ∧
    (((small ["a"]).run oneRound).shared.net.log.updatesFor ⟨1⟩).map RoundInfo.phase
      = [.precomputing, .realtime, .completed] ∧
    (((small ["a"]).run oneRound).shared.net.log.latestFor ⟨1⟩).map RoundInfo.phase
      = some .completed := by
  have htells : ((small ["a"]).run oneRound).shared.net.Tells ⟨1⟩ ((small ["a"]).entered ⟨1⟩ oneRound) :=
    log_faithful _ _ _ _ (fresh_smallNetwork ["a"]) oneRound ⟨1⟩
  refine ⟨fresh_smallNetwork _, htells.phases.trans ?_, htells.latest.trans ?_⟩
  · decide +kernel
  · decide +kernel

end Live.World

end MixRounds
