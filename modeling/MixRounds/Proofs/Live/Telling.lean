import Mathlib.Data.List.Basic
import Mathlib.Data.List.Nodup
import Mathlib.Data.List.Perm.Subperm
import Mathlib.Data.List.ProdSigma
import MixRounds.Proofs.Live.Course

/-!
# What a team has told

Fix a round that has not failed.  Every report that the loop applied to one of its members, while this
member held the round, is a `Telling`, and all of them in order are the record of the round.
`Recorded` is what the record says about the round as it stands now:

* a member has told each activity at most once, for while it holds the round it only walks forward in
  the activity cycle, and the reports that lead backward part it from the round;
* a member that does not hold the round has completed, or had nothing to say but that it waits;
* the standbys and completions that were not refused are the members counted now, and a whole team for
  each move to realtime or completed;
* once a report was refused for want of room, the team stays complete, and the round does not move
  again.

A report of one of its members keeps this (`Recorded.report`), and the other things that happen to a
ledger do not touch the record (`Recorded.keep`).  The two pigeonhole arguments at the end are what the
record is good for: **`Recorded.told_of_completed`** (a completed round was told everything by everybody,
and nobody holds it) and **`Recorded.standby_iff_of_fresh_realtime`** (a round that has just entered
realtime was told every standby, unless it was told a completion).
-/

namespace MixRounds

namespace Activity

/-- The place in the cycle, errors last. -/
def place : Activity → Nat
  | notStarted => 0
  | waiting => 1
  | precomputing => 2
  | standby => 3
  | realtime => 4
  | completed => 5
  | error => 6

/-- From waiting to completed the cycle takes one step at a time. -/
lemma place_of_mayBecome {x a : Activity} (h : x.mayBecome a = true) (hlow : 2 ≤ a.place)
    (hhigh : a.place ≤ 5) : a.place = x.place + 1 := by
  revert h hlow hhigh
  cases x <;> cases a <;> decide

/-- Nobody begins to wait from within a round. -/
lemma place_of_mayBecome_waiting {x : Activity} (h : x.mayBecome .waiting = true) :
    ¬ (2 ≤ x.place ∧ x.place ≤ 4) := by
  revert h
  cases x <;> decide

end Activity

namespace Live

/-- What a member told the loop while it held its round. -/
structure Telling where
  node : NodeId
  activity : Activity
  /-- The report was refused because the team was complete before. -/
  refused : Bool
  deriving DecidableEq, Repr

namespace Telling

/-- Who told what. -/
def pair (t : Telling) : NodeId × Activity := (t.node, t.activity)

/-- The telling was counted for the round. -/
def counts (t : Telling) : Bool :=
  (t.activity = .standby || t.activity = .completed) && !t.refused

/-- What a node told, in order. -/
def activitiesOf (v : NodeId) (told : List Telling) : List Activity :=
  (told.filter fun t => t.node = v).map activity

lemma activitiesOf_append_of_ne {v : NodeId} {t : Telling} (h : t.node ≠ v) (told : List Telling) :
    activitiesOf v (told ++ [t]) = activitiesOf v told := by
  simp [activitiesOf, h]

end Telling

/-- What the record of a round says about the round as it stands. -/
structure Recorded (told : List Telling) (holding : NodeId → Option RoundId)
    (heard : NodeId → Activity → Prop) (id : RoundId) (r : Round) : Prop where
  nodup : (told.map Telling.pair).Nodup
  member : ∀ t ∈ told, t.node ∈ r.topology
  completed : ∀ t ∈ told, t.activity = .completed → holding t.node ≠ some id
  forward : ∀ t ∈ told, holding t.node = some id → ∀ x, heard t.node x →
    2 ≤ t.activity.place ∧ t.activity.place ≤ x.place ∧ x.place ≤ 4
  parted : ∀ v ∈ r.topology, holding v ≠ some id →
    (∃ t ∈ told, t.node = v ∧ t.activity = .completed) ∨ Telling.activitiesOf v told = [.waiting]
  tally : told.countP Telling.counts = r.ready + r.teamSize * r.phase.teamsCounted
  full : (∃ t ∈ told, t.refused = true) → r.teamSize ≤ r.ready

variable {told : List Telling} {holding holding' : NodeId → Option RoundId}
  {heard heard' : NodeId → Activity → Prop} {id : RoundId} {r : Round}

namespace Recorded

/-- The record of a round that was just started is empty. -/
lemma start (hteam : ∀ v ∈ r.topology, holding v = some id) (hphase : r.phase = .precomputing)
    (hready : r.ready = 0) : Recorded [] holding heard id r where
  nodup := List.nodup_nil
  member t ht := by cases ht
  completed t ht := by cases ht
  forward t ht := by cases ht
  parted v hv hfree := absurd (hteam v hv) hfree
  tally := by simp [hphase, hready, Phase.teamsCounted]
  full h := by simp at h

/-- Nothing changes for a round as long as nobody takes it or lets it go, and nothing is heard of its
holders. -/
lemma keep (h : Recorded told holding heard id r)
    (hholding : ∀ v, holding' v = some id ↔ holding v = some id)
    (hheard : ∀ v x, holding v = some id → heard' v x → heard v x) :
    Recorded told holding' heard' id r where
  nodup := h.nodup
  member := h.member
  completed t ht ha hheld := h.completed t ht ha ((hholding _).1 hheld)
  forward t ht hheld x hx :=
    have hbefore := (hholding _).1 hheld
    h.forward t ht hbefore x (hheard _ x hbefore hx)
  parted v hv hfree := h.parted v hv fun hheld => hfree ((hholding v).2 hheld)
  tally := h.tally
  full := h.full

/-- **A holder reports.**  What it told before, if anything, lies behind it in the cycle, so it repeats
nothing; and if the report parts it from the round, it has completed, or has only just begun to wait. -/
lemma tell (h : Recorded told holding heard id r) {v : NodeId} {x a : Activity} (refused : Bool)
    (r' : Round) (hheld : holding v = some id) (hmember : v ∈ r.topology) (hx : heard v x)
    (hstep : x.mayBecome a = true) (herror : a ≠ .error)
    (hholding : ∀ j, holding' j
      = if j = v ∧ (Kind.activity a).detaches = true then none else holding j)
    (hheard : ∀ j y, heard' j y → j = v ∧ y = a ∨ j ≠ v ∧ heard j y)
    (htopology : r'.topology = r.topology)
    (htally : (told ++ [(⟨v, a, refused⟩ : Telling)]).countP Telling.counts
      = r'.ready + r'.teamSize * r'.phase.teamsCounted)
    (hfull : (∃ t ∈ told, t.refused = true) ∨ refused = true → r'.teamSize ≤ r'.ready) :
    Recorded (told ++ [⟨v, a, refused⟩]) holding' heard' id r' := by
  -- what the member has told before lies between precomputing and what was last heard of it
  have hbehind : ∀ t ∈ told, t.node = v →
      2 ≤ t.activity.place ∧ t.activity.place ≤ x.place ∧ x.place ≤ 4 :=
    fun t ht htv => h.forward t ht (htv ▸ hheld) x (htv ▸ hx)
  have hkept : ∀ j, holding' j = some id → holding j = some id := by
    intro j hj
    rw [hholding] at hj
    split at hj
    · cases hj
    · exact hj
  have hstays : holding' v = some id → 2 ≤ a.place ∧ a.place ≤ 4 := by
    intro hv
    rw [hholding] at hv
    revert hv hstep
    cases a <;> cases x <;> simp [Kind.detaches, Activity.place, Activity.mayBecome]
  refine ⟨?_, ?_, ?_, ?_, ?_, htally, ?_⟩
  · rw [List.map_append]
    refine h.nodup.append (List.nodup_singleton _) ?_
    intro p hp hq
    obtain ⟨t, ht, rfl⟩ := List.mem_map.1 hp
    have hpair : t.pair = (v, a) := by simpa [Telling.pair] using hq
    obtain ⟨htv, rfl⟩ := Prod.mk.inj hpair
    obtain ⟨hlow, hle, hhigh⟩ := hbehind t ht htv
    have hplace := Activity.place_of_mayBecome hstep hlow (by omega)
    omega
  · intro t ht
    rw [htopology]
    rcases List.mem_append.1 ht with ht | ht
    · exact h.member t ht
    · rw [List.mem_singleton.1 ht]
      exact hmember
  · intro t ht hcompleted hj
    rcases List.mem_append.1 ht with ht | ht
    · exact h.completed t ht hcompleted (hkept _ hj)
    · rw [List.mem_singleton.1 ht] at hcompleted hj
      have hplace := (hstays hj).2
      rw [show a = .completed from hcompleted] at hplace
      exact absurd hplace (by decide)
  · intro t ht hj y hy
    rcases hheard _ _ hy with ⟨htv, rfl⟩ | ⟨htv, hy⟩
    · obtain ⟨hlow, hhigh⟩ := hstays (htv ▸ hj)
      rcases List.mem_append.1 ht with ht | ht
      · obtain ⟨hlow', hle, -⟩ := hbehind t ht htv
        have hplace := Activity.place_of_mayBecome hstep hlow (by omega)
        exact ⟨hlow', by omega, hhigh⟩
      · rw [List.mem_singleton.1 ht]
        exact ⟨hlow, Nat.le_refl _, hhigh⟩
    · rcases List.mem_append.1 ht with ht | ht
      · exact h.forward t ht (hkept _ hj) y hy
      · exact absurd (by rw [List.mem_singleton.1 ht]) htv
  · intro u hu hfree
    rw [htopology] at hu
    by_cases huv : u = v
    · subst huv
      rw [hholding] at hfree
      by_cases hdetaches : (Kind.activity a).detaches = true
      · -- the report that parts it from the round is a completion or the first of all
        have hcases : a = .waiting ∨ a = .completed := by
          revert hdetaches herror
          cases a <;> decide
        rcases hcases with rfl | rfl
        · refine Or.inr ?_
          have hfirst : told.filter (fun t => t.node = u) = [] := by
            refine List.filter_eq_nil_iff.2 fun t ht htu => ?_
            obtain ⟨hlow, hle, hhigh⟩ := hbehind t ht (by simpa using htu)
            exact Activity.place_of_mayBecome_waiting hstep ⟨by omega, hhigh⟩
          simp [Telling.activitiesOf, hfirst]
        · exact Or.inl ⟨_, List.mem_append_right _ (List.mem_singleton_self _), rfl, rfl⟩
      · simp [hdetaches, hheld] at hfree
    · have hsame : holding' u = holding u := by simp [hholding, huv]
      rw [hsame] at hfree
      rcases h.parted u hu hfree with ⟨t, ht, htu, hcompleted⟩ | hwaiting
      · exact Or.inl ⟨t, List.mem_append_left _ ht, htu, hcompleted⟩
      · exact Or.inr ((Telling.activitiesOf_append_of_ne (Ne.symm huv) _).trans hwaiting)
  · rintro ⟨t, ht, hrefused⟩
    rcases List.mem_append.1 ht with ht | ht
    · exact hfull (Or.inl ⟨t, ht, hrefused⟩)
    · rw [List.mem_singleton.1 ht] at hrefused
      exact hfull (Or.inr hrefused)

/-- Counting a member keeps the books: one more is ready, or a whole team was counted and the round has
moved. -/
lemma tally_tallied (h : Recorded told holding heard id r) {v : NodeId} {a : Activity}
    (ha : a = .standby ∨ a = .completed) {refused : Bool}
    (hrefused : refused = true ↔ r.teamSize ≤ r.ready) {next : Phase}
    (hnext : next = .realtime ∨ next = .completed) (stamp : Instant) :
    let r' := r.tallied id next stamp
    (told ++ [(⟨v, a, refused⟩ : Telling)]).countP Telling.counts
        = r'.ready + r'.teamSize * r'.phase.teamsCounted ∧
      ((∃ t ∈ told, t.refused = true) ∨ refused = true → r'.teamSize ≤ r'.ready) := by
  have hcounts : (⟨v, a, refused⟩ : Telling).counts = !refused := by
    rcases ha with rfl | rfl <;> simp [Telling.counts]
  have hcount : (told ++ [(⟨v, a, refused⟩ : Telling)]).countP Telling.counts
      = r.ready + r.teamSize * r.phase.teamsCounted + if refused then 0 else 1 := by
    rw [List.countP_append, h.tally, List.countP_singleton, hcounts]
    cases refused <;> rfl
  rw [hcount]
  rcases r.tallied_cases id next stamp with ⟨hfull, heq⟩ | ⟨hroom, -, heq⟩ | ⟨hlast, hmay, heq⟩ <;>
    dsimp only <;> rw [heq]
  · have href : refused = true := hrefused.2 hfull
    simp [href, hfull]
  · have href : refused = false := by
      rw [← Bool.not_eq_true, hrefused]
      omega
    refine ⟨?_, fun hany => ?_⟩
    · simp only [href, Bool.false_eq_true, if_false, Round.teamSize]
      omega
    · rcases hany with hany | hany
      · exact absurd (h.full hany) (by omega)
      · simp [href] at hany
  · have href : refused = false := by
      rw [← Bool.not_eq_true, hrefused]
      omega
    have hteams : next.teamsCounted = r.phase.teamsCounted + 1 := by
      revert hmay
      rcases hnext with rfl | rfl <;> cases r.phase <;> decide
    refine ⟨?_, fun hany => ?_⟩
    · simp only [href, Bool.false_eq_true, if_false, hteams, Round.teamSize] at hlast ⊢
      rw [Nat.mul_succ]
      omega
    · rcases hany with hany | hany
      · exact absurd (h.full hany) (by omega)
      · simp [href] at hany

/-- **The record survives a report** that does not end the round. -/
lemma report (h : Recorded told holding heard id r) {v : NodeId} {x a : Activity} {refused : Bool}
    {settings : Settings} {now : Instant} (hheld : holding v = some id) (hmember : v ∈ r.topology)
    (hx : heard v x) (hstep : x.mayBecome a = true) (herror : a ≠ .error)
    (hholding : ∀ j, holding' j
      = if j = v ∧ (Kind.activity a).detaches = true then none else holding j)
    (hheard : ∀ j y, heard' j y → j = v ∧ y = a ∨ j ≠ v ∧ heard j y)
    (hrefused : refused = true ↔ (a = .standby ∨ a = .completed) ∧ r.teamSize ≤ r.ready) :
    Recorded (told ++ [⟨v, a, refused⟩]) holding' heard' id
      ((Kind.activity a).effect settings now id r) := by
  have htell := h.tell refused ((Kind.activity a).effect settings now id r) hheld hmember hx hstep
    herror hholding hheard (Kind.topology_effect _ _ _ _ _)
  by_cases ha : a = .standby ∨ a = .completed
  · have hroom := hrefused.trans (and_iff_right ha)
    rcases ha with rfl | rfl
    · obtain ⟨htally, hfull⟩ := h.tally_tallied (v := v) (Or.inl rfl) hroom (Or.inl rfl)
        (now.addMillis settings.realtimeDelay)
      exact htell htally hfull
    · obtain ⟨htally, hfull⟩ := h.tally_tallied (v := v) (Or.inr rfl) hroom (Or.inr rfl) now
      exact htell htally hfull
  · have href : refused = false := by
      rw [← Bool.not_eq_true, hrefused]
      exact fun hboth => ha hboth.1
    have hsame : (Kind.activity a).effect settings now id r = r := by
      revert ha herror
      cases a <;> simp [Kind.effect]
    rw [hsame] at htell ⊢
    refine htell ?_ fun hany => ?_
    · rw [List.countP_append, h.tally, List.countP_singleton]
      simp only [not_or] at ha
      simp [Telling.counts, ha]
    · rcases hany with hany | hany
      · exact h.full hany
      · simp [href] at hany

/-! ## Counting heads -/

lemma nodup_counted (h : Recorded told holding heard id r) :
    ((told.filter Telling.counts).map Telling.pair).Nodup :=
  h.nodup.sublist (List.filter_sublist.map _)

lemma counted_subset (h : Recorded told holding heard id r) :
    (told.filter Telling.counts).map Telling.pair
      ⊆ r.topology ×ˢ [Activity.standby, Activity.completed] := by
  intro p hp
  obtain ⟨t, ht, rfl⟩ := List.mem_map.1 hp
  obtain ⟨ht, hcounts⟩ := List.mem_filter.1 ht
  refine List.mem_product.2 ⟨h.member t ht, ?_⟩
  simp only [Telling.counts, Bool.and_eq_true, Bool.or_eq_true, decide_eq_true_eq] at hcounts
  simpa [Telling.pair] using hcounts.1

/-- Twice the team was counted for a completed round, and whoever is ready once more. -/
lemma length_counted_of_completed (h : Recorded told holding heard id r)
    (hphase : r.phase = .completed) :
    ((told.filter Telling.counts).map Telling.pair).length
      = r.ready + (r.topology ×ˢ [Activity.standby, Activity.completed]).length := by
  have htally := h.tally
  rw [hphase, List.countP_eq_length_filter] at htally
  rw [List.length_map, htally, List.length_product]
  rfl

/-- **A completed round was told everything.**  Twice the team was counted, and there are only so many
members to count, each for one standby and one completion. -/
lemma told_of_completed (h : Recorded told holding heard id r) (hphase : r.phase = .completed)
    {v : NodeId} (hv : v ∈ r.topology) {a : Activity} (ha : a = .standby ∨ a = .completed) :
    (v, a) ∈ told.map Telling.pair := by
  have hlength := h.length_counted_of_completed hphase
  have hperm := (List.subperm_of_subset h.nodup_counted h.counted_subset).perm_of_length_le
    (by omega)
  have hmem := hperm.mem_iff.2 (List.mem_product.2 ⟨hv, by simpa using ha⟩)
  exact (List.filter_sublist.map _).subset hmem

lemma ready_of_completed (h : Recorded told holding heard id r) (hphase : r.phase = .completed) :
    r.ready = 0 := by
  have hlength := h.length_counted_of_completed hphase
  have hle := (List.subperm_of_subset h.nodup_counted h.counted_subset).length_le
  omega

/-- **Nobody holds a completed round.**  Its members have completed, and nobody else ever held it. -/
lemma not_holding_of_completed (h : Recorded told holding heard id r) (hphase : r.phase = .completed)
    (hteam : ∀ v, holding v = some id → v ∈ r.topology) (v : NodeId) : holding v ≠ some id := by
  intro hheld
  obtain ⟨t, ht, heq⟩ := List.mem_map.1 (h.told_of_completed hphase (hteam v hheld) (Or.inr rfl))
  obtain ⟨rfl, hcompleted⟩ := Prod.mk.inj heq
  exact h.completed t ht hcompleted hheld

lemma not_refused (h : Recorded told holding heard id r) (hready : r.ready = 0) {t : Telling}
    (ht : t ∈ told) : t.refused = false := by
  by_contra hrefused
  have hfull := h.full ⟨t, ht, by simpa using hrefused⟩
  have hsize : 0 < r.teamSize := List.length_pos_of_mem (h.member t ht)
  omega

/-- **Entering realtime**, a round was told every standby exactly if it was told no completion: the team
was counted once, and a completion took the place of a standby. -/
lemma standby_iff_of_fresh_realtime (h : Recorded told holding heard id r)
    (hphase : r.phase = .realtime) (hready : r.ready = 0) (hteam : r.topology.Nodup) :
    (∀ v ∈ r.topology, (v, Activity.standby) ∈ told.map Telling.pair) ↔
      ∀ v, (v, Activity.completed) ∉ told.map Telling.pair := by
  let counted := (told.filter Telling.counts).map Telling.pair
  let standbys := r.topology.map fun v => (v, Activity.standby)
  have hlength : counted.length = r.topology.length := by
    have htally := h.tally
    rw [hphase, hready, List.countP_eq_length_filter] at htally
    simp [counted, htally, Round.teamSize, Phase.teamsCounted]
  have htold : counted ⊆ told.map Telling.pair := (List.filter_sublist.map _).subset
  have hcounted : ∀ v a, a = .standby ∨ a = .completed → (v, a) ∈ told.map Telling.pair →
      (v, a) ∈ counted := by
    intro v a ha hmem
    obtain ⟨t, ht, heq⟩ := List.mem_map.1 hmem
    obtain ⟨-, hactivity⟩ := Prod.mk.inj heq
    refine List.mem_map.2 ⟨t, List.mem_filter.2 ⟨ht, ?_⟩, heq⟩
    simpa [Telling.counts, h.not_refused hready ht, hactivity] using ha
  constructor
  · intro hall v hv
    have hnodup : (standbys ++ [(v, Activity.completed)]).Nodup := by
      refine (hteam.map fun _ _ heq => (Prod.mk.inj heq).1).append (List.nodup_singleton _) ?_
      intro p hp hq
      obtain ⟨u, -, rfl⟩ := List.mem_map.1 hp
      simp at hq
    have hsubset : standbys ++ [(v, Activity.completed)] ⊆ counted := by
      intro p hp
      rcases List.mem_append.1 hp with hp | hp
      · obtain ⟨u, hu, rfl⟩ := List.mem_map.1 hp
        exact hcounted u _ (Or.inl rfl) (hall u hu)
      · rw [List.mem_singleton.1 hp]
        exact hcounted v _ (Or.inr rfl) hv
    have hle := (List.subperm_of_subset hnodup hsubset).length_le
    simp only [standbys, List.length_append, List.length_map, List.length_singleton, hlength] at hle
    omega
  · intro hnone v hv
    have hsubset : counted ⊆ standbys := by
      rintro ⟨u, a⟩ hp
      obtain ⟨hu, ha⟩ := List.mem_product.1 (h.counted_subset hp)
      have hcases : a = .standby ∨ a = .completed := by simpa using ha
      rcases hcases with rfl | rfl
      · exact List.mem_map_of_mem hu
      · exact absurd (htold hp) (hnone u)
    have hle : standbys.length ≤ counted.length := by simp [standbys, hlength]
    have hperm := (List.subperm_of_subset h.nodup_counted hsubset).perm_of_length_le hle
    exact htold (hperm.mem_iff.2 (List.mem_map_of_mem hv))

end Recorded

end Live

end MixRounds
