import Mathlib.Data.List.Perm.Subperm
import MixRounds.Proofs.Pool
import MixRounds.Proofs.Team.Relay

/-!
# Who can be picked

A pick is refused if and only if too few of the online nodes may be picked; otherwise it takes a team out
of the pool, and every team of eligible nodes is taken under some shuffle.  That is **`pick_law`**.

`Pool.pick` takes the first names of a shuffled list.  A pick can also be made by place: shuffle the places
of the eligible nodes, and take the nodes at the first of these places out of the online set, one after
the other (`takeEach`).  A node that is not there when its turn comes would be passed over, and the team
would be short of a member.  For distinct places of distinct online nodes that never happens
(`takeEach_eq`), so a pick by place is a pick under the shuffle that makes the same rearrangement
(`Shuffle.ofPlaces`).
-/

namespace MixRounds

/-! ## Shuffles -/

namespace Shuffle

/-- The shuffle that puts the nodes in the order of these places; a list of another length it leaves as it
is. -/
def ofPlaces (places : List Nat) : Shuffle where
  order ids := if places.Perm (List.range ids.length) then places.filterMap fun i => ids[i]? else ids
  perm ids := by
    split
    · rename_i h
      have hperm := h.filterMap fun i => ids[i]?
      rwa [Team.filterMap_getElem?_range] at hperm
    · exact .refl ids

/-- The shuffle that puts these nodes first; a list that does not have them all it leaves as it is. -/
def putFirst (team : List NodeId) : Shuffle where
  order ids := if ∀ v ∈ team, team.count v ≤ ids.count v then team ++ ids.diff team else ids
  perm ids := by
    split
    · exact List.subperm_append_diff_self_of_count_le ‹_›
    · exact .refl ids

end Shuffle

namespace Pool

/-! ## A pick by place -/

/-- The nodes at the given places of a list, taken out of a set one after the other, and what is left of
the set.  Who is not in the set is passed over. -/
def takeEach (names : List NodeId) : List Nat → List NodeId → List NodeId × List NodeId
  | [], set => ([], set)
  | i :: places, set =>
      match names[i]? with
      | none => takeEach names places set
      | some v =>
          if v ∈ set then
            (v :: (takeEach names places (without v set)).1, (takeEach names places (without v set)).2)
          else takeEach names places set

/-- **Nobody is passed over**: distinct places of distinct members of the set are taken whole. -/
lemma takeEach_eq {names : List NodeId} (hnames : names.Nodup) {places : List Nat} (hplaces : places.Nodup)
    {set : List NodeId} (hset : ∀ i ∈ places, ∀ v, names[i]? = some v → v ∈ set) :
    takeEach names places set = (places.filterMap fun i => names[i]?,
      set.filter fun v => v ∉ places.filterMap fun i => names[i]?) := by
  induction places generalizing set with
  | nil => simp [takeEach]
  | cons i rest ih =>
      obtain ⟨hi, hrest⟩ := List.nodup_cons.1 hplaces
      cases hv : names[i]? with
      | none =>
          simp only [takeEach, hv, List.filterMap_cons]
          exact ih hrest fun j hj => hset j (List.mem_cons_of_mem i hj)
      | some v =>
          have hmem : v ∈ set := hset i List.mem_cons_self v hv
          -- the nodes at the places still to come are others, and so are not taken yet
          have hlater : ∀ j ∈ rest, ∀ u, names[j]? = some u → u ∈ without v set := by
            intro j hj u hu
            refine mem_without.2 ⟨hset j (List.mem_cons_of_mem i hj) u hu, ?_⟩
            rintro rfl
            obtain ⟨hjlt, -⟩ := List.getElem?_eq_some_iff.1 hu
            have heq := (List.getElem?_inj hjlt hnames).1 (hu.trans hv.symm)
            exact hi (heq ▸ hj)
          simp only [takeEach, hv, if_pos hmem, List.filterMap_cons, ih hrest hlater]
          refine congrArg (Prod.mk _) ?_
          rw [without, List.filter_filter]
          refine List.filter_congr fun u _ => ?_
          simp [Bool.and_comm]

/-! ## What a pick comes to -/

section Pick

variable {p : Pool} {threshold n : Nat} {isDisabled : NodeId → Bool}

/-- The pool that a pick leaves behind.  A refused pick hands no pool back, and whoever made it goes on with
the one there was. -/
def afterPick (p : Pool) (threshold n : Nat) (isDisabled : NodeId → Bool) (chance : Shuffle) : Pool :=
  match p.pick threshold n isDisabled chance with
  | .ok (_, pool) => pool
  | .error _ => p

/-- These are `n` distinct nodes of the pool that were online and may be picked. -/
structure Eligible (p : Pool) (isDisabled : NodeId → Bool) (n : Nat) (team : List NodeId) : Prop where
  length : team.length = n
  nodup : team.Nodup
  online : ∀ v ∈ team, v ∈ p.online
  enabled : ∀ v ∈ team, isDisabled v = false

/-- The online nodes are those of a team and the others. -/
lemma Eligible.perm (hp : p.online.Nodup) {team : List NodeId} (h : p.Eligible isDisabled n team) :
    p.online.Perm ((p.online.filter fun v => v ∉ team) ++ team) := by
  have hteam : (p.online.filter fun v => !decide (v ∉ team)).Perm team := by
    rw [List.perm_ext_iff_of_nodup (hp.filter _) h.nodup]
    intro v
    simp only [List.mem_filter, decide_not, Bool.not_not, decide_eq_true_eq]
    exact ⟨And.right, fun hv => ⟨h.online v hv, hv⟩⟩
  exact (List.filter_append_perm _ p.online).symm.trans (hteam.append_left _)

lemma mem_eligible {v : NodeId} : v ∈ p.eligible isDisabled ↔ v ∈ p.online ∧ isDisabled v = false := by
  simp [eligible]

lemma pick_of_enough (h : max threshold n ≤ (p.eligible isDisabled).length) (chance : Shuffle) :
    p.pick threshold n isDisabled chance = .ok ((chance.order (p.eligible isDisabled)).take n,
      { p with online := p.online.filter fun v =>
          v ∉ (chance.order (p.eligible isDisabled)).take n }) := by
  rw [pick, if_neg (by omega)]

lemma pick_of_few (h : (p.eligible isDisabled).length < max threshold n) (chance : Shuffle) :
    p.pick threshold n isDisabled chance
      = .error (.poolTooSmall (p.eligible isDisabled).length threshold n) := by
  rw [pick, if_pos (by omega)]

/-- Whatever the shuffle, the first nodes are a team. -/
lemma eligible_take (hp : p.online.Nodup) (h : n ≤ (p.eligible isDisabled).length) (chance : Shuffle) :
    p.Eligible isDisabled n ((chance.order (p.eligible isDisabled)).take n) := by
  have hperm := chance.perm (p.eligible isDisabled)
  have hnodup : (p.eligible isDisabled).Nodup := hp.filter _
  have hmem : ∀ v ∈ (chance.order (p.eligible isDisabled)).take n, v ∈ p.eligible isDisabled :=
    fun v hv => hperm.mem_iff.1 (List.mem_of_mem_take hv)
  exact {
    length := by rw [List.length_take, hperm.length_eq, Nat.min_eq_left h]
    nodup := (List.take_sublist _ _).nodup (hperm.nodup_iff.2 hnodup)
    online := fun v hv => (mem_eligible.1 (hmem v hv)).1
    enabled := fun v hv => (mem_eligible.1 (hmem v hv)).2 }

/-- **What is picked is a team**, and the pool is left without it. -/
lemma eligible_of_pick (hp : p.online.Nodup) {chance : Shuffle} {team : List NodeId} {pool : Pool}
    (h : p.pick threshold n isDisabled chance = .ok (team, pool)) :
    p.Eligible isDisabled n team ∧ pool = { p with online := p.online.filter fun v => v ∉ team } := by
  rcases Nat.lt_or_ge (p.eligible isDisabled).length (max threshold n) with hfew | hmany
  · rw [pick_of_few hfew] at h
    cases h
  · rw [pick_of_enough hmany] at h
    cases h
    exact ⟨eligible_take hp (by omega) chance, rfl⟩

/-- The online nodes are those that stay and those that are picked, and nobody is both. -/
lemma perm_of_pick (hp : p.Tidy) {chance : Shuffle} {team : List NodeId} {pool : Pool}
    (h : p.pick threshold n isDisabled chance = .ok (team, pool)) :
    p.online.Perm (pool.online ++ team) ∧ ∀ v ∈ team, v ∉ pool := by
  obtain ⟨hteam, rfl⟩ := eligible_of_pick hp.online h
  exact ⟨hteam.perm hp.online, fun v hv hin => ((mem_leave hp hteam.online).1 hin).2 hv⟩

/-- **Every team can come first.** -/
lemma take_putFirst {team : List NodeId} (h : p.Eligible isDisabled n team) :
    ((Shuffle.putFirst team).order (p.eligible isDisabled)).take n = team := by
  have hcount : ∀ v ∈ team, team.count v ≤ (p.eligible isDisabled).count v := by
    intro v hv
    rw [List.count_eq_one_of_mem h.nodup hv]
    exact List.count_pos_iff.2 (mem_eligible.2 ⟨h.online v hv, h.enabled v hv⟩)
  simp only [Shuffle.putFirst, if_pos hcount]
  exact List.take_left' h.length

/-- **A pick by place is a pick.** -/
lemma pick_ofPlaces (hp : p.online.Nodup) (h : max threshold n ≤ (p.eligible isDisabled).length)
    {places : List Nat} (hplaces : places.Perm (List.range (p.eligible isDisabled).length)) :
    p.pick threshold n isDisabled (.ofPlaces places)
      = .ok ((takeEach (p.eligible isDisabled) (places.take n) p.online).1,
        { p with online := (takeEach (p.eligible isDisabled) (places.take n) p.online).2 }) := by
  have hnodup : (p.eligible isDisabled).Nodup := hp.filter _
  have hdistinct : (places.take n).Nodup :=
    (List.take_sublist n places).nodup (hplaces.nodup_iff.2 List.nodup_range)
  have honline : ∀ i ∈ places.take n, ∀ v, (p.eligible isDisabled)[i]? = some v → v ∈ p.online :=
    fun i _ v hv => (mem_eligible.1 (List.mem_of_getElem? hv)).1
  -- every place names somebody, so taking and looking up can be exchanged
  have htake : ∀ places : List Nat, (∀ i ∈ places, i < (p.eligible isDisabled).length) → ∀ n,
      (places.filterMap fun i => (p.eligible isDisabled)[i]?).take n
        = (places.take n).filterMap fun i => (p.eligible isDisabled)[i]? := by
    intro places hbound
    induction places with
    | nil => simp
    | cons i rest ih =>
        intro n
        have hi := hbound i List.mem_cons_self
        cases n with
        | zero => simp
        | succ n => simp [hi, ih fun j hj => hbound j (List.mem_cons_of_mem i hj)]
  have horder : (Shuffle.ofPlaces places).order (p.eligible isDisabled)
      = places.filterMap fun i => (p.eligible isDisabled)[i]? := if_pos hplaces
  rw [pick_of_enough h, takeEach_eq hnodup hdistinct honline, horder,
    htake places fun i hi => List.mem_range.1 (hplaces.subset hi)]

/-- **The law of picking**, for any pool whose online nodes are a set, whatever may be picked.

* Under every shuffle a pick succeeds exactly when at least `threshold` and at least `n` online nodes may be
  picked.
* Then it takes a team of `n` of them, and the pool is left without exactly these.
* Otherwise it is refused with the true number of nodes that may be picked, and the pool stays as it is.
* Every team is taken under some shuffle; and to shuffle the places of the eligible nodes and take the
  nodes at the first `n` places out of the pool one after the other is a pick under some shuffle. -/
theorem pick_law (p : Pool) (hp : p.online.Nodup) (threshold n : Nat) (isDisabled : NodeId → Bool) :
    (∀ chance, (∃ result, p.pick threshold n isDisabled chance = .ok result) ↔
      max threshold n ≤ (p.eligible isDisabled).length) ∧
    (∀ chance team pool, p.pick threshold n isDisabled chance = .ok (team, pool) →
      p.Eligible isDisabled n team ∧ p.afterPick threshold n isDisabled chance = pool ∧
        pool = { p with online := p.online.filter fun v => v ∉ team }) ∧
    (∀ chance fault, p.pick threshold n isDisabled chance = .error fault →
      fault = .poolTooSmall (p.online.countP fun v => !isDisabled v) threshold n ∧
        p.afterPick threshold n isDisabled chance = p) ∧
    (max threshold n ≤ (p.eligible isDisabled).length →
      (∀ team, p.Eligible isDisabled n team →
        ∃ chance pool, p.pick threshold n isDisabled chance = .ok (team, pool)) ∧
      ∀ places : List Nat, places.Perm (List.range (p.eligible isDisabled).length) →
        ∃ chance, p.pick threshold n isDisabled chance
          = .ok ((takeEach (p.eligible isDisabled) (places.take n) p.online).1,
            { p with online := (takeEach (p.eligible isDisabled) (places.take n) p.online).2 })) := by
  have hmany_or_few := Nat.lt_or_ge (p.eligible isDisabled).length (max threshold n)
  refine ⟨fun chance => ?_, fun chance team pool hpick => ?_, fun chance fault hpick => ?_,
    fun hmany => ⟨fun team hteam => ?_, fun places hplaces => ?_⟩⟩
  · rcases hmany_or_few with hfew | hmany
    · simp [pick_of_few hfew, Nat.not_le.2 hfew]
    · exact iff_of_true ⟨_, pick_of_enough hmany chance⟩ hmany
  · obtain ⟨hteam, hpool⟩ := eligible_of_pick hp hpick
    exact ⟨hteam, by rw [afterPick, hpick], hpool⟩
  · rcases hmany_or_few with hfew | hmany
    · have hafter : p.afterPick threshold n isDisabled chance = p := by rw [afterPick, hpick]
      rw [pick_of_few hfew] at hpick
      cases hpick
      exact ⟨by rw [eligible, List.countP_eq_length_filter], hafter⟩
    · rw [pick_of_enough hmany] at hpick
      cases hpick
  · have hpick := pick_of_enough hmany (.putFirst team)
    rw [take_putFirst hteam] at hpick
    exact ⟨_, _, hpick⟩
  · exact ⟨_, pick_ofPlaces hp hmany hplaces⟩

/-- Three nodes are online, one of them must not be picked, and two are asked for. -/
theorem pick_law_of_three :
    let p : Pool := ⟨["a", "b", "c"], ["d"]⟩
    p.online.Nodup ∧
      (∀ team, p.Eligible (· = "b") 2 team → ∃ chance pool, p.pick 1 2 (· = "b") chance = .ok (team, pool)) ∧
      (∀ chance fault, p.pick 3 2 (· = "b") chance = .error fault → fault = .poolTooSmall 2 3 2) := by
  intro p
  have hp : p.online.Nodup := by decide
  exact ⟨hp, ((pick_law p hp 1 2 _).2.2.2 (by decide)).1,
    fun chance fault h => ((pick_law p hp 3 2 _).2.2.1 chance fault h).1⟩

end Pick

end Pool

end MixRounds
