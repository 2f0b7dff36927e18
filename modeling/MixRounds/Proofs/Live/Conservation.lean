import Mathlib.Data.Nat.Find
import MixRounds.Proofs.Live.Clocks
import MixRounds.Proofs.Live.Formation
import MixRounds.Proofs.Picking
import MixRounds.Proofs.Team.Cheapest

/-!
# When forming teams loses nobody

A team is picked, gets a number, is put in relay order, and is handed over; at each of these seams a node
could be dropped or end up in two teams.  `World.Attempted` lists what one attempt comes to:

* a team is **put in flight** (`PutInFlight`): the online nodes are those that are left and its members, as
  many as a team has, each once, and in the order in which the search has put them;
* too few nodes are eligible, and nothing changes;
* the team that was picked cannot be formed, for the numbers are used up or a member's tag names no region
  (`FailsWith`), and it is **put back** (`PutBack`);
* the costs of the team that was picked overflow on the search for its order (`OverflowsOn`), the loop breaks
  down, and the team is **lost** (`Lost`): it has left the pool and is on its way nowhere.

The loop makes one attempt after the other (`World.attempts`).  Every team takes its members off the online
nodes, so after some number of teams there is an attempt that makes none, and with it the loop ends.
**`World.assemble_conserves_iff`**: all the teams together, with the nodes left, are the nodes there were, if
and only if this last attempt does not overflow.  `World.not_conserves_of_dear` is a run in which it does.
-/

namespace MixRounds

/-- A valid team is small enough to be put in order. -/
lemma Settings.teamSize_le_of_validate {s : Settings} (h : s.validate = .ok ()) :
    s.teamSize.toNat ≤ Team.maxSize := by
  by_contra hlarge
  have hbad : s.teamSize = 0 ∨ Team.maxSize < s.teamSize.toNat := Or.inr (Nat.lt_of_not_le hlarge)
  simp [Settings.validate, Settings.complaint?, hbad] at h

namespace Team

lemma regionsOf_error {tags : List String} {fault : Fault} (h : regionsOf tags = .error fault) :
    ∃ tag ∈ tags, Region.ofTag? tag = none ∧ fault = .unknownRegion tag := by
  induction tags with
  | nil => cases h
  | cons tag rest ih =>
      rw [regionsOf] at h
      split at h
      · rename_i hnone
        cases h
        exact ⟨tag, List.mem_cons_self, hnone, rfl⟩
      · split at h
        · rename_i hrest
          cases h
          obtain ⟨tag', hmem, hnone⟩ := ih hrest
          exact ⟨tag', List.mem_cons_of_mem tag hmem, hnone⟩
        · cases h

section Ordered

variable {table : Latency} {members : List (NodeId × String)} (hpos : 0 < members.length)
  (hsize : members.length ≤ maxSize)

include hpos hsize

/-- A team of the right size only needs its regions and their order. -/
lemma ordered_of_size : ordered table members =
    match regionsOf (members.map Prod.snd) with
    | .error fault => .error (.fault fault)
    | .ok regions =>
        match cheapestOrder table regions with
        | none => .error .overflow
        | some order => .ok (order.filterMap fun i => members[i]?) := by
  have hsome : ¬members.isEmpty = true := by
    rw [List.isEmpty_iff_length_eq_zero]
    exact Nat.ne_of_gt hpos
  exact (if_neg hsome).trans (if_neg (Nat.not_lt.2 hsize))

/-- Nothing is wrong with a team of the right size unless a tag names no region. -/
lemma ordered_fault {fault : Fault} (h : ordered table members = .error (.fault fault)) :
    ∃ m ∈ members, Region.ofTag? m.2 = none ∧ fault = .unknownRegion m.2 := by
  rw [ordered_of_size hpos hsize] at h
  split at h
  · rename_i hregions
    cases h
    obtain ⟨tag, htag, hnone, hfault⟩ := regionsOf_error hregions
    obtain ⟨m, hm, rfl⟩ := List.mem_map.1 htag
    exact ⟨m, hm, hnone, hfault⟩
  · split at h <;> cases h

/-- **When the search for the order of a team overflows.** -/
lemma ordered_eq_overflow_iff : ordered table members = .error .overflow ↔
    ∃ regions, regionsOf (members.map Prod.snd) = .ok regions ∧ Overflows table regions := by
  rw [ordered_of_size hpos hsize]
  cases hregions : regionsOf (members.map Prod.snd) with
  | error fault => simp
  | ok regions =>
      have hlength : regions.length = members.length := by simpa using length_regionsOf hregions
      have hne : regions ≠ [] := List.ne_nil_of_length_pos (hlength ▸ hpos)
      simp only [Except.ok.injEq, exists_eq_left', ← (surveyed_cheapestOrder table hne).1]
      cases cheapestOrder table regions <;> simp

end Ordered

end Team

namespace Live.World

variable {w w' : World} {chance : Shuffle}

/-! ## What an attempt comes to -/

/-- The team `p` was taken out of the pool of `w` and handed over, and this is all. -/
structure PutInFlight (w : World) (p : ProtoRound) (w' : World) : Prop where
  /-- The nodes that were online are those that are left and the members. -/
  online : w.shared.pool.online.Perm (w'.shared.pool.online ++ p.topology)
  apart : ∀ v ∈ p.topology, v ∉ w'.shared.pool
  offline : w'.shared.pool.offline = w.shared.pool.offline
  size : p.topology.length = w.settings.teamSize.toNat
  nodup : p.topology.Nodup
  enabled : ∀ v ∈ p.topology, w.isDisabled v = false
  /-- The members, each with its own tag, stand in the order that the search has found for them. -/
  ordered : ∃ picked, picked.Perm p.topology ∧
    Team.ordered w.latency (tagged w.shared.net.nodes picked)
      = .ok (tagged w.shared.net.nodes p.topology)
  protos : w'.protos = w.protos ++ [p]
  /-- Nothing was in flight under this number. -/
  number : w.loop.inFlight.get? p.id = none
  inFlight : w'.loop.inFlight = w.loop.inFlight.insert p.id p.topology
  reserved : w'.loop.reserved = w.loop.reserved ++ p.topology
  nodes : w'.shared.net.nodes = w.shared.net.nodes
  rounds : w'.shared.net.rounds = w.shared.net.rounds
  settings : w'.settings = w.settings

/-- Nobody has left the pool, and no team is on its way that was not before. -/
structure PutBack (w w' : World) : Prop where
  online : w'.shared.pool.online.Perm w.shared.pool.online
  offline : w'.shared.pool.offline = w.shared.pool.offline
  protos : w'.protos = w.protos
  inFlight : w'.loop.inFlight = w.loop.inFlight
  reserved : w'.loop.reserved = w.loop.reserved
  nodes : w'.shared.net.nodes = w.shared.net.nodes
  rounds : w'.shared.net.rounds = w.shared.net.rounds

/-- A team is picked that cannot be formed: the numbers are used up, or the tag of a member names no
region. -/
def FailsWith (w : World) (chance : Shuffle) (fault : Fault) : Prop :=
  ∃ picked pool,
    w.shared.pool.pick w.threshold w.settings.teamSize.toNat w.isDisabled chance = .ok (picked, pool) ∧
    ((w.mapShared fun s => { s with pool := pool }).formTeam picked).1 = .error (.fault fault) ∧
    ((∃ reason, fault = .roundIds reason) ∨
      ∃ v ∈ picked, ∃ node, w.shared.net.nodes.get? v = some node ∧
        Region.ofTag? node.region = none ∧ fault = .unknownRegion node.region)

/-- The nodes `picked` were taken out of the pool of `w`, and this is all: they are on no team's way. -/
structure Lost (w : World) (picked : List NodeId) (w' : World) : Prop where
  online : w.shared.pool.online.Perm (w'.shared.pool.online ++ picked)
  apart : ∀ v ∈ picked, v ∉ w'.shared.pool
  offline : w'.shared.pool.offline = w.shared.pool.offline
  size : picked.length = w.settings.teamSize.toNat
  nodup : picked.Nodup
  protos : w'.protos = w.protos
  inFlight : w'.loop.inFlight = w.loop.inFlight
  reserved : w'.loop.reserved = w.loop.reserved
  nodes : w'.shared.net.nodes = w.shared.net.nodes
  rounds : w'.shared.net.rounds = w.shared.net.rounds

/-- A team is picked whose costs overflow: there is a number for it, the tags of its members name regions,
and one of its orders leaps. -/
def OverflowsOn (w : World) (chance : Shuffle) (picked : List NodeId) : Prop :=
  ∃ pool id regions,
    w.shared.pool.pick w.threshold w.settings.teamSize.toNat w.isDisabled chance = .ok (picked, pool) ∧
    w.shared.net.reserve.1 = .ok id ∧
    Team.regionsOf ((tagged w.shared.net.nodes picked).map Prod.snd) = .ok regions ∧
    Team.Overflows w.latency regions

/-- What an attempt at a team comes to. -/
inductive Attempted (w : World) (chance : Shuffle) : World → Attempt → Prop
  | formed {p : ProtoRound} {w' : World} (hformed : PutInFlight w p w') : Attempted w chance w' .assembled
  | refused (hfew : w.eligible < w.need) : Attempted w chance w .givenUp
  | failed {fault : Fault} {w' : World} (hfails : w.FailsWith chance fault) (hback : PutBack w w')
      (hconf : fault.isConfiguration = true)
      (hagain : w.loop.failures + 1 < w.settings.maxAssemblyFailures.toNat) :
      Attempted w chance w' .givenUp
  | fatal {fault : Fault} {w' : World} (hfails : w.FailsWith chance fault) (hback : PutBack w w')
      (hlast : fault.isConfiguration = true →
        w.settings.maxAssemblyFailures.toNat ≤ w.loop.failures + 1) :
      Attempted w chance w' (.fatal (.fault fault))
  | overflowed {picked : List NodeId} {w' : World} (hover : w.OverflowsOn chance picked)
      (hlost : Lost w picked w') : Attempted w chance w' (.fatal .overflow)

lemma Attempted.team (h : Attempted w chance w' .assembled) : ∃ p, PutInFlight w p w' := by
  cases h with
  | formed hformed => exact ⟨_, hformed⟩

/-- Whoever is lost has not been put back. -/
lemma Lost.not_putBack {picked : List NodeId} (h : Lost w picked w')
    (hteam : 0 < w.settings.teamSize.toNat) : ¬ PutBack w w' := by
  intro hback
  have hbefore := h.online.length_eq
  have hsame := hback.online.length_eq
  have hsize := h.size
  rw [List.length_append] at hbefore
  omega

/-- **An attempt that makes no team takes nobody**, unless it overflows. -/
lemma Attempted.putBack_iff {attempt : Attempt} (h : Attempted w chance w' attempt)
    (hteam : 0 < w.settings.teamSize.toNat) (hnone : attempt ≠ .assembled) :
    PutBack w w' ↔ attempt ≠ .fatal .overflow := by
  cases h with
  | formed => exact absurd rfl hnone
  | refused => simpa using ⟨.refl _, rfl, rfl, rfl, rfl, rfl, rfl⟩
  | failed _ hback => simpa using hback
  | fatal _ hback => simpa using hback
  | overflowed _ hlost => simpa using hlost.not_putBack hteam

/-- If the loop is not to end, then the last attempt found too few nodes, or it failed on the
configuration. -/
lemma Attempted.excused {attempt : Attempt} (h : Attempted w chance w' attempt)
    (hnone : attempt ≠ .assembled) (hgoes : ∀ setback, attempt ≠ .fatal setback) :
    w'.eligible < w'.need ∨ ∃ fault, fault.isConfiguration = true ∧ w.FailsWith chance fault := by
  cases h with
  | formed => exact absurd rfl hnone
  | refused hfew => exact Or.inl hfew
  | failed hfails _ hconf => exact Or.inr ⟨_, hconf, hfails⟩
  | fatal | overflowed => exact absurd rfl (hgoes _)

/-- An attempt that makes no team sends none. -/
lemma Attempted.protos {attempt : Attempt} (h : Attempted w chance w' attempt)
    (hnone : attempt ≠ .assembled) : w'.protos = w.protos := by
  cases h with
  | formed => exact absurd rfl hnone
  | refused => rfl
  | failed _ hback | fatal _ hback => exact hback.protos
  | overflowed _ hlost => exact hlost.protos

lemma assemblyFailed_snd (w : World) (picked : List NodeId) (fault : Fault) :
    (w.assemblyFailed picked fault).2 = if fault.isConfiguration = true ∧
      w.loop.failures + 1 < w.settings.maxAssemblyFailures.toNat then .givenUp
      else .fatal (.fault fault) := by
  rw [assemblyFailed]
  dsimp only
  cases hconf : fault.isConfiguration with
  | false => simp
  | true =>
      simp only [Bool.not_true, Bool.false_eq_true, if_false, true_and]
      split <;> rename_i hmax
      · exact (if_neg (Nat.not_lt.2 hmax)).symm
      · exact (if_pos (Nat.lt_of_not_le hmax)).symm

/-- The failure is counted and noted, and the picked nodes go to the pool. -/
lemma assemblyFailed_frame (w : World) (picked : List NodeId) (fault : Fault) :
    let w' := (w.assemblyFailed picked fault).1
    w'.shared.pool = picked.foldl Pool.add w.shared.pool ∧ w'.shared.net = w.shared.net ∧
      w'.protos = w.protos ∧ w'.loop.inFlight = w.loop.inFlight ∧
      w'.loop.reserved = w.loop.reserved := by
  rw [assemblyFailed]
  dsimp only
  split
  · exact ⟨rfl, rfl, rfl, rfl, rfl⟩
  · split <;> exact ⟨rfl, rfl, rfl, rfl, rfl⟩

/-- Members with their own tags are told by their names. -/
lemma tagged_map_fst {nodes : Table NodeId Node} {picked : List NodeId} {members : List (NodeId × String)}
    (h : members.Perm (tagged nodes picked)) : tagged nodes (members.map Prod.fst) = members := by
  rw [tagged, List.map_map]
  refine (List.map_congr_left fun m hm => ?_).trans (List.map_id members)
  obtain ⟨v, -, rfl⟩ := List.mem_map.1 (h.mem_iff.1 hm)
  rfl

lemma ordered_of_formTeam {picked : List NodeId} {p : ProtoRound} (h : (w.formTeam picked).1 = .ok p) :
    Team.ordered w.latency (tagged w.shared.net.nodes picked)
      = .ok (tagged w.shared.net.nodes p.topology) := by
  rw [formTeam] at h
  cases hdrawn : w.shared.net.reserve.1 with
  | error fault => simp [hdrawn] at h
  | ok id =>
      simp only [hdrawn] at h
      split at h
      · cases h
      · rename_i members hmembers
        cases h
        have hmembers : Team.ordered w.latency (tagged w.shared.net.nodes picked) = .ok members := hmembers
        dsimp only
        rw [tagged_map_fst (Team.ordered_perm hmembers)]
        exact hmembers

/-- A pick has the size of a team, which is one for which the search is made. -/
lemma fits_of_pick (hvalid : w.settings.validate = .ok ()) {picked : List NodeId} {pool : Pool}
    (hpick : w.shared.pool.pick w.threshold w.settings.teamSize.toNat w.isDisabled chance
      = .ok (picked, pool)) : 0 < picked.length ∧ picked.length ≤ Team.maxSize := by
  rw [Pool.length_of_pick hpick]
  exact ⟨Settings.teamSize_pos_of_validate hvalid, Settings.teamSize_le_of_validate hvalid⟩

section FormTeam

variable {picked : List NodeId} (hpos : 0 < picked.length) (hsize : picked.length ≤ Team.maxSize)

include hpos hsize

/-- Why a team of the right size cannot be formed. -/
lemma cause_of_formTeam {fault : Fault} (h : (w.formTeam picked).1 = .error (.fault fault)) :
    (∃ reason, fault = .roundIds reason) ∨ ∃ v ∈ picked,
      Region.ofTag? (((w.shared.net.nodes.get? v).map Node.region).getD "") = none ∧
        fault = .unknownRegion (((w.shared.net.nodes.get? v).map Node.region).getD "") := by
  rw [formTeam] at h
  cases hdrawn : w.shared.net.reserve.1 with
  | error fault' =>
      simp only [hdrawn] at h
      cases h
      simp only [Network.reserve, RoundCounter.reserve] at hdrawn
      split at hdrawn <;> cases hdrawn
      exact Or.inl ⟨_, rfl⟩
  | ok id =>
      simp only [hdrawn] at h
      split at h
      · rename_i hfault
        cases h
        have hlength : (tagged w.shared.net.nodes picked).length = picked.length := List.length_map _
        obtain ⟨m, hm, hnone, heq⟩ :=
          Team.ordered_fault (hlength.symm ▸ hpos) (hlength.symm ▸ hsize) hfault
        obtain ⟨v, hv, rfl⟩ := List.mem_map.1 hm
        exact Or.inr ⟨v, hv, hnone, heq⟩
      · cases h

/-- When the costs of a team of the right size overflow. -/
lemma formTeam_eq_overflow_iff : (w.formTeam picked).1 = .error .overflow ↔
    ∃ id regions, w.shared.net.reserve.1 = .ok id ∧
      Team.regionsOf ((tagged w.shared.net.nodes picked).map Prod.snd) = .ok regions ∧
      Team.Overflows w.latency regions := by
  have hlength : (tagged w.shared.net.nodes picked).length = picked.length := List.length_map _
  have hiff := @Team.ordered_eq_overflow_iff w.latency (tagged w.shared.net.nodes picked)
    (hlength.symm ▸ hpos) (hlength.symm ▸ hsize)
  rw [formTeam]
  cases hdrawn : w.shared.net.reserve.1 with
  | error fault => simp [hdrawn]
  | ok id =>
      have hnodes : w.shared.net.reserve.2.nodes = w.shared.net.nodes := by rw [Network.reserve_snd]
      simp only [hdrawn, hnodes, Except.ok.injEq, exists_and_left, exists_eq_left', ← hiff]
      split <;> rename_i hordered <;> simp [hordered]

end FormTeam

section Picked

variable {picked : List NodeId} {pool : Pool} {net : Network}

/-- Of the network only the counter moves on. -/
lemma net_of_formTeam {result : Except Setback ProtoRound}
    (hform : (w.mapShared fun s => { s with pool := pool }).formTeam picked = (result, net)) :
    net = { w.shared.net with counter := ⟨w.shared.net.counter.next + 1⟩ } :=
  (congrArg Prod.snd hform).symm.trans (formTeam_spec _ picked).1

/-- Picked nodes that do not make a team are put back. -/
lemma putBack_of_formTeam (hr : w.roster.Sound) {fault : Fault}
    (hpick : w.shared.pool.pick w.threshold w.settings.teamSize.toNat w.isDisabled chance
      = .ok (picked, pool))
    (hform : (w.mapShared fun s => { s with pool := pool }).formTeam picked
      = (.error (.fault fault), net)) :
    PutBack w (((w.mapShared fun s => { s with pool := pool }).mapShared fun s =>
      { s with net := net }).assemblyFailed picked fault).1 := by
  obtain ⟨hteam, -⟩ := Pool.eligible_of_pick hr.tidy.online hpick
  obtain ⟨hperm, hout⟩ := Pool.perm_of_pick hr.tidy hpick
  have hoffline := Pool.offline_of_pick hpick
  obtain ⟨hpool, hnet, hprotos, hflight, hreserved⟩ := assemblyFailed_frame
    ((w.mapShared fun s => { s with pool := pool }).mapShared fun s => { s with net := net }) picked fault
  obtain rfl := net_of_formTeam hform
  have hback := hpool.trans (Pool.foldl_add_of_not_mem hteam.nodup hout)
  exact {
    online := by
      rw [hback]
      exact hperm.symm
    offline := by
      rw [hback]
      exact hoffline
    protos := hprotos
    inFlight := hflight
    reserved := hreserved
    nodes := by
      rw [hnet]
      rfl
    rounds := by
      rw [hnet]
      rfl }

lemma failsWith_of_formTeam (hr : w.roster.Sound) (hvalid : w.settings.validate = .ok ()) {fault : Fault}
    (hpick : w.shared.pool.pick w.threshold w.settings.teamSize.toNat w.isDisabled chance
      = .ok (picked, pool))
    (hform : (w.mapShared fun s => { s with pool := pool }).formTeam picked
      = (.error (.fault fault), net)) :
    w.FailsWith chance fault := by
  obtain ⟨hteam, -⟩ := Pool.eligible_of_pick hr.tidy.online hpick
  obtain ⟨hpos, hsize⟩ := fits_of_pick hvalid hpick
  have herror := congrArg Prod.fst hform
  refine ⟨picked, pool, hpick, herror, (cause_of_formTeam hpos hsize herror).imp_right ?_⟩
  rintro ⟨v, hv, hnone, hfault⟩
  obtain ⟨node, hnode⟩ := Table.mem_keys_iff.1 (hr.pool_known v (Or.inl (hteam.online v hv)))
  refine ⟨v, hv, node, hnode, ?_⟩
  simpa [mapShared, hnode] using And.intro hnone hfault

/-- Picked nodes whose costs overflow are lost. -/
lemma lost_of_formTeam (hr : w.roster.Sound)
    (hpick : w.shared.pool.pick w.threshold w.settings.teamSize.toNat w.isDisabled chance
      = .ok (picked, pool))
    (hform : (w.mapShared fun s => { s with pool := pool }).formTeam picked = (.error .overflow, net)) :
    Lost w picked ((w.mapShared fun s => { s with pool := pool }).mapShared fun s =>
      { s with net := net }) := by
  obtain ⟨hteam, -⟩ := Pool.eligible_of_pick hr.tidy.online hpick
  obtain ⟨honline, hout⟩ := Pool.perm_of_pick hr.tidy hpick
  obtain rfl := net_of_formTeam hform
  exact {
    online := honline
    apart := hout
    offline := Pool.offline_of_pick hpick
    size := hteam.length
    nodup := hteam.nodup
    protos := rfl
    inFlight := rfl
    reserved := rfl
    nodes := rfl
    rounds := rfl }

/-- Picked nodes that make a team are put in flight. -/
lemma putInFlight_of_formTeam (hr : w.roster.Sound) (hrun : w.handsOut = true) {p : ProtoRound}
    (hpick : w.shared.pool.pick w.threshold w.settings.teamSize.toNat w.isDisabled chance
      = .ok (picked, pool))
    (hform : (w.mapShared fun s => { s with pool := pool }).formTeam picked = (.ok p, net)) :
    PutInFlight w p (((w.mapShared fun s => { s with pool := pool }).mapShared fun s =>
      { s with net := net }).teamFormed p) := by
  obtain ⟨hteam, -⟩ := Pool.eligible_of_pick hr.tidy.online hpick
  obtain ⟨honline, hout⟩ := Pool.perm_of_pick hr.tidy hpick
  have hspec := (formTeam_spec (w.mapShared fun s => { s with pool := pool }) picked).2
  have hok := congrArg Prod.fst hform
  obtain rfl := net_of_formTeam hform
  rcases hspec with ⟨fault, herror, -⟩ | ⟨-, hspec⟩
  · exact absurd (hok.symm.trans herror) (by simp)
  obtain ⟨hperm, hid⟩ := hspec p hok
  have hmem : ∀ v ∈ p.topology, v ∈ picked := fun v hv => hperm.mem_iff.1 hv
  have hnodup : p.topology.Nodup := hperm.nodup_iff.2 hteam.nodup
  exact {
    online := honline.trans (hperm.symm.append_left _)
    apart := fun v hv => hout v (hmem v hv)
    offline := Pool.offline_of_pick hpick
    size := hperm.length_eq.trans hteam.length
    nodup := hnodup
    enabled := fun v hv => hteam.enabled v (hmem v hv)
    ordered := ⟨picked, hperm.symm, ordered_of_formTeam hok⟩
    protos := rfl
    number := (hr.next_unused hrun hid).1
    inFlight := rfl
    reserved := Pool.foldl_including_of_not_mem hnodup fun v hv =>
      hr.pool_unreserved v (Or.inl (hteam.online v (hmem v hv)))
    nodes := rfl
    rounds := rfl
    settings := rfl }

end Picked

/-- **When an attempt overflows.** -/
lemma assembleOne_eq_overflow_iff (hvalid : w.settings.validate = .ok ()) :
    (w.assembleOne chance).2 = .fatal .overflow ↔ ∃ picked, w.OverflowsOn chance picked := by
  rw [assembleOne]
  cases hpick : w.shared.pool.pick w.threshold w.settings.teamSize.toNat w.isDisabled chance with
  | error fault =>
      have hnone : ¬ ∃ picked, w.OverflowsOn chance picked := by
        rintro ⟨picked, pool, id, regions, hpicked, -⟩
        cases hpick.symm.trans hpicked
      dsimp only
      split <;> simpa using hnone
  | ok result =>
      obtain ⟨picked, pool⟩ := result
      obtain ⟨hpos, hsize⟩ := fits_of_pick hvalid hpick
      have hform := formTeam_eq_overflow_iff (w := w.mapShared fun s => { s with pool := pool })
        hpos hsize
      have hover : (∃ picked, w.OverflowsOn chance picked) ↔
          ((w.mapShared fun s => { s with pool := pool }).formTeam picked).1 = .error .overflow := by
        rw [hform]
        constructor
        · rintro ⟨picked', pool', id, regions, hpicked, hrest⟩
          obtain ⟨rfl, rfl⟩ := Prod.mk.inj (Except.ok.inj (hpick.symm.trans hpicked))
          exact ⟨id, regions, hrest⟩
        · rintro ⟨id, regions, hrest⟩
          exact ⟨picked, pool, id, regions, hpick, hrest⟩
      rw [hover]
      dsimp only
      split <;> rename_i hmade <;> rw [hmade]
      · rw [assemblyFailed_snd]
        split <;> simp
      · simp
      · simp

/-- **What one attempt comes to**: a team is put in flight; or there are too few nodes; or the team that was
picked is put back; or it is lost. -/
theorem attempted (hr : w.roster.Sound) (hrun : w.handsOut = true)
    (hvalid : w.settings.validate = .ok ()) (chance : Shuffle) :
    Attempted w chance (w.assembleOne chance).1 (w.assembleOne chance).2 := by
  rw [assembleOne]
  cases hpick : w.shared.pool.pick w.threshold w.settings.teamSize.toNat w.isDisabled chance with
  | error fault =>
      have hfew := eligible_lt_need_of_pick hpick
      simp only [Pool.pick] at hpick
      split at hpick <;> cases hpick
      exact .refused hfew
  | ok result =>
      obtain ⟨picked, pool⟩ := result
      dsimp only
      split
      · rename_i fault net hform
        have hfails := failsWith_of_formTeam hr hvalid hpick hform
        have hback := putBack_of_formTeam hr hpick hform
        have hresult := assemblyFailed_snd ((w.mapShared fun s => { s with pool := pool }).mapShared fun s =>
          { s with net := net }) picked fault
        rw [hresult]
        split <;> rename_i hagain
        · exact .failed hfails hback hagain.1 hagain.2
        · exact .fatal hfails hback fun hconf => Nat.le_of_not_lt fun hlt => hagain ⟨hconf, hlt⟩
      · rename_i net hform
        obtain ⟨hpos, hsize⟩ := fits_of_pick hvalid hpick
        obtain ⟨id, regions, hover⟩ :=
          (formTeam_eq_overflow_iff hpos hsize).1 (congrArg Prod.fst hform)
        exact .overflowed ⟨pool, id, regions, hpick, hover⟩ (lost_of_formTeam hr hpick hform)
      · rename_i p net hform
        exact .formed (putInFlight_of_formTeam hr hrun hpick hform)

/-! ## One attempt after the other -/

/-- The state after so many attempts, each with its own chance. -/
def attempts (chance : Nat → Shuffle) (w : World) : Nat → World
  | 0 => w
  | k + 1 => ((w.attempts chance k).assembleOne (chance k)).1

/-- What the attempt of this number comes to. -/
def outcome (chance : Nat → Shuffle) (w : World) (k : Nat) : Attempt :=
  ((w.attempts chance k).assembleOne (chance k)).2

/-- The setback with which an attempt ends the loop. -/
def Attempt.setback? : Attempt → Option Setback
  | .fatal setback => some setback
  | _ => none

section Attempts

variable {chance : Nat → Shuffle} {n : Nat}

lemma attempts_succ (chance : Nat → Shuffle) (w : World) (k : Nat) : w.attempts chance (k + 1)
    = (w.assembleOne (chance 0)).1.attempts (fun i => chance (i + 1)) k := by
  induction k with
  | zero => rfl
  | succ k ih => rw [attempts, ih, attempts]

lemma outcome_succ (chance : Nat → Shuffle) (w : World) (k : Nat) : w.outcome chance (k + 1)
    = (w.assembleOne (chance 0)).1.outcome (fun i => chance (i + 1)) k := by
  rw [outcome, attempts_succ, outcome]

/-- The loop goes on for as long as attempts make teams, and ends with the first that does not. -/
lemma assembleFrom_eq {fuel : Nat} (hfuel : n < fuel)
    (hteams : ∀ k < n, w.outcome chance k = .assembled) (hlast : w.outcome chance n ≠ .assembled) :
    assembleFrom fuel chance w = (w.attempts chance (n + 1), (w.outcome chance n).setback?) := by
  obtain ⟨fuel, rfl⟩ : ∃ m, fuel = m + 1 := ⟨fuel - 1, by omega⟩
  rcases hone : w.assembleOne (chance 0) with ⟨w', attempt⟩
  induction n generalizing fuel chance w w' attempt with
  | zero =>
      simp only [outcome, attempts, hone] at hlast ⊢
      cases attempt with
      | assembled => exact absurd rfl hlast
      | givenUp => simp [assembleFrom, hone, Attempt.setback?]
      | fatal setback => simp [assembleFrom, hone, Attempt.setback?]
  | succ n ih =>
      obtain ⟨fuel, rfl⟩ : ∃ m, fuel = m + 1 := ⟨fuel - 1, by omega⟩
      obtain rfl : attempt = .assembled := by simpa [outcome, attempts, hone] using hteams 0 (Nat.succ_pos n)
      rw [assembleFrom, hone]
      rw [outcome_succ, hone] at hlast
      rw [attempts_succ, outcome_succ, hone]
      refine ih (fun k hk => ?_) hlast fuel (Nat.lt_of_succ_lt_succ hfuel) _ _ rfl
      have hnext := hteams (k + 1) (Nat.succ_lt_succ hk)
      rwa [outcome_succ, hone] at hnext

/-- As long as attempts make teams, the loop can go on. -/
lemma sound_attempts (hr : w.roster.Sound) (hrun : w.handsOut = true)
    (hteams : ∀ k < n, w.outcome chance k = .assembled) :
    (w.attempts chance n).roster.Sound ∧ (w.attempts chance n).handsOut = true ∧
      (w.attempts chance n).settings = w.settings := by
  induction n with
  | zero => exact ⟨hr, hrun, rfl⟩
  | succ n ih =>
      obtain ⟨hsound, hgoes, hsettings⟩ := ih fun k hk => hteams k (Nat.lt_succ_of_lt hk)
      obtain ⟨hgoes', -, hsound'⟩ := assembleOne_sound hsound hgoes (chance n)
      have hmade : ((w.attempts chance n).assembleOne (chance n)).2 = .assembled :=
        hteams n (Nat.lt_succ_self n)
      refine ⟨hsound' (by simp [hmade]), hgoes', ?_⟩
      exact (congrArg Conditions.settings (conditions_assembleOne _ _)).trans hsettings

lemma attempted_of_run (hr : w.roster.Sound) (hrun : w.handsOut = true)
    (hvalid : w.settings.validate = .ok ()) (hteams : ∀ k < n, w.outcome chance k = .assembled) :
    Attempted (w.attempts chance n) (chance n) (w.attempts chance (n + 1)) (w.outcome chance n) := by
  obtain ⟨hsound, hgoes, hsettings⟩ := sound_attempts hr hrun hteams
  exact attempted hsound hgoes (hsettings ▸ hvalid) (chance n)

/-- **The teams are accounted for**: each was put in flight by its attempt, and they and the nodes left are the
nodes there were. -/
structure Made (chance : Nat → Shuffle) (w : World) (teams : List ProtoRound) : Prop where
  each : ∀ k p, teams[k]? = some p → PutInFlight (w.attempts chance k) p (w.attempts chance (k + 1))
  protos : (w.attempts chance teams.length).protos = w.protos ++ teams
  online : w.shared.pool.online.Perm
    ((w.attempts chance teams.length).shared.pool.online ++ teams.flatMap ProtoRound.topology)
  length : w.shared.pool.online.length = (w.attempts chance teams.length).shared.pool.online.length
    + teams.length * w.settings.teamSize.toNat

lemma made_nil (chance : Nat → Shuffle) (w : World) : w.Made chance [] :=
  ⟨by simp, by simp [attempts], by simp [attempts], by simp [attempts]⟩

/-- One more team. -/
lemma Made.snoc {teams : List ProtoRound} (h : w.Made chance teams) {p : ProtoRound}
    (hsettings : (w.attempts chance teams.length).settings = w.settings)
    (hformed : PutInFlight (w.attempts chance teams.length) p (w.attempts chance (teams.length + 1))) :
    w.Made chance (teams ++ [p]) := by
  have hlength : (teams ++ [p]).length = teams.length + 1 := List.length_append
  refine ⟨fun k q hq => ?_, ?_, ?_, ?_⟩
  · rw [List.getElem?_append] at hq
    split at hq
    · exact h.each k q hq
    · rename_i hk
      obtain ⟨hlast, rfl⟩ := List.getElem?_eq_some_iff.1 hq
      have hzero : k - teams.length = 0 := by simpa using hlast
      obtain rfl : k = teams.length := by omega
      simpa using hformed
  · rw [hlength, hformed.protos, h.protos, List.append_assoc]
  · rw [hlength, List.flatMap_append, List.flatMap_singleton]
    refine (h.online.trans (hformed.online.append_right _)).trans ?_
    rw [List.append_assoc]
    exact List.perm_append_comm.append_left _
  · have hone := hformed.online.length_eq
    rw [List.length_append, hformed.size, hsettings] at hone
    rw [hlength, h.length, hone, Nat.succ_mul]
    omega

lemma exists_made (hr : w.roster.Sound) (hrun : w.handsOut = true)
    (hvalid : w.settings.validate = .ok ()) (hteams : ∀ k < n, w.outcome chance k = .assembled) :
    ∃ teams, teams.length = n ∧ w.Made chance teams := by
  induction n with
  | zero => exact ⟨[], rfl, made_nil chance w⟩
  | succ n ih =>
      have hbefore : ∀ k < n, w.outcome chance k = .assembled :=
        fun k hk => hteams k (Nat.lt_succ_of_lt hk)
      obtain ⟨teams, rfl, hmade⟩ := ih hbefore
      have hattempt := attempted_of_run hr hrun hvalid hbefore
      rw [hteams teams.length (Nat.lt_succ_self _)] at hattempt
      obtain ⟨p, hformed⟩ := hattempt.team
      exact ⟨teams ++ [p], List.length_append, hmade.snoc (sound_attempts hr hrun hbefore).2.2 hformed⟩

/-- Sooner or later an attempt makes no team. -/
lemma exists_last (hr : w.roster.Sound) (hrun : w.handsOut = true)
    (hvalid : w.settings.validate = .ok ()) (chance : Nat → Shuffle) :
    ∃ n, (∀ k < n, w.outcome chance k = .assembled) ∧
      w.outcome chance n ≠ .assembled := by
  have hsome : ∃ n, w.outcome chance n ≠ .assembled := by
    by_contra hall
    have hteams : ∀ k < w.shared.pool.online.length + 1,
        w.outcome chance k = .assembled :=
      fun k _ => by_contra fun h => hall ⟨k, h⟩
    obtain ⟨teams, hmany, hmade⟩ := exists_made hr hrun hvalid hteams
    have hlength := hmany ▸ hmade.length
    have hpos := Nat.le_mul_of_pos_right (w.shared.pool.online.length + 1)
      (Settings.teamSize_pos_of_validate hvalid)
    omega
  classical
  exact ⟨Nat.find hsome, fun k hk => by_contra fun h => Nat.find_min hsome hk h, Nat.find_spec hsome⟩

/-- What forming teams comes to, if these are the teams. -/
structure Assembles (chance : Nat → Shuffle) (w : World) (teams : List ProtoRound) : Prop where
  /-- Every attempt but the last has put its team in flight. -/
  each : ∀ k p, teams[k]? = some p → PutInFlight (w.attempts chance k) p (w.attempts chance (k + 1))
  /-- The last one has made no team. -/
  ends : w.outcome chance teams.length ≠ .assembled
  attempted : Attempted (w.attempts chance teams.length) (chance teams.length)
    (w.attempts chance (teams.length + 1)) (w.outcome chance teams.length)
  result : w.assemble chance
    = (w.attempts chance (teams.length + 1), (w.outcome chance teams.length).setback?)
  protos : (w.assemble chance).1.protos = w.protos ++ teams
  /-- If the loop goes on, no further team can be made, or the last attempt failed on the configuration. -/
  excused : (w.assemble chance).2 = none →
    (w.assemble chance).1.eligible < (w.assemble chance).1.need ∨
      ∃ fault, fault.isConfiguration = true ∧
        (w.attempts chance teams.length).FailsWith (chance teams.length) fault

/-- The forming of these teams has lost nobody. -/
structure Conserves (chance : Nat → Shuffle) (w : World) (teams : List ProtoRound) : Prop where
  /-- It has a result, good or bad. -/
  returns : (w.assemble chance).2 ≠ some .overflow
  /-- Nobody was taken in the last attempt. -/
  back : PutBack (w.attempts chance teams.length) (w.attempts chance (teams.length + 1))
  /-- All in all the online nodes are those that are left and the members of the teams. -/
  online : w.shared.pool.online.Perm
    ((w.assemble chance).1.shared.pool.online ++ teams.flatMap ProtoRound.topology)

/-- The last attempt at a team overflows. -/
def Overflows (chance : Nat → Shuffle) (w : World) (teams : List ProtoRound) : Prop :=
  ∃ picked, (w.attempts chance teams.length).OverflowsOn (chance teams.length) picked

lemma assembles (hr : w.roster.Sound) (hrun : w.handsOut = true)
    (hvalid : w.settings.validate = .ok ()) (chance : Nat → Shuffle) :
    ∃ teams, w.Assembles chance teams ∧ (w.Conserves chance teams ↔ ¬ w.Overflows chance teams) := by
  obtain ⟨n, hteams, hlast⟩ := exists_last hr hrun hvalid chance
  obtain ⟨teams, rfl, hmade⟩ := exists_made hr hrun hvalid hteams
  have hattempt := attempted_of_run hr hrun hvalid hteams
  have hsettings := (sound_attempts hr hrun hteams).2.2
  have hteam := Settings.teamSize_pos_of_validate hvalid
  have hfuel : teams.length < w.shared.pool.online.length + 1 := by
    have hpos := Nat.le_mul_of_pos_right teams.length hteam
    have hlength := hmade.length
    omega
  have hresult : w.assemble chance = _ := assembleFrom_eq hfuel hteams hlast
  have hprotos : (w.attempts chance (teams.length + 1)).protos
      = (w.attempts chance teams.length).protos := hattempt.protos hlast
  have hback := hattempt.putBack_iff (hsettings ▸ hteam) hlast
  have hover : w.outcome chance teams.length = .fatal .overflow ↔ w.Overflows chance teams :=
    assembleOne_eq_overflow_iff (hsettings ▸ hvalid)
  refine ⟨teams, ⟨hmade.each, hlast, hattempt, hresult, ?_, fun hnone => ?_⟩, ?_⟩
  · rw [hresult]
    exact hprotos.trans hmade.protos
  · rw [hresult] at hnone ⊢
    refine hattempt.excused hlast fun setback hfatal => ?_
    simp [hfatal, Attempt.setback?] at hnone
  · rw [← hover]
    refine ⟨fun h => hback.1 h.back, fun hfits => ⟨?_, hback.2 hfits, ?_⟩⟩
    · rw [hresult]
      cases hend : w.outcome chance teams.length with
      | assembled | givenUp => simp [Attempt.setback?]
      | fatal setback => simpa [Attempt.setback?, hend] using hfits
    · rw [hresult]
      exact hmade.online.trans ((hback.2 hfits).online.symm.append_right _)

end Attempts

/-- **When forming teams conserves the nodes.**  In every reachable state of a running loop, also in the
middle of a turn, and whatever is picked, the loop makes a number of teams and one last attempt, and then it
ends.

* Every attempt but the last puts one team in flight: as many distinct members as a team has, which are gone
  from the online nodes; nobody else is.
* The last attempt leaves the pool, the reserved nodes and the teams in flight as they were, and the forming
  has a result, if and only if the costs of the team that was picked do not overflow.  If they do, then the
  loop breaks down, and the team that was picked is lost.
* If the loop goes on, then fewer nodes are eligible than a pick needs, or the team that was picked has a
  member whose tag names no region. -/
theorem assemble_conserves_iff {settings : Settings} (hvalid : settings.validate = .ok ())
    (latency : Latency) (isDisabled : NodeId → Bool) (wall : Instant) {net : Network} (hidle : net.Idle)
    (moves : List Move) {w v : World} (hw : (create settings latency isDisabled net wall).run moves = w)
    (hrunning : w.isRunning = true)
    (hv : v = w ∨ ∃ source message w', w.take? source = some (message, w') ∧ v = w'.process message)
    (chance : Nat → Shuffle) :
    ∃ teams, v.Assembles chance teams ∧ (v.Conserves chance teams ↔ ¬ v.Overflows chance teams) := by
  have hr : w.roster.Sound := hw ▸ run_sound (create_sound settings latency isDisabled wall hidle) moves
  have hsettings : w.settings = settings := by
    rw [← hw, settings_run]
    rfl
  have hrun := handsOut_of_isRunning hrunning
  rcases hv with rfl | ⟨source, message, w', htake, rfl⟩
  · exact assembles hr hrun (hsettings ▸ hvalid) chance
  · refine assembles (process_sound hr htake) ?_ ?_ chance
    · rwa [handsOut, stage_process, loop_take? htake]
    · rwa [process_eq, take?_eq htake, hsettings]

/-- Two nodes wait, and the loop takes up the report of the second. -/
theorem assemble_conserves_of_two :
    let moves := .launch :: reporting "a" .waiting ++ [.poll 0 "b" .waiting]
    let w := (small ["a", "b"]).run moves
    let v := ((w.take? .updates).map fun m => m.2.process m.1).getD w
    (small ["a", "b"]).settings.validate = .ok () ∧ (smallNetwork ["a", "b"]).Idle ∧ w.isRunning = true ∧
      v.shared.pool.online = ["a", "b"] ∧ ∃ teams, v.Assembles (fun _ => .still) teams ∧
        (v.Conserves (fun _ => .still) teams ↔ ¬ v.Overflows (fun _ => .still) teams) ∧
        teams.map ProtoRound.topology = [["a", "b"]] := by
  intro moves w v
  have hvalid : (small ["a", "b"]).settings.validate = .ok () := by decide +kernel
  have hrunning : w.isRunning = true := by decide +kernel
  have hsome : (w.take? .updates).isSome = true := by decide +kernel
  have hprotos : v.protos = [] := by decide +kernel
  have hmade : (v.assemble fun _ => .still).1.protos.map ProtoRound.topology = [["a", "b"]] := by
    decide +kernel
  obtain ⟨⟨message, w'⟩, htake⟩ := Option.isSome_iff_exists.1 hsome
  have hv : v = w'.process message := by simp only [v, htake, Option.map_some, Option.getD_some]
  obtain ⟨teams, h, hiff⟩ := assemble_conserves_iff hvalid _ _ _ (idle_smallNetwork ["a", "b"]) moves
    rfl hrunning (Or.inr ⟨.updates, message, w', htake, hv⟩) fun _ => .still
  refine ⟨hvalid, idle_smallNetwork _, hrunning, by decide +kernel, teams, h, hiff, ?_⟩
  rw [← hmade, h.protos, hprotos, List.nil_append]

/-! ## A team that is too dear -/

/-- A scheduler that makes one team of three nodes, whose costs overflow on the search for its order. -/
def dear : World :=
  create { Settings.builtIn with
      teamSize := 3
      poolThreshold := 0
      minDelayMs := 0 }
    Team.tooDear (fun _ => false)
    ([("a", "Americas"), ("b", "WesternEurope"), ("c", "CentralEurope")].foldl
      (fun net (v, tag) => net.register v tag .active ⟨0, 0⟩) (.empty ⟨0, [], ⟨default, []⟩⟩ ⟨1⟩))
    ⟨0, 0⟩

/-- **All three are lost**: with the last of their reports the loop breaks down, they have left the pool, and
no team is on its way. -/
theorem not_conserves_of_dear :
    let w := dear.run (.launch :: reporting "a" .waiting ++ reporting "b" .waiting ++ [.poll 0 "c" .waiting])
    let v := ((w.take? .updates).map fun m => m.2.process m.1).getD w
    let after := w.step (.iterate .updates fun _ => .still)
    dear.settings.validate = .ok () ∧ w.isRunning = true ∧ v.shared.pool.online = ["a", "b", "c"] ∧
      (∀ teams, ¬ v.Conserves (fun _ => .still) teams) ∧
      after.isRunning = false ∧ after.shared.pool.online = [] ∧ after.shared.pool.offline = [] ∧
      after.protos = [] ∧ after.loop.inFlight.isEmpty = true := by
  intro w v after
  have hover : (v.assemble fun _ => .still).2 = some .overflow := by decide +kernel
  exact ⟨by decide +kernel, by decide +kernel, by decide +kernel, fun teams h => h.returns hover,
    by decide +kernel, by decide +kernel, by decide +kernel, by decide +kernel, by decide +kernel⟩

end Live.World

end MixRounds
