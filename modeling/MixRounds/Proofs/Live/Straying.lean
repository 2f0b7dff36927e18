import Mathlib.Data.List.Induction
import MixRounds.Proofs.Live.Outcast
import MixRounds.Proofs.Live.Profile
import MixRounds.Proofs.Live.Winding

/-!
# Nodes that wait, and nodes that have strayed

A node joins the pool when the loop applies its report of waiting, and when a team of it was refused.  In
both cases it waits: the first report it is told of is what the node still does, and the second path looks
(**`World.waits_of_joining`**).  Leaving is another matter.  A node in the pool that reports anything else is
left there, and teams are picked of it all the same.

So the pool holds two kinds of nodes.  A node *has strayed* if it left waiting in a poll of its own, in the
pool, and has been in the pool without waiting ever since (`World.Strayed`).
**`World.onlineWaits_iff`** says that those who have strayed are the only ones that do not wait: in the pool,
online, and in the teams that are picked.  Who waits and nobody else is online, as it is meant to be, exactly
as long as no online node has strayed.

`World.not_onlineWaits_of_stray` is a run in which one has.
-/

namespace MixRounds.Live

namespace World

variable {w : World} {v : NodeId}

/-- What a node reports to be doing. -/
def activity (w : World) (v : NodeId) : Option Activity :=
  (w.shared.net.nodes.get? v).map Node.activity

lemma activity_eq (w : World) (v : NodeId) : w.activity v = (w.profile v).map Node.activity := by
  rw [activity, profile, Option.map_map]
  rfl

lemma activity_of_profile {w' : World} (h : w'.profile = w.profile) : w'.activity = w.activity := by
  funext j
  rw [activity_eq, activity_eq, h]

lemma activity_of_step (hr : w.roster.Sound) {m : Move} (h : ∀ call a, m ≠ .poll call v a) :
    (w.step m).activity v = w.activity v := by
  obtain ⟨f, hf, hprofile⟩ := silent_of_step hr h
  rw [activity_eq, activity_eq, hprofile]
  simp [Function.comp_def, hf.activity]

/-! ## Joining the pool -/

/-- A node of which the loop is told that it waits still does. -/
lemma waits_of_message (hm : w.mail.Sound) {n : Notification} (hn : n ∈ w.updates.messages)
    (hwaiting : n.toActivity = .waiting) : w.activity n.node = some .waiting := by
  obtain ⟨hands, hnode, -⟩ := hm.taken n hn
  obtain ⟨node, hget, hdoing⟩ := Option.map_eq_some_iff.1 hnode
  rw [activity, hget, Option.map_some]
  exact congrArg some ((congrArg Prod.fst hdoing).trans hwaiting)

/-- **Who joins the pool when a message is dealt with** waits. -/
lemma waits_of_process (hr : w.roster.Sound) (hm : w.mail.Sound) {source : Source} {message : Message}
    {w' : World} (htake : w.take? source = some (message, w')) (hout : v ∉ w.shared.pool)
    (hin : v ∈ (w'.process message).shared.pool) : w.activity v = some .waiting := by
  cases taken_of_take? htake with
  | @update n ch hreceive =>
      -- the only notification that puts a node into the pool says that it waits
      have happlied := applied_takenOver (w := { w with updates := ch }) hr n
      rw [process, pool_processUpdate] at hin
      rcases happlied.pool with hpool | hpool | ⟨hpool, hk, -⟩ <;> rw [hpool] at hin
      · exact absurd hin hout
      · exact absurd (Pool.mem_remove.1 hin).1 hout
      · obtain rfl : v = n.node := (Pool.mem_add.1 hin).resolve_right hout
        have hn : n ∈ w.updates.messages := by
          rw [Channel.messages_receive? hreceive]
          exact List.mem_cons_self
        exact waits_of_message hm hn ((of_classify_activity hk).2)
  | @event e ch hreceive =>
      cases e with
      | timedOut id p =>
          rw [process, processEvent, pool_processTimeout] at hin
          exact absurd hin hout
      | started id =>
          dsimp only [process, processEvent, unreserve] at hin
          split at hin <;> exact absurd hin hout
      | startFailed p fault =>
          have hback : v ∈ (p.topology.filter (returns w.shared.net.nodes)).foldl Pool.add w.shared.pool := by
            dsimp only [process, processEvent, unreserve] at hin
            split at hin <;> exact hin
          have hreturns := (List.mem_filter.1 ((Pool.mem_foldl_add.1 hback).resolve_right hout)).2
          obtain ⟨node, hnode, hwaits⟩ := (Option.any_eq_true _ _).1 hreturns
          simp only [Bool.and_eq_true, beq_iff_eq] at hwaits
          simp [activity, hnode, hwaits.2]
      | finished id => exact absurd hin hout
  | @request r => cases r <;> exact absurd hin hout

/-- What a node does is the same before and after a turn. -/
lemma activity_of_isTurn (hr : w.roster.Sound) {m : Move} (h : w.isTurn m = true) :
    (w.step m).activity = w.activity := by
  cases m with
  | iterate source chance => exact activity_of_profile (profile_iterate hr source chance)
  | _ => cases h

/-- Nobody joins the pool between two turns. -/
lemma mem_pool_of_step (hr : w.roster.Sound) {m : Move} (hturn : w.isTurn m = false)
    (hin : v ∈ (w.step m).shared.pool) : v ∈ w.shared.pool := by
  by_cases hpoll : ∃ call u a, m = .poll call u a
  · obtain ⟨call, u, a, rfl⟩ := hpoll
    rcases roster_poll w call u a with heq | ⟨hu, heq⟩
    · rwa [show (w.step (.poll call u a)).shared.pool = w.shared.pool from congrArg Roster.pool heq] at hin
    · rw [show (w.step (.poll call u a)).shared.pool = w.shared.pool.add u from
        congrArg Roster.pool heq] at hin
      rcases Pool.mem_add.1 hin with rfl | hin
      · exact hu
      · exact hin
  by_cases hsweep : m = .sweep
  · subst hsweep
    dsimp only [step, sweep] at hin
    split at hin
    · exact hin
    · split at hin
      · exact hin
      · exact (Pool.mem_sweep ..).1 hin
  · rwa [pool_of_step hr hturn (fun call u a heq => hpoll ⟨call, u, a, heq⟩) hsweep] at hin

/-- **Who joins the pool waits**, whichever way it comes. -/
theorem waits_of_joining (hr : w.roster.Sound) (hm : w.mail.Sound) {m : Move} (hout : v ∉ w.shared.pool)
    (hin : v ∈ (w.step m).shared.pool) : (w.step m).activity v = some .waiting := by
  cases hturn : w.isTurn m with
  | true =>
      obtain ⟨source, chance, message, w', -, htake, hstep⟩ := step_of_isTurn hturn
      rw [activity_of_isTurn hr hturn]
      rw [hstep] at hin
      exact waits_of_process hr hm htake hout (mem_pool_settleTurn hin)
  | false => exact absurd (mem_pool_of_step hr hturn hin) hout

/-! ## Teams are picked of the pool -/

/-- The nodes in the pool were there at the time `since`, and so were the members of the teams that have
been formed after it. -/
structure Drawn (w since : World) : Prop where
  pool : ∀ v ∈ w.shared.pool, v ∈ since.shared.pool
  team : ∀ id team, w.loop.inFlight.get? id = some team →
    since.loop.inFlight.get? id = some team ∨ ∀ v ∈ team, v ∈ since.shared.pool

/-- **A team that is formed** was in the pool. -/
lemma drawn_assembleOne {since : World} (h : w.Drawn since) (chance : Shuffle) :
    (w.assembleOne chance).1.Drawn since := by
  refine ⟨fun v hv => h.pool v (mem_pool_assembleOne hv), fun id team hteam => ?_⟩
  rw [assembleOne] at hteam
  split at hteam
  · split at hteam <;> exact h.team id team hteam
  · rename_i picked pool hpick
    have hspec := (formTeam_spec (w.mapShared fun s => { s with pool := pool }) picked).2
    dsimp only at hteam
    split at hteam
    · rename_i fault net hform
      have hback := congrArg Roster.inFlight (roster_assemblyFailed
        ((w.mapShared fun s => { s with pool := pool }).mapShared fun s => { s with net := net })
        picked fault)
      exact h.team id team ((congrFun hback id).symm.trans hteam)
    · exact h.team id team hteam
    · rename_i p net hform
      rw [hform] at hspec
      dsimp only [teamFormed] at hteam
      rw [Table.get?_insert] at hteam
      split at hteam
      · cases hteam
        rcases hspec with ⟨fault, heq, -⟩ | ⟨-, hp⟩
        · cases heq
        · refine Or.inr fun v hv => h.pool v ?_
          exact Pool.mem_of_pick hpick (Or.inl ((hp p rfl).1.mem_iff.1 hv))
      · exact h.team id team hteam

lemma drawn_settleTurn (w : World) (chance : Nat → Shuffle) : (w.settleTurn chance).Drawn w := by
  refine settleTurn_induction (P := fun w' => w'.Drawn w) (fun w' chance h => drawn_assembleOne h chance)
    (fun w' h => ?_) (fun w' result h => ?_) ⟨fun _ => id, fun _ _ => Or.inl⟩ chance
  · refine ⟨fun v hv => h.pool v ?_, fun id team hteam => h.team id team ?_⟩
    · rwa [shared_acknowledge] at hv
    · rwa [loop_acknowledge] at hteam
  · refine ⟨fun v hv => h.pool v ?_, fun id team hteam => h.team id team ?_⟩
    · exact pool_closeQueues w' ▸ hv
    · rwa [loop_finish] at hteam

lemma taken?_eq_none_of_isTurn {m : Move} (hturn : w.isTurn m = false) : w.taken? m = none := by
  cases m with
  | iterate source chance =>
      simp only [isTurn, Bool.and_eq_false_iff, Option.isSome_eq_false_iff, Option.isNone_iff_eq_none] at hturn
      rcases hturn with hstopped | hnone
      · simp [taken?, hstopped]
      · simp [taken?, hnone]
  | _ => rfl

/-- Teams are handed out in turns. -/
lemma inFlight_of_step {m : Move} (hturn : w.isTurn m = false) :
    (w.step m).loop.inFlight = w.loop.inFlight := by
  obtain ⟨stage, acks, hloop, -⟩ := loop_of_taken_eq_none (taken?_eq_none_of_isTurn hturn)
  rw [hloop]

/-! ## What has held ever since -/

section Ever

variable {P : World → Prop} {moves : List Move} {m : Move}

lemma ever_nil (hnow : P w) : ∀ middle, middle <+: [] → P (w.run middle) := by
  intro middle hmiddle
  rwa [List.prefix_nil.1 hmiddle]

lemma ever_snoc (hever : ∀ middle, middle <+: moves → P (w.run middle)) (hnow : P ((w.run moves).step m)) :
    ∀ middle, middle <+: moves ++ [m] → P (w.run middle) := by
  intro middle hmiddle
  rcases List.prefix_concat_iff.1 hmiddle with rfl | hmiddle
  · rwa [run_snoc]
  · exact hever middle hmiddle

end Ever

/-! ## Nodes that have strayed -/

/-- The node is in the pool and does not wait. -/
def Astray (w : World) (v : NodeId) : Prop := v ∈ w.shared.pool ∧ w.activity v ≠ some .waiting

/-- The node left waiting in a poll of its own while it was in the pool, and has been there without waiting
ever since. -/
def Strayed (w : World) (v : NodeId) (moves : List Move) : Prop :=
  ∃ earlier call a later, moves = earlier ++ .poll call v a :: later ∧
    v ∈ (w.run earlier).shared.pool ∧ (w.run earlier).activity v = some .waiting ∧
    ∀ middle, middle <+: later → (((w.run earlier).step (.poll call v a)).run middle).Astray v

lemma Strayed.astray {moves : List Move} (h : w.Strayed v moves) : (w.run moves).Astray v := by
  obtain ⟨earlier, call, a, later, rfl, -, -, hever⟩ := h
  rw [run_append, run_cons]
  exact hever later (List.prefix_refl later)

lemma Strayed.append {moves : List Move} (h : w.Strayed v moves) {m : Move}
    (hstill : ((w.run moves).step m).Astray v) : w.Strayed v (moves ++ [m]) := by
  obtain ⟨earlier, call, a, later, rfl, hin, hwaits, hever⟩ := h
  rw [run_append, run_cons] at hstill
  exact ⟨earlier, call, a, later ++ [m], by simp, hin, hwaits, ever_snoc (P := (Astray · v)) hever hstill⟩

/-- **Who is in the pool and does not wait has strayed.** -/
lemma strayed_of_astray {told : RoundId → List Telling} (hc : Chronicle w told) (hempty : v ∉ w.shared.pool)
    {moves : List Move} (h : (w.run moves).Astray v) : w.Strayed v moves := by
  -- from the end: before the last move the node had strayed, or waited in the pool, or was not there
  induction moves using List.reverseRecOn with
  | nil => exact absurd h.1 hempty
  | append_singleton moves m ih =>
      rw [run_snoc] at h
      have hbefore := hc.run moves
      by_cases hin : v ∈ (w.run moves).shared.pool
      · by_cases hwaits : (w.run moves).activity v = some .waiting
        · by_cases hpoll : ∃ call a, m = .poll call v a
          · obtain ⟨call, a, rfl⟩ := hpoll
            exact ⟨moves, call, a, [], rfl, hin, hwaits, ever_nil (P := (Astray · v)) h⟩
          · have hsame := activity_of_step (v := v) hbefore.roster (m := m)
              fun call a heq => hpoll ⟨call, a, heq⟩
            exact absurd (hsame.trans hwaits) h.2
        · exact (ih ⟨hin, hwaits⟩).append h
      · exact absurd (waits_of_joining hbefore.roster hbefore.mail hin h.1) h.2

/-! ## Every run -/

/-- Every online node of which no notification is on its way reports that it waits. -/
def OnlineWaits (w : World) : Prop :=
  ∀ v ∈ w.shared.pool.online, w.Unsent v → w.activity v = some .waiting

/-- How the pool and what its nodes report hang together after a run. -/
structure Pooled (w : World) (moves : List Move) : Prop where
  /-- A node in the pool waits if it has not strayed. -/
  waits_iff : ∀ v ∈ (w.run moves).shared.pool,
    (w.run moves).activity v = some .waiting ↔ ¬ w.Strayed v moves
  /-- Who joins the pool in the next move waits. -/
  joining : ∀ m v, v ∉ (w.run moves).shared.pool → v ∈ ((w.run moves).step m).shared.pool →
    ((w.run moves).step m).activity v = some .waiting
  /-- A member of a team that is picked in the next move waits if it has not strayed. -/
  picked_iff : ∀ m id team, (w.run moves).loop.inFlight.get? id = none →
    ((w.run moves).step m).loop.inFlight.get? id = some team →
    ∀ v ∈ team, ((w.run moves).step m).activity v = some .waiting ↔ ¬ w.Strayed v moves

lemma pooled_of_chronicle {told : RoundId → List Telling} (hc : Chronicle w told)
    (hempty : ∀ v, v ∉ w.shared.pool) (moves : List Move) : w.Pooled moves := by
  have hiff : ∀ v ∈ (w.run moves).shared.pool,
      ((w.run moves).activity v = some .waiting ↔ ¬ w.Strayed v moves) := by
    intro v hin
    constructor
    · exact fun hwaits hstrayed => hstrayed.astray.2 hwaits
    · intro hnot
      by_contra hwaits
      exact hnot (strayed_of_astray hc (hempty v) ⟨hin, hwaits⟩)
  have hr := (hc.run moves).roster
  have hm := (hc.run moves).mail
  refine ⟨hiff, fun m v => waits_of_joining hr hm, ?_⟩
  intro m id team hnone hteam v hv
  cases hturn : (w.run moves).isTurn m with
  | false =>
      rw [inFlight_of_step hturn, hnone] at hteam
      cases hteam
  | true =>
      obtain ⟨source, chance, message, w', -, htake, hstep⟩ := step_of_isTurn hturn
      rw [activity_of_isTurn hr hturn]
      rw [hstep] at hteam
      rcases (drawn_settleTurn (w'.process message) chance).team id team hteam with hbefore | hthere
      · have hwas : w'.loop.inFlight.get? id = some team := (processed w' message).inFlight _ _ hbefore
        rw [loop_take? htake, hnone] at hwas
        cases hwas
      · by_cases hin : v ∈ (w.run moves).shared.pool
        · exact hiff v hin
        · -- it has joined the pool in this turn
          have hwaits := waits_of_process hr hm htake hin (hthere v hv)
          exact ⟨fun _ hstrayed => hin hstrayed.astray.1, fun _ => hwaits⟩

/-- **Who waits, and who is online.**  In every state that any run from an idle network reaches, every
online node of which no notification is on its way waits, exactly if none of these nodes has strayed; and so
it is with the whole pool and with the teams that are picked of it. -/
theorem onlineWaits_iff (settings : Settings) (latency : Latency) (isDisabled : NodeId → Bool)
    {net : Network} (wall : Instant) (hidle : net.Idle) (moves : List Move) :
    let w := create settings latency isDisabled net wall
    w.Pooled moves ∧ ((w.run moves).OnlineWaits ↔
      ∀ v ∈ (w.run moves).shared.pool.online, (w.run moves).Unsent v → ¬ w.Strayed v moves) := by
  intro w
  have hpooled : w.Pooled moves :=
    pooled_of_chronicle (create_chronicle settings latency isDisabled wall hidle) Pool.not_mem_empty moves
  refine ⟨hpooled, ?_⟩
  constructor
  · intro hwaits v hv hunsent
    exact (hpooled.waits_iff v (Or.inl hv)).1 (hwaits v hv hunsent)
  · intro hnone v hv hunsent
    exact (hpooled.waits_iff v (Or.inl hv)).2 (hnone v hv hunsent)

/-- One of two nodes waits. -/
theorem onlineWaits_iff_of_two : (smallNetwork ["a", "b"]).Idle ∧
    (small ["a", "b"]).Pooled (.launch :: reporting "a" .waiting) :=
  ⟨idle_smallNetwork _, (onlineWaits_iff _ _ _ _ (idle_smallNetwork _) _).1⟩

/-! ## A node that strays -/

/-- One of two nodes waits, and then reports an error, which the loop applies. -/
def stray : List Move := .launch :: reporting "a" .waiting ++ reporting "a" .error

/-- **The node is still online**, and as soon as the other waits the two are a team. -/
theorem not_onlineWaits_of_stray :
    let w := (small ["a", "b"]).run stray
    let after := w.run (reporting "b" .waiting)
    ¬ w.OnlineWaits ∧ after.loop.inFlight.get? ⟨1⟩ = some ["a", "b"] ∧
      after.activity "a" = some .error ∧ after.updates.messages = [] := by
  intro w after
  refine ⟨fun hwaits => ?_, by decide +kernel, by decide +kernel, by decide +kernel⟩
  have honline : "a" ∈ w.shared.pool.online := by decide +kernel
  have hmessages : w.updates.messages = [] := by decide +kernel
  have herror : w.activity "a" = some .error := by decide +kernel
  have hunsent : w.Unsent "a" := by
    intro n hn
    rw [hmessages] at hn
    cases hn
  exact absurd (herror.symm.trans (hwaits "a" honline hunsent)) (by decide)

end World

end MixRounds.Live
