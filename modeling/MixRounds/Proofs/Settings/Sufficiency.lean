import Mathlib.Algebra.Group.Nat.Defs
import MixRounds.Instant.Calendar
import MixRounds.Proofs.Live.Apply

/-!
# What validation leaves open

Settings that pass `Settings.validate` are meant to be settings that a scheduler can run with.  At two
places the numbers in them meet limits of their own.  A queue has a greatest capacity, and beyond it none
can be created.  And the delay of realtime is added to the time of the last standby report; the delay is
read as a number with a sign, and the sum has to be a time that the calendar has.

`Settings.Suffices` is what one would like to conclude from validation, at a given time: the scheduler can
be created, and every round that enters realtime is stamped with a time of the calendar that lies exactly the
delay ahead.

**`Settings.suffices_iff`** says how much that takes beyond validation: both buffers at most
`Settings.maxBuffer`, and a delay that does not lead past the end of the calendar.  Neither is validated, and
`Settings.not_suffices_of_excess` has an example of each kind: settings with a buffer too large, and settings with a
delay that counts as negative, so that realtime starts in the past.
-/

namespace MixRounds

open Live

/-! ## The calendar of the clocks -/

namespace Instant

/-- The start of the year −262143. -/
def earliest : Instant := ⟨Date.toDays ⟨-262143, 1, 1⟩ * 86400, 0⟩

/-- The end of the year 262142. -/
def latest : Instant := ⟨Date.toDays ⟨262143, 1, 1⟩ * 86400 - 1, 999999999⟩

/-- A time that the calendar has, outside leap seconds. -/
structure InRange (t : Instant) : Prop where
  nanos : t.nanos < 1000000000
  notBefore : earliest.seconds ≤ t.seconds
  notAfter : t.seconds ≤ latest.seconds

lemma seconds_earliest : earliest.seconds = -8334601228800 := by decide

lemma seconds_latest : latest.seconds = 8210266876799 := by decide

lemma total_earliest : earliest.total = -8334601228800000000000 := by decide

lemma total_latest : latest.total = 8210266876799999999999 := by decide

/-- Adding milliseconds stays in the calendar exactly if the sum of nanoseconds does. -/
lemma inRange_addMillis_iff {t : Instant} {ms : Int} :
    (t.addMillis ms).InRange ↔
      earliest.total ≤ t.total + ms * 1000000 ∧ t.total + ms * 1000000 ≤ latest.total := by
  rw [total_earliest, total_latest]
  constructor
  · rintro ⟨-, hfrom, hto⟩
    rw [seconds_earliest] at hfrom
    rw [seconds_latest] at hto
    simp only [addMillis, ofNanos] at hfrom hto
    omega
  · rintro ⟨hfrom, hto⟩
    refine ⟨?_, ?_, ?_⟩
    · simp only [addMillis, ofNanos]
      omega
    · rw [seconds_earliest]
      simp only [addMillis, ofNanos]
      omega
    · rw [seconds_latest]
      simp only [addMillis, ofNanos]
      omega

lemma InRange.total_le {t : Instant} (h : t.InRange) : t.total ≤ latest.total := by
  have hnanos := h.nanos
  have hto := h.notAfter
  rw [seconds_latest] at hto
  rw [total_latest, total]
  omega

lemma InRange.le_total {t : Instant} (h : t.InRange) : earliest.total ≤ t.total := by
  have hfrom := h.notBefore
  simp only [total]
  have hzero : earliest.nanos = 0 := rfl
  omega

end Instant

/-! ## The time at which realtime starts -/

namespace Live.Shared

variable {settings : Settings} {now : Instant} {clock : Nat} {reserved : List NodeId}
  {s : Shared} {n : Notification}

/-- A count that moves a round on says to which phase, and the round has the stamp. -/
lemma countAndAdvance_advanced {id : RoundId} {r : Round} {next phase : Phase} {stamp : Instant}
    {after : Shared → Shared} (hround : s.net.rounds.get? id = some r)
    (h : (s.countAndAdvance id r next stamp after).2 = .ok (.advanced phase))
    (hafter : ∀ t : Shared, (after t).net = t.net) :
    phase = next ∧ ∃ r', (s.countAndAdvance id r next stamp after).1.net.rounds.get? id = some r' ∧
      r'.phase = next ∧ r'.stamps.get? next = some stamp := by
  rw [countAndAdvance] at h ⊢
  cases hcount : r.countReady id with
  | error fault => simp [hcount] at h
  | ok result =>
      obtain ⟨counted, complete⟩ := result
      cases complete with
      | false => simp [hcount] at h
      | true =>
          simp only [hcount, Bool.not_true, Bool.false_eq_true, if_false] at h ⊢
          cases hmove : counted.advance id next stamp with
          | error fault => simp [hmove] at h
          | ok moved =>
              simp only [hmove, Except.ok.injEq, Effect.advanced.injEq] at h ⊢
              refine ⟨h.symm, moved, ?_, ?_⟩
              · simp [hafter, Network.get?_setRound, hround]
              · rw [Round.advance] at hmove
                split at hmove
                · cases hmove
                  simp [Stamps.get?_insert]
                · cases hmove

lemma killHeld_ne_advanced (s : Shared) (now : Instant) (v : NodeId) (round : Option RoundId)
    (cause : Cause) (phase : Phase) : (s.killHeld now v round cause).2 ≠ .ok (.advanced phase) := by
  cases round with
  | none => simp [killHeld]
  | some id =>
      simp only [killHeld]
      split <;> simp

/-- **Only a standby starts realtime**, of the round that the node holds, and the stamp is its time plus the
delay. -/
lemma stamp_of_applyActivity {node : Node} {held : Option (RoundId × Round)} {a : Activity}
    (hheld : s.Holds n.node held)
    (h : (s.applyActivity settings now clock reserved n.node node held a).2
      = .ok (.advanced .realtime)) :
    ∃ id r, s.net.holding n.node = some id ∧
      (s.applyActivity settings now clock reserved n.node node held a).1.net.rounds.get? id = some r ∧
      r.phase = .realtime ∧
      r.stamps.get? .realtime = some (now.addMillis settings.realtimeDelay) := by
  cases a with
  | notStarted | precomputing | realtime => simp [applyActivity] at h
  | waiting =>
      rw [applyActivity] at h
      split at h
      · simp at h
      · split at h <;> simp at h
  | error => exact absurd h (killHeld_ne_advanced _ _ _ _ _ _)
  | standby =>
      cases held with
      | none => simp [applyActivity] at h
      | some held =>
          obtain ⟨hheld, hround⟩ := hheld
          simp only [applyActivity] at h ⊢
          obtain ⟨-, r, hr, hphase, hstamp⟩ := countAndAdvance_advanced hround h (fun _ => rfl)
          exact ⟨held.1, r, hheld, hr, hphase, hstamp⟩
  | completed =>
      cases held with
      | none => simp [applyActivity] at h
      | some held =>
          -- a completion moves a round to its end, not to realtime
          simp only [applyActivity] at h
          obtain ⟨hphase, -⟩ := countAndAdvance_advanced
            (show (s.mapNode n.node Node.detach).net.rounds.get? held.1 = some held.2 from hheld.2) h
            (fun _ => rfl)
          cases hphase

/-- **A notification starts realtime** for the round that its node holds, and the stamp is its time plus the
delay. -/
lemma stamp_of_apply
    (h : (s.apply settings now clock reserved n).2 = .ok (.advanced .realtime)) :
    ∃ id r, s.net.holding n.node = some id ∧
      (s.apply settings now clock reserved n).1.net.rounds.get? id = some r ∧ r.phase = .realtime ∧
      r.stamps.get? .realtime = some (now.addMillis settings.realtimeDelay) := by
  cases hnode : s.net.nodes.get? n.node with
  | none => simp [apply, hnode] at h
  | some node =>
      have hholding : s.net.holding n.node = node.round := Network.holding_of_get? hnode
      have hexists : ∀ id, s.net.holding n.node = some id → ∃ r, s.net.rounds.get? id = some r := by
        intro id hid
        cases hround : s.net.rounds.get? id with
        | some r => exact ⟨r, rfl⟩
        | none =>
            rw [hholding] at hid
            simp [apply, hnode, hid, hround] at h
      obtain ⟨held, hheld⟩ := exists_holds hexists
      rw [apply_eq hnode hheld] at h ⊢
      cases hk : s.kindOf n with
      | alreadyBanned | staleAfterFailure => simp [hk] at h
      | ban =>
          simp only [hk] at h
          exact absurd h (killHeld_ne_advanced _ _ _ _ _ _)
      | activity a =>
          simp only [hk] at h ⊢
          exact stamp_of_applyActivity hheld h

end Live.Shared

/-! ## What settings are good for -/

namespace Settings

/-- `t` is the start of a realtime that was arranged at `now`. -/
structure Timely (s : Settings) (now t : Instant) : Prop where
  inRange : t.InRange
  exact : t.total = now.total + s.realtimeDelayMs.toNat * 1000000
  notPast : now.total ≤ t.total

/-- **A scheduler can run with the settings**, at the given time. -/
structure Suffices (s : Settings) (now : Instant) : Prop where
  creates : ∀ latency isDisabled net wall,
    World.create? s latency isDisabled net wall = some (.create s latency isDisabled net wall)
  stamps : ∀ (shared : Shared) clock reserved n,
    (shared.apply s now clock reserved n).2 = .ok (.advanced .realtime) →
      ∃ id r t, shared.net.holding n.node = some id ∧
        (shared.apply s now clock reserved n).1.net.rounds.get? id = some r ∧ r.phase = .realtime ∧
        r.stamps.get? .realtime = some t ∧ s.Timely now t

variable {s : Settings} {now : Instant}

/-! ### The queues -/

lemma buffers_pos_of_validate (h : s.validate = .ok ()) :
    0 < s.updateBuffer.toNat ∧ 0 < s.eventBuffer.toNat := by
  have hbuffers : ¬ (s.updateBuffer = 0 ∨ s.eventBuffer = 0) := by
    intro hzero
    rw [validate_eq_ok_iff] at h
    simp only [complaint?, hzero, if_true] at h
    repeat' split at h
    all_goals cases h
  have hpos : ∀ x : UInt64, x ≠ 0 → 0 < x.toNat := by
    intro x hx
    rw [Nat.pos_iff_ne_zero]
    intro hzero
    exact hx (UInt64.toNat_inj.1 hzero)
  rw [not_or] at hbuffers
  exact ⟨hpos _ hbuffers.1, hpos _ hbuffers.2⟩

/-- **The queues can be created** exactly if both buffers are small enough. -/
lemma create?_eq (h : s.validate = .ok ()) (latency : Latency) (isDisabled : NodeId → Bool)
    (net : Network) (wall : Instant) :
    World.create? s latency isDisabled net wall =
      if s.buffersFit then some (.create s latency isDisabled net wall) else none := by
  obtain ⟨hupdates, hevents⟩ := buffers_pos_of_validate h
  simp only [World.create?, World.queue?, hupdates, hevents, true_and, buffersFit]
  by_cases hu : s.updateBuffer.toNat ≤ maxBuffer
  · by_cases he : s.eventBuffer.toNat ≤ maxBuffer
    · simp [hu, he, World.create]
    · simp [hu, he]
  · simp [hu]

/-! ### The stamps -/

/-- A delay that does not lead past the end of the calendar is read as what it is. -/
lemma realtimeDelay_eq (hnow : now.InRange)
    (h : now.total + s.realtimeDelayMs.toNat * 1000000 ≤ Instant.latest.total) :
    s.realtimeDelay = s.realtimeDelayMs.toNat := by
  have hfrom := hnow.le_total
  rw [Instant.total_earliest] at hfrom
  rw [Instant.total_latest] at h
  have hsmall : s.realtimeDelayMs.toNat < 2 ^ 63 := by omega
  have hlow : -((UInt64.size : Nat) / 2 : Int) ≤ s.realtimeDelayMs.toNat := by
    simp only [UInt64.size]
    omega
  have hhigh : (s.realtimeDelayMs.toNat : Int) < ((UInt64.size : Nat) + 1) / 2 := by
    simp only [UInt64.size]
    omega
  exact Int.bmod_eq_of_le hlow hhigh

lemma timely_of_le (hnow : now.InRange)
    (h : now.total + s.realtimeDelayMs.toNat * 1000000 ≤ Instant.latest.total) :
    s.Timely now (now.addMillis s.realtimeDelay) := by
  have hdelay := realtimeDelay_eq hnow h
  have hfrom := hnow.le_total
  refine ⟨?_, ?_, ?_⟩
  · rw [Instant.inRange_addMillis_iff, hdelay]
    omega
  · rw [Instant.total_addMillis, hdelay]
  · rw [Instant.total_addMillis, hdelay]
    omega

lemma le_of_timely {t : Instant} (h : s.Timely now t) :
    now.total + s.realtimeDelayMs.toNat * 1000000 ≤ Instant.latest.total := by
  rw [← h.exact]
  exact h.inRange.total_le

/-- A round of one node that has only to report standby. -/
def lastReport : Shared where
  net := { Network.empty (.ofSeed []) (.ofNat 1) with
    nodes := .insert .empty "a" { Node.fresh "Asia" .active ⟨0, 0⟩ with round := some (.ofNat 1) }
    rounds := .insert .empty (.ofNat 1) { Round.allocate ["a"] 1 ⟨0, 0⟩ with phase := .precomputing } }
  pool := .empty
  tracker := []
  watchers := []
  notices := []

/-- The report. -/
def standbyReport : Notification := ⟨"a", .precomputing, .standby, .active, .active, ⟨0, 0⟩⟩

/-- **It starts realtime**, whatever the settings and the time. -/
lemma apply_lastReport (s : Settings) (now : Instant) :
    (lastReport.apply s now 0 [] standbyReport).2 = .ok (.advanced .realtime) := rfl

/-! ### Both together -/

lemma Suffices.buffersFit (hvalid : s.validate = .ok ()) (h : s.Suffices now) :
    s.buffersFit = true := by
  have hcreated := h.creates .builtIn (fun _ => false) lastReport.net now
  rw [create?_eq hvalid] at hcreated
  split at hcreated
  · assumption
  · cases hcreated

lemma Suffices.le_latest (h : s.Suffices now) :
    now.total + s.realtimeDelayMs.toNat * 1000000 ≤ Instant.latest.total := by
  obtain ⟨_, _, _, _, _, _, _, htimely⟩ :=
    h.stamps lastReport 0 [] standbyReport (apply_lastReport s now)
  exact le_of_timely htimely

/-- **How much a scheduler needs beyond valid settings**: queues that can be created, and a delay of realtime
that does not lead past the end of the calendar. -/
theorem suffices_iff (hvalid : s.validate = .ok ()) (hnow : now.InRange) :
    s.Suffices now ↔
      s.updateBuffer.toNat < 2 ^ 61 ∧ s.eventBuffer.toNat < 2 ^ 61 ∧
        now.total + s.realtimeDelayMs.toNat * 1000000 ≤ Instant.latest.total := by
  have hfit : s.buffersFit = true ↔ s.updateBuffer.toNat < 2 ^ 61 ∧ s.eventBuffer.toNat < 2 ^ 61 := by
    have hmax : maxBuffer = 2 ^ 61 - 1 := rfl
    simp only [buffersFit, hmax, Bool.and_eq_true, decide_eq_true_eq]
    omega
  rw [← and_assoc, ← hfit]
  constructor
  · intro h
    exact ⟨h.buffersFit hvalid, h.le_latest⟩
  · rintro ⟨hbuffers, hdelay⟩
    refine ⟨?_, ?_⟩
    · intro latency isDisabled net wall
      rw [create?_eq hvalid, if_pos hbuffers]
    · intro shared clock reserved n hadvanced
      obtain ⟨id, r, hheld, hround, hphase, hstamp⟩ := Shared.stamp_of_apply hadvanced
      exact ⟨id, r, _, hheld, hround, hphase, hstamp, timely_of_le hnow hdelay⟩

/-- At the start of 1970 the built-in settings are good for a scheduler. -/
theorem suffices_builtIn : builtIn.validate = .ok () ∧ Instant.InRange ⟨0, 0⟩ ∧
    builtIn.Suffices ⟨0, 0⟩ := by
  have hvalid : builtIn.validate = .ok () := by decide +kernel
  have hnow : Instant.InRange ⟨0, 0⟩ := ⟨by decide, by decide, by decide⟩
  exact ⟨hvalid, hnow, (suffices_iff hvalid hnow).2 (by decide)⟩

/-- Room for 2⁶¹ messages, one more than a queue can have. -/
def crowded : Settings := { builtIn with eventBuffer := 2305843009213693952 }

/-- A delay of 2⁶⁴ − 1499 milliseconds, which is read as one second and a half back. -/
def backdated : Settings := { builtIn with realtimeDelayMs := 18446744073709550117 }

/-- **Validation is not enough.**  Both settings pass; with the one no scheduler can be created, with the other
realtime starts before it was arranged. -/
theorem not_suffices_of_excess :
    (crowded.validate = .ok () ∧
      World.create? crowded .builtIn (fun _ => false) lastReport.net ⟨0, 0⟩ = none ∧
      ¬ crowded.Suffices ⟨0, 0⟩) ∧
    (backdated.validate = .ok () ∧
      ((lastReport.apply backdated ⟨0, 0⟩ 0 [] standbyReport).1.net.rounds.get? (.ofNat 1)).bind
        (fun r => r.stamps.get? .realtime) = some ⟨-2, 501000000⟩ ∧
      ¬ backdated.Suffices ⟨0, 0⟩) := by
  have hcrowded : crowded.validate = .ok () := by decide +kernel
  have hbackdated : backdated.validate = .ok () := by decide +kernel
  have hbuffers : crowded.buffersFit ≠ true := by decide
  refine ⟨⟨hcrowded, ?_, ?_⟩, hbackdated, by decide +kernel, ?_⟩
  · rw [create?_eq hcrowded, if_neg hbuffers]
  · intro h
    exact hbuffers (h.buffersFit hcrowded)
  · intro h
    exact absurd h.le_latest (by decide)

end Settings

end MixRounds
