import MixRounds.Fault
import MixRounds.Instant.Basic

/-!
# Rounds

A round is one scheduled run of a fixed team.  It counts the members that are ready for its next
phase and stamps every phase with the time it was entered.  The count starts again at zero with every
phase, and the member that completes the team is told so.

A round moves in two ways: `Round.advance` takes one step of the life cycle, and `Round.fail` ends it
from wherever it is — once.
-/

namespace MixRounds

/-- The times at which phases were entered, in the order of the life cycle. -/
abbrev Stamps := List (Phase × Instant)

namespace Stamps

/-- Add a stamp at its place in the life cycle, or replace the one of that phase. -/
def insert (p : Phase) (t : Instant) : Stamps → Stamps
  | [] => [(p, t)]
  | (q, s) :: rest =>
      if p = q then (p, t) :: rest
      else if p.rank < q.rank then (p, t) :: (q, s) :: rest
      else (q, s) :: insert p t rest

/-- The time of phase `p`. -/
def get? (p : Phase) : Stamps → Option Instant
  | [] => none
  | (q, t) :: rest => if q = p then some t else get? p rest

/-- The phases that have a stamp. -/
def phases (s : Stamps) : List Phase := s.map Prod.fst

theorem get?_insert (p q : Phase) (t : Instant) (s : Stamps) :
    get? q (insert p t s) = if q = p then some t else get? q s := by
  induction s with
  | nil => simp [insert, get?, eq_comm]
  | cons e rest ih =>
      obtain ⟨r, u⟩ := e
      by_cases hpr : p = r
      · subst hpr
        by_cases hq : p = q
        · subst hq; simp [insert, get?]
        · simp [insert, get?, hq, Ne.symm hq]
      · by_cases hlt : p.rank < r.rank
        · by_cases hq : p = q
          · subst hq; simp [insert, get?, hpr, hlt]
          · simp [insert, get?, hpr, hlt, hq, Ne.symm hq]
        · by_cases hr : r = q
          · subst hr; simp [insert, get?, hpr, hlt, Ne.symm hpr]
          · simp [insert, get?, hpr, hlt, hr, ih]

/-- A phase that comes after all that have a stamp is stamped last. -/
theorem insert_of_lt {p : Phase} {s : Stamps} (h : ∀ q ∈ s.phases, q.rank < p.rank) (t : Instant) :
    s.insert p t = s ++ [(p, t)] := by
  induction s with
  | nil => rfl
  | cons e rest ih =>
      obtain ⟨q, u⟩ := e
      have hq : q.rank < p.rank := h q (by simp [phases])
      have hne : p ≠ q := by
        rintro rfl
        exact absurd hq (Nat.lt_irrefl _)
      have hrest : ∀ q ∈ phases rest, q.rank < p.rank := fun q hq => h q (List.mem_cons_of_mem _ hq)
      rw [insert, if_neg hne, if_neg (by omega), ih hrest]
      rfl

end Stamps

/-- One scheduled run of a fixed team. -/
structure Round where
  /-- The members in relay order. -/
  topology : List NodeId
  batch : UInt32
  phase : Phase
  /-- Members ready for the next phase. -/
  ready : Nat
  stamps : Stamps
  deriving DecidableEq, Repr

namespace Round

/-- A pending round. -/
def allocate (topology : List NodeId) (batch : UInt32) (now : Instant) : Round :=
  ⟨topology, batch, .pending, 0, [(.pending, now)]⟩

/-- The number of members. -/
def teamSize (r : Round) : Nat := r.topology.length

/-- Move to `next` at time `t`; the life cycle decides whether that is a step. -/
def advance (id : RoundId) (r : Round) (next : Phase) (t : Instant) : Except Fault Round :=
  if r.phase.mayAdvance next then
    .ok { r with phase := next, ready := 0, stamps := r.stamps.insert next t }
  else .error (.illegalPhase id r.phase next)

/-- Count one more member ready: the round after it, and whether the team is complete. -/
def countReady (id : RoundId) (r : Round) : Except Fault (Round × Bool) :=
  if r.teamSize ≤ r.ready then .error (.readinessOverflow id r.teamSize)
  else .ok ({ r with ready := r.ready + 1 }, r.ready + 1 == r.teamSize)

/-- Force the round to fail at time `t`; only a round that is not at its end can. -/
def fail (r : Round) (t : Instant) : Bool × Round :=
  if r.phase.isTerminal then (false, r)
  else (true, { r with phase := .failed, stamps := r.stamps.insert .failed t })

@[simp] theorem phase_allocate (team : List NodeId) (batch : UInt32) (now : Instant) :
    (allocate team batch now).phase = .pending := rfl

theorem fail_fst (r : Round) (t : Instant) : (r.fail t).1 = !r.phase.isTerminal := by
  unfold fail; split <;> simp_all

theorem isTerminal_fail (r : Round) (t : Instant) : (r.fail t).2.phase.isTerminal = true := by
  unfold fail; split
  · assumption
  · rfl

theorem topology_fail (r : Round) (t : Instant) : (r.fail t).2.topology = r.topology := by
  unfold fail; split <;> rfl

end Round

end MixRounds
