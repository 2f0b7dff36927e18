import Mathlib.Algebra.Group.Nat.Defs
import Mathlib.Data.List.Basic
import MixRounds.Network

/-!
# Round numbers that run out

A counter hands out one number after the other, and the greatest number is where it stops: it is never
handed out, and whoever asks for it is told that there are none left.  Up to there the numbers rise, so
none comes twice.

But asking for the greatest number moves the counter on as well, and behind the greatest number comes zero.
So the refusal is not final: the next call is handed number zero, and after it the numbers that were handed
out before.  **`onlyUp_draw_iff`** says how often a counter may be asked: up to the first refusal, and not
once more.  `not_onlyUp_of_wrap` asks once more.
-/

namespace MixRounds

namespace RoundCounter

/-- The number that was handed out. -/
def number? : Except Fault RoundId → Option Nat
  | .ok id => some id.toNat
  | .error _ => none

/-- There was no number left. -/
def isNoneLeft (answer : Except Fault RoundId) : Bool := (number? answer).isNone

/-- What a number of calls in a row are answered. -/
def draw (c : RoundCounter) : Nat → List (Except Fault RoundId)
  | 0 => []
  | n + 1 => c.reserve.1 :: c.reserve.2.draw n

/-- The numbers that are handed out rise, so that none comes twice; and when there are none left, there are
none left for good. -/
structure OnlyUp (answers : List (Except Fault RoundId)) : Prop where
  rising : (answers.filterMap number?).Pairwise (· < ·)
  final : answers.Pairwise fun earlier later => isNoneLeft earlier = true → isNoneLeft later = true

instance (answers : List (Except Fault RoundId)) : Decidable (OnlyUp answers) :=
  decidable_of_iff (_ ∧ _) ⟨fun h => ⟨h.1, h.2⟩, fun h => ⟨h.rising, h.final⟩⟩

variable {c : RoundCounter} {n : Nat}

/-- **At the greatest number** the call is refused, and the counter goes back to zero. -/
lemma reserve_of_last (h : c.next.toNat + 1 = 2 ^ 64) :
    c.reserve = (.error (.roundIds "round id space exhausted"), ⟨0⟩) := by
  have hlast : c.next = UInt64.ofNat (UInt64.size - 1) := UInt64.toNat_inj.1 (by simp [UInt64.size]; omega)
  rw [reserve, if_pos hlast, hlast]
  rfl

/-- **Before it** the call gets the number that is next, and the counter goes one up. -/
lemma reserve_of_lt (h : c.next.toNat + 1 < 2 ^ 64) :
    c.reserve = (.ok ⟨c.next⟩, ⟨c.next + 1⟩) ∧ (c.next + 1).toNat = c.next.toNat + 1 := by
  have hlast : c.next ≠ UInt64.ofNat (UInt64.size - 1) := by
    intro heq
    rw [heq] at h
    simp [UInt64.size] at h
  rw [reserve, if_neg hlast, UInt64.toNat_add, UInt64.toNat_one]
  exact ⟨rfl, Nat.mod_eq_of_lt h⟩

/-- Of a counter that is not asked beyond the greatest number, the numbers rise from the next one on, and
at most the last call is refused. -/
lemma onlyUp_draw (h : c.next.toNat + n ≤ 2 ^ 64) :
    OnlyUp (c.draw n) ∧ ∀ k ∈ (c.draw n).filterMap number?, c.next.toNat ≤ k := by
  induction n generalizing c with
  | zero => exact ⟨⟨List.Pairwise.nil, List.Pairwise.nil⟩, by simp [draw]⟩
  | succ n ih =>
      rcases Nat.lt_or_ge (c.next.toNat + 1) (2 ^ 64) with hlt | hge
      · obtain ⟨hreserve, hnext⟩ := reserve_of_lt hlt
        obtain ⟨hrest, hlater⟩ := ih (c := ⟨c.next + 1⟩) (by rw [hnext]; omega)
        have hnumbers : (c.draw (n + 1)).filterMap number?
            = c.next.toNat :: (draw ⟨c.next + 1⟩ n).filterMap number? := by rw [draw, hreserve]; rfl
        simp only [hnext] at hlater
        refine ⟨⟨?_, ?_⟩, fun k hk => ?_⟩
        · rw [hnumbers, List.pairwise_cons]
          exact ⟨hlater, hrest.rising⟩
        · rw [draw, hreserve, List.pairwise_cons]
          exact ⟨fun _ _ hnone => (by cases hnone), hrest.final⟩
        · rw [hnumbers, List.mem_cons] at hk
          rcases hk with rfl | hk
          · exact Nat.le_refl _
          · exact Nat.le_of_succ_le (hlater k hk)
      · -- there is no room for a call after the refused one
        obtain rfl : n = 0 := by omega
        have hnumbers : (c.draw 1).filterMap number? = [] := by rw [draw, reserve_of_last (by omega)]; rfl
        rw [hnumbers]
        exact ⟨⟨hnumbers ▸ List.Pairwise.nil, List.pairwise_singleton _ _⟩, by simp⟩

/-- If a refusal was final, the counter was not asked beyond the greatest number: the call after that one is
handed number zero. -/
lemma le_of_final (hfinal : (c.draw n).Pairwise fun earlier later =>
    isNoneLeft earlier = true → isNoneLeft later = true) : c.next.toNat + n ≤ 2 ^ 64 := by
  have hbound := c.next.toNat_lt
  induction n generalizing c with
  | zero => omega
  | succ n ih =>
      rw [draw, List.pairwise_cons] at hfinal
      rcases Nat.lt_or_ge (c.next.toNat + 1) (2 ^ 64) with hlt | hge
      · obtain ⟨hreserve, hnext⟩ := reserve_of_lt hlt
        rw [hreserve] at hfinal
        have hrest := ih hfinal.2 (UInt64.toNat_lt _)
        dsimp only at hrest
        omega
      · rw [reserve_of_last (by omega)] at hfinal
        cases n with
        | zero => omega
        | succ n => exact absurd (hfinal.1 _ List.mem_cons_self rfl) (by decide)

/-- **How often a counter may be asked.**  From a given first number the numbers rise, and a refusal is final,
exactly as long as the counter is not asked again after it was asked for the greatest number. -/
theorem onlyUp_draw_iff (first : RoundId) (n : Nat) :
    OnlyUp ((⟨first.number⟩ : RoundCounter).draw n) ↔ first.toNat + n ≤ 2 ^ 64 :=
  ⟨fun hup => le_of_final hup.final, fun h => (onlyUp_draw h).1⟩

/-- **A number comes after the last.**  The last number is handed out, the next call is refused, and the one
after it gets number zero. -/
theorem not_onlyUp_of_wrap :
    let c : RoundCounter := ⟨18446744073709551614⟩
    c.draw 3 = [.ok ⟨18446744073709551614⟩, .error (.roundIds "round id space exhausted"), .ok ⟨0⟩] ∧
      ¬ OnlyUp (c.draw 3) := by
  intro c
  refine ⟨?_, by decide⟩
  simp [c, draw, reserve, UInt64.size]

end RoundCounter

end MixRounds
