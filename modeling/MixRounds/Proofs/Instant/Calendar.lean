import Mathlib.Algebra.BigOperators.Group.List.Basic
import Mathlib.Algebra.GroupWithZero.Nat
import MixRounds.Instant.Calendar

/-!
# Days and dates correspond

`Date.ofDays` finds a date of the calendar (**`isValid_ofDays`**), and counting that date's days gives
the day back (**`toDays_ofDays`**).  The year is right by `daysBeforeYear_yearOf_le` and
`lt_daysBeforeYear_yearOf_succ`; what is left of the day after the years is spread over the months,
and the walk over their lengths stops in the right one (`monthDay_spec`).
-/

namespace MixRounds.Date

lemma daysBeforeMonth_eq (leap : Bool) (month : Nat) :
    daysBeforeMonth leap month = ((monthLengths leap).take (month - 1)).sum := by
  rw [daysBeforeMonth, List.sum_eq_foldl]

lemma sum_monthLengths (leap : Bool) :
    (monthLengths leap).sum = if leap then 366 else 365 := by cases leap <;> rfl

/-- The walk stops at the first length that the remaining days do not fill. -/
lemma monthDay_spec (lengths : List Nat) :
    ∀ month rest, rest < lengths.sum → ∃ i, ∃ hi : i < lengths.length,
      monthDay lengths month rest = (month + i, rest - (lengths.take i).sum + 1) ∧
        (lengths.take i).sum ≤ rest ∧ rest < (lengths.take i).sum + lengths[i] := by
  induction lengths with
  | nil => intro month rest h; exact absurd h (Nat.not_lt_zero _)
  | cons length lengths ih =>
      intro month rest h
      rw [monthDay]
      by_cases hfirst : rest < length
      · exact ⟨0, Nat.zero_lt_succ _, by simp [hfirst], Nat.zero_le _, by simpa using hfirst⟩
      · rw [List.sum_cons] at h
        obtain ⟨i, hi, hwalk, hlow, hhigh⟩ := ih (month + 1) (rest - length) (by omega)
        refine ⟨i + 1, Nat.succ_lt_succ hi, ?_, ?_, ?_⟩
        · rw [if_neg hfirst, hwalk, List.take_succ_cons, List.sum_cons, Nat.sub_sub,
            Nat.add_right_comm, Nat.add_assoc]
        · rw [List.take_succ_cons, List.sum_cons]
          omega
        · rw [List.take_succ_cons, List.sum_cons, List.getElem_cons_succ]
          omega

/-- Where in its year a day lies. -/
lemma dayOfYear_lt (n : Int) :
    (n - daysBeforeYear (yearOf n)).toNat < (monthLengths (isLeap (yearOf n))).sum := by
  have hnext := lt_daysBeforeYear_yearOf_succ n
  rw [daysBeforeYear_succ] at hnext
  rw [sum_monthLengths]
  split at hnext <;> simp_all <;> omega

/-- The month and the day of a date that was found. -/
lemma ofDays_spec (days : Int) :
    ∃ i, ∃ hi : i < (monthLengths (isLeap (ofDays days).year)).length,
      let lengths := monthLengths (isLeap (ofDays days).year)
      let rest := days + epochDays - daysBeforeYear (ofDays days).year
      (ofDays days).month = i + 1 ∧ ((ofDays days).day : Int) = rest - (lengths.take i).sum + 1 ∧
        (ofDays days).day ≤ lengths[i] ∧ 1 ≤ (ofDays days).day := by
  have hstart := daysBeforeYear_yearOf_le (days + epochDays)
  obtain ⟨i, hi, hwalk, hlow, hhigh⟩ := monthDay_spec _ 1 _ (dayOfYear_lt (days + epochDays))
  refine ⟨i, hi, ?_⟩
  simp only [ofDays, hwalk]
  refine ⟨Nat.add_comm 1 i, ?_, ?_, Nat.le_add_left 1 _⟩
  · omega
  · omega

/-- **The date of a day is a date of the calendar.** -/
theorem isValid_ofDays (days : Int) : (ofDays days).isValid = true := by
  obtain ⟨i, hi, hmonth, -, hhigh, hpos⟩ := ofDays_spec days
  have hbound : i < 12 := hi
  have hlength : daysInMonth (isLeap (ofDays days).year) (i + 1) =
      (monthLengths (isLeap (ofDays days).year))[i] := by
    rw [daysInMonth, if_neg (Nat.succ_ne_zero i), Nat.add_sub_cancel, List.getElem?_eq_getElem hi]
    rfl
  simp only [isValid, Bool.and_eq_true, decide_eq_true_eq, hmonth, hlength]
  omega

/-- **The days of a day's date are that day.** -/
theorem toDays_ofDays (days : Int) : (ofDays days).toDays = days := by
  obtain ⟨i, hi, hmonth, hday, -, -⟩ := ofDays_spec days
  rw [toDays, daysBeforeMonth_eq, hmonth, Nat.add_sub_cancel, hday]
  omega

/-- The months and days that a date can have. -/
lemma ranges_ofDays (days : Int) :
    1 ≤ (ofDays days).month ∧ (ofDays days).month ≤ 12 ∧ 1 ≤ (ofDays days).day ∧
      (ofDays days).day ≤ 31 := by
  obtain ⟨i, hi, hmonth, -, hhigh, hpos⟩ := ofDays_spec days
  have hlongest : ∀ leap, ∀ length ∈ monthLengths leap, length ≤ 31 := by decide
  have := hlongest _ _ (List.getElem_mem hi)
  have hbound : i < 12 := hi
  omega

end MixRounds.Date
