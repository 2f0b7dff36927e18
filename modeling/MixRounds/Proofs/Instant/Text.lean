import MixRounds.Instant.Text
import MixRounds.Proofs.Instant.Calendar

/-!
# The text of an instant reads back

An instant in the years that are written with four digits and without a sign, and outside a leap
second (`Ordinary`), is read from its own text: **`ofText?_text`**.  The reader takes a part at a time
and each part is written at a fixed width, apart from the fraction, whose three widths all stop at the
letter behind it.
-/

namespace MixRounds.Instant

/-- The year in which the instant lies. -/
def year (t : Instant) : Int := (Date.ofDays (t.seconds / 86400)).year

/-- The text of the year has four digits, and the clock is not inside a leap second. -/
structure Ordinary (t : Instant) : Prop where
  first : 0 ≤ t.year
  last : t.year ≤ 9999
  nanos : t.nanos < 1000000000

/-! ## Digits of fixed width -/

lemma digitsValue_eq (digits : List Char) : digitsValue digits = Nat.ofDigitChars 10 digits 0 := by
  rw [Nat.ofDigitChars_eq_foldl]
  rfl

lemma digit_spec {n : Nat} (h : n < 10) :
    (Char.ofNat (48 + n)).isDigit ∧ (Char.ofNat (48 + n)).toNat - 48 = n := by
  have hmem : n ∈ List.range 10 := List.mem_range.2 h
  revert n
  decide

lemma length_fixedDigits (width n : Nat) : (fixedDigits width n).length = width := by
  induction width generalizing n with
  | zero => rfl
  | succ width ih => rw [fixedDigits, List.length_append, ih, List.length_singleton]

lemma isDigit_of_mem_fixedDigits {width n : Nat} {c : Char} (h : c ∈ fixedDigits width n) :
    c.isDigit := by
  induction width generalizing n with
  | zero => exact absurd h List.not_mem_nil
  | succ width ih =>
      rw [fixedDigits, List.mem_append, List.mem_singleton] at h
      obtain h | rfl := h
      · exact ih h
      · exact (digit_spec (Nat.mod_lt n (by decide))).1

lemma digitsValue_fixedDigits (width n : Nat) :
    digitsValue (fixedDigits width n) = n % 10 ^ width := by
  rw [digitsValue_eq]
  induction width generalizing n with
  | zero => rw [pow_zero, Nat.mod_one]; rfl
  | succ width ih =>
      have hlast := (digit_spec (Nat.mod_lt n (show 0 < 10 by decide))).2
      rw [fixedDigits, Nat.ofDigitChars_append, ih, Nat.ofDigitChars_cons, Nat.ofDigitChars_nil,
        show '0'.toNat = 48 from rfl, hlast, pow_succ', Nat.mod_mul, Nat.add_comm]

lemma trimLeft_of_isDigit {c : Char} (hc : c.isDigit) (cs : List Char) :
    Text.trimLeft (c :: cs) = c :: cs := by
  have hplain : Text.isBlank c = false := by
    have hrange : 48 ≤ c.toNat ∧ c.toNat ≤ 57 := by
      simpa [Char.isDigit, UInt32.le_iff_toNat_le] using hc
    simp only [Text.isBlank, Bool.or_eq_false_iff, Bool.and_eq_false_iff, decide_eq_false_iff_not,
      beq_eq_false_iff_ne]
    omega
  simp [Text.trimLeft, hplain]

/-- A run of digits ends where the width is used up or no digit follows. -/
lemma leadingDigits_append {digits : List Char} (hdigits : ∀ c ∈ digits, c.isDigit)
    (rest : List Char) {width : Nat} (hwidth : digits.length ≤ width)
    (hstop : digits.length = width ∨ ∀ c ∈ rest.head?, c.isDigit = false) :
    leadingDigits width (digits ++ rest) = (digits, rest) := by
  induction digits generalizing width with
  | nil =>
      obtain rfl | hstop := hstop
      · rfl
      · cases width with
        | zero => rfl
        | succ width =>
            cases rest with
            | nil => rfl
            | cons c rest => simp [leadingDigits, hstop c rfl]
  | cons c digits ih =>
      obtain ⟨width, rfl⟩ : ∃ k, width = k + 1 := ⟨width - 1, by rw [List.length_cons] at hwidth; omega⟩
      have hrec := ih (fun d hd => hdigits d (List.mem_cons_of_mem c hd))
        (Nat.le_of_succ_le_succ hwidth) (hstop.imp_left Nat.succ.inj)
      simp [leadingDigits, hdigits c List.mem_cons_self, hrec]

/-- A number of full width. -/
lemma number?_fixedDigits (width : Nat) {n : Nat} (hwidth : 0 < width) (hn : n < 10 ^ width)
    (rest : List Char) : number? width (fixedDigits width n ++ rest) = some (n, rest) := by
  have hlength := length_fixedDigits width n
  have hvalue := digitsValue_fixedDigits width n
  have hlead := leadingDigits_append (fun c => isDigit_of_mem_fixedDigits (c := c)) rest
    (Nat.le_of_eq hlength) (Or.inl hlength)
  rw [Nat.mod_eq_of_lt hn] at hvalue
  obtain ⟨c, more, hhead⟩ : ∃ c more, fixedDigits width n = c :: more :=
    List.exists_cons_of_length_pos (by omega)
  have hc : c.isDigit := isDigit_of_mem_fixedDigits (by rw [hhead]; exact List.mem_cons_self)
  rw [hhead] at hvalue hlead ⊢
  rw [number?, List.cons_append, trimLeft_of_isDigit hc, ← List.cons_append, hlead]
  simp [hvalue]

/-! ## The parts of the text -/

lemma year?_yearChars {y : Int} (hfirst : 0 ≤ y) (hlast : y ≤ 9999) (rest : List Char) :
    year? (yearChars y ++ rest) = some (y, rest) := by
  have hsize : y.natAbs < 10000 := by omega
  have hread := number?_fixedDigits 4 (by decide) hsize rest
  have hwritten : yearChars y = fixedDigits 4 y.natAbs := by
    simp [yearChars, hsize, hfirst, hlast]
  obtain ⟨c, more, hhead⟩ : ∃ c more, fixedDigits 4 y.natAbs = c :: more :=
    List.exists_cons_of_length_pos (by rw [length_fixedDigits]; decide)
  have hc : c.isDigit := isDigit_of_mem_fixedDigits (by rw [hhead]; exact List.mem_cons_self)
  rw [hwritten]
  rw [hhead, List.cons_append] at hread ⊢
  rw [year?, trimLeft_of_isDigit hc]
  split
  case h_1 h => rw [(List.cons.inj h).1] at hc; exact absurd hc (by decide)
  case h_2 h => rw [(List.cons.inj h).1] at hc; exact absurd hc (by decide)
  case h_3 =>
    simp only [hread, Option.bind_eq_bind, Option.bind_some, Option.pure_def]
    rw [Int.natAbs_of_nonneg hfirst]

lemma ranged?_fixedDigits {low high n : Nat} (hlow : low ≤ n) (hhigh : n ≤ high) (hn : n < 100)
    (rest : List Char) : ranged? low high (fixedDigits 2 n ++ rest) = some (n, rest) := by
  simp [ranged?, number?_fixedDigits 2 (by decide) hn, hlow, hhigh]

lemma mark?_cons {m : Char} (hm : Text.isBlank m = false) (rest : List Char) :
    mark? m (m :: rest) = some rest := by
  simp [mark?, Text.trimLeft, hm]

/-- A fraction of any width up to nine digits is scaled to nanoseconds. -/
lemma fraction?_fixedDigits {width n : Nat} (hpos : 0 < width) (hwidth : width ≤ 9)
    (hn : n < 10 ^ width) :
    fraction? ('.' :: (fixedDigits width n ++ ['Z'])) = some (n * 10 ^ (9 - width), ['Z']) := by
  have hlength := length_fixedDigits width n
  have hvalue := digitsValue_fixedDigits width n
  have hlead := leadingDigits_append (fun c => isDigit_of_mem_fixedDigits (c := c)) ['Z']
    (hlength ▸ hwidth) (Or.inr (by rintro c ⟨⟩; rfl))
  have hsome : (fixedDigits width n).isEmpty = false := by
    rw [← Bool.not_eq_true, List.isEmpty_iff_length_eq_zero]
    omega
  rw [Nat.mod_eq_of_lt hn] at hvalue
  rw [fraction?, hlead]
  simp only [hsome, hvalue, hlength]
  rfl

lemma fraction?_fractionChars {nanos : Nat} (h : nanos < 1000000000) :
    fraction? (fractionChars nanos ++ ['Z']) = some (nanos, ['Z']) := by
  unfold fractionChars
  split_ifs with hzero hmillis hmicros
  · rw [hzero]; rfl
  · rw [List.cons_append, fraction?_fixedDigits (by decide) (by decide) (by omega)]
    exact congrArg (fun n => some (n, ['Z'])) (by omega)
  · rw [List.cons_append, fraction?_fixedDigits (by decide) (by decide) (by omega)]
    exact congrArg (fun n => some (n, ['Z'])) (by omega)
  · rw [List.cons_append, fraction?_fixedDigits (by decide) (by decide) (by omega)]
    exact congrArg (fun n => some (n, ['Z'])) (by omega)

lemma offset?_zulu : offset? (Text.trimLeft ['Z']) = some (0, []) := by decide

/-! ## The whole text -/

/-- **An ordinary instant reads back from its text.** -/
theorem ofText?_text {t : Instant} (h : t.Ordinary) : ofText? t.text = some t := by
  obtain ⟨hfirst, hlast, hnanos⟩ := h
  rw [year] at hfirst hlast
  obtain ⟨hmonth, hmonth', hday, hday'⟩ := Date.ranges_ofDays (t.seconds / 86400)
  have hclock : (t.seconds % 86400).toNat < 86400 := by omega
  have hhour : (t.seconds % 86400).toNat / 3600 ≤ 23 := by omega
  have hminute : (t.seconds % 86400).toNat / 60 % 60 ≤ 59 := by omega
  have hsecond : (t.seconds % 86400).toNat % 60 ≤ 60 := by omega
  have hplain : ¬ (t.seconds % 86400).toNat % 60 = 60 := by omega
  have hsum : t.seconds / 86400 * 86400 + ((((t.seconds % 86400).toNat / 3600 * 3600 +
      (t.seconds % 86400).toNat / 60 % 60 * 60 + (t.seconds % 86400).toNat % 60 : Nat)) : Int) - 0 =
      t.seconds := by omega
  have hrange : yearInRange (Date.ofDays (t.seconds / 86400)).year = true := by
    simp only [yearInRange, Bool.and_eq_true, decide_eq_true_eq]
    omega
  have hdate : (⟨(Date.ofDays (t.seconds / 86400)).year, (Date.ofDays (t.seconds / 86400)).month,
      (Date.ofDays (t.seconds / 86400)).day⟩ : Date) = Date.ofDays (t.seconds / 86400) := rfl
  rw [ofText?, text, String.toList_ofList, chars]
  simp only [hnanos, if_true]
  rw [ofChars?]
  refine Option.bind_eq_some_iff.2 ⟨_, year?_yearChars hfirst hlast _, ?_⟩
  refine Option.bind_eq_some_iff.2 ⟨_, mark?_cons rfl _, ?_⟩
  refine Option.bind_eq_some_iff.2 ⟨_, ranged?_fixedDigits hmonth hmonth' (by omega) _, ?_⟩
  refine Option.bind_eq_some_iff.2 ⟨_, mark?_cons rfl _, ?_⟩
  refine Option.bind_eq_some_iff.2 ⟨_, ranged?_fixedDigits hday hday' (by omega) _, ?_⟩
  refine (if_pos (Or.inl rfl)).trans (Option.bind_eq_some_iff.2 ⟨_, rfl, ?_⟩)
  refine Option.bind_eq_some_iff.2 ⟨_, ranged?_fixedDigits (Nat.zero_le _) hhour (by omega) _, ?_⟩
  refine Option.bind_eq_some_iff.2 ⟨_, mark?_cons rfl _, ?_⟩
  refine Option.bind_eq_some_iff.2 ⟨_, ranged?_fixedDigits (Nat.zero_le _) hminute (by omega) _, ?_⟩
  refine Option.bind_eq_some_iff.2 ⟨_, mark?_cons rfl _, ?_⟩
  refine Option.bind_eq_some_iff.2 ⟨_, ranged?_fixedDigits (Nat.zero_le _) hsecond (by omega) _, ?_⟩
  refine Option.bind_eq_some_iff.2 ⟨_, fraction?_fractionChars hnanos, ?_⟩
  refine Option.bind_eq_some_iff.2 ⟨_, offset?_zulu, ?_⟩
  simp only [beq_iff_eq, hplain, if_false, hdate, Date.isValid_ofDays, Date.toDays_ofDays, hsum, hrange]
  rfl

end MixRounds.Instant
