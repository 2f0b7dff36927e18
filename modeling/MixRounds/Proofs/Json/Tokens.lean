import Mathlib.Data.Nat.Digits.Defs
import MixRounds.Json.Printer
import MixRounds.Json.Reader

/-!
# Strings and whole numbers of JSON read back

The two kinds of token whose text depends on their value.

* **`stringBody?_escaped`** — a string of any characters comes back from its escaped form, with the
  text behind its closing quote.
* **`number?_intChars`** — a whole number that fits 64 bits comes back from its decimal digits, as
  long as what follows cannot be taken for more of the number (`Delimited`).
-/

namespace MixRounds.Json

/-! ## Strings -/

lemma hexDigit?_digit {n : Nat} (h : n < 16) : hexDigit? (Hex.digit n) = some n := by
  have hmem : n ∈ List.range 16 := List.mem_range.2 h
  revert n
  decide

/-- A control by its number: below 32 the two leading digits are zero. -/
lemma namedChar?_control {c : Char} (h : c.toNat < 32) (rest : List Char) :
    namedChar? ('0' :: '0' :: Hex.digit (c.toNat / 16) :: Hex.digit (c.toNat % 16) :: rest) =
      some (c, rest) := by
  have hzero : hexDigit? '0' = some 0 := by decide
  have hhigh := hexDigit?_digit (show c.toNat / 16 < 16 by omega)
  have hlow := hexDigit?_digit (show c.toNat % 16 < 16 by omega)
  have hsum : c.toNat / 16 * 16 + c.toNat % 16 = c.toNat := Nat.div_add_mod' _ _
  have hbasic : c.toNat < 0xD800 := by omega
  simp [namedChar?, codeUnit?, hzero, hhigh, hlow, hsum, hbasic, Char.ofNat_toNat]

/-- A backslash and the letter of `c`. -/
lemma stringBody?_simpleEscape {e c : Char} (he : e ≠ 'u') (hc : simpleEscape? e = some c)
    (fuel : Nat) (cs : List Char) :
    stringBody? (fuel + 1) ('\\' :: e :: cs) = (stringBody? fuel cs).map fun r => (c :: r.1, r.2) := by
  cases h : stringBody? fuel cs <;> simp [stringBody?, he, hc, h]

/-- One escaped character is read in one step. -/
lemma stringBody?_escapedChar (fuel : Nat) (c : Char) (cs : List Char) :
    stringBody? (fuel + 1) (escapedChar c ++ cs) =
      (stringBody? fuel cs).map fun r => (c :: r.1, r.2) := by
  have hnamed {n : Nat} (hc : c.toNat = n) : Char.ofNat n = c := by rw [← hc, Char.ofNat_toNat]
  unfold escapedChar
  split_ifs with hquote hslash hcontrol h8 h9 h10 h12 h13
  · exact stringBody?_simpleEscape (by decide) (by rw [hquote]; rfl) fuel cs
  · exact stringBody?_simpleEscape (by decide) (by rw [hslash]; rfl) fuel cs
  · exact stringBody?_simpleEscape (by decide) (by rw [← hnamed h8]; rfl) fuel cs
  · exact stringBody?_simpleEscape (by decide) (by rw [← hnamed h9]; rfl) fuel cs
  · exact stringBody?_simpleEscape (by decide) (by rw [← hnamed h10]; rfl) fuel cs
  · exact stringBody?_simpleEscape (by decide) (by rw [← hnamed h12]; rfl) fuel cs
  · exact stringBody?_simpleEscape (by decide) (by rw [← hnamed h13]; rfl) fuel cs
  · cases h : stringBody? fuel cs <;> simp [stringBody?, namedChar?_control hcontrol cs, h]
  · cases h : stringBody? fuel cs <;> simp [stringBody?, hquote, hslash, hcontrol, h]

lemma length_escapedChar_pos (c : Char) : 0 < (escapedChar c).length := by
  unfold escapedChar
  split_ifs <;> simp

/-- **A string reads back** from between its quotes. -/
theorem stringBody?_escaped (cs rest : List Char) :
    ∀ fuel, (cs.flatMap escapedChar).length < fuel →
      stringBody? fuel (cs.flatMap escapedChar ++ '"' :: rest) = some (cs, rest) := by
  induction cs with
  | nil =>
      intro fuel hfuel
      obtain ⟨fuel, rfl⟩ := Nat.exists_eq_add_of_lt hfuel
      simp [stringBody?]
  | cons c cs ih =>
      intro fuel hfuel
      rw [List.flatMap_cons, List.length_append] at hfuel
      have hpos := length_escapedChar_pos c
      obtain ⟨fuel, rfl⟩ : ∃ k, fuel = k + 1 := ⟨fuel - 1, by omega⟩
      rw [List.flatMap_cons, List.append_assoc, stringBody?_escapedChar, ih fuel (by omega)]
      rfl

/-! ## Whole numbers -/

/-- What may stand behind a value: nothing, or a mark that ends it. -/
def Delimited : List Char → Prop
  | [] => True
  | c :: _ => c = ',' ∨ c = ']' ∨ c = '\x7d'

/-- As many digits as fit are added up, and those of a number in range all fit. -/
lemma addDigits_append {rest : List Char} (hrest : Delimited rest) (digits : List Char)
    (hdigits : ∀ c ∈ digits, c.isDigit) :
    ∀ start, Nat.ofDigitChars 10 digits start ≤ significandLimit →
      addDigits start (digits ++ rest) =
        (Nat.ofDigitChars 10 digits start, digits.length, false, rest) := by
  induction digits with
  | nil =>
      intro start _
      cases rest with
      | nil => rfl
      | cons c more =>
          have hc : c.isDigit = false := by rcases hrest with rfl | rfl | rfl <;> rfl
          simp [addDigits, hc]
  | cons c digits ih =>
      intro start hfits
      have hc : c.isDigit := hdigits c List.mem_cons_self
      rw [Nat.ofDigitChars_cons, show '0'.toNat = 48 from rfl, Nat.mul_comm] at hfits
      have hgrows : start * 10 + (c.toNat - 48) ≤
          Nat.ofDigitChars 10 digits (start * 10 + (c.toNat - 48)) := by
        rw [Nat.ofDigitChars_eq_ofDigitChars_zero]
        have := Nat.one_le_pow digits.length 10 (by decide)
        exact le_add_right (Nat.le_mul_of_pos_left _ this)
      have hstep : ¬ significandLimit < start * 10 + (c.toNat - 48) := by omega
      rw [List.cons_append, addDigits, if_pos hc]
      simp only [if_neg hstep]
      rw [ih (fun d hd => hdigits d (List.mem_cons_of_mem c hd)) _ hfits, Nat.ofDigitChars_cons,
        show '0'.toNat = 48 from rfl, Nat.mul_comm 10]
      rfl

/-- Only the number zero begins with a zero. -/
lemma toDigits_head (n : Nat) :
    ∃ c more, Nat.toDigits 10 n = c :: more ∧ c.isDigit ∧ (c = '0' → more = []) := by
  induction n using Nat.strongRecOn with
  | _ n ih =>
      by_cases hn : n < 10
      · refine ⟨n.digitChar, [], Nat.toDigits_of_lt_base hn, ?_, fun _ => rfl⟩
        exact Nat.isDigit_of_mem_toDigits (b := 10) (by decide) (by decide)
          (by rw [Nat.toDigits_of_lt_base hn]; exact List.mem_singleton_self _)
      · obtain ⟨c, more, hhead, hc, hzero⟩ := ih (n / 10) (by omega)
        have hsplit := Nat.toDigits_of_base_le (b := 10) (by decide) (Nat.le_of_not_lt hn)
        refine ⟨c, more ++ [(n % 10).digitChar], by rw [hsplit, hhead]; rfl, hc, fun h => ?_⟩
        -- a single zero digit before the last one would make `n / 10` zero
        have hvalue := Nat.ofDigitChars_ten_toDigits (n := n / 10)
        rw [hhead, hzero h, h] at hvalue
        have : n / 10 = 0 := hvalue.symm
        omega

/-- The magnitude of a whole number in range. -/
lemma magnitude?_toDigits {rest : List Char} (hrest : Delimited rest) (negative : Bool) (n : Nat)
    (hfits : n ≤ significandLimit) (hsigned : negative → n ≠ 0 ∧ n ≤ 0x8000000000000000) :
    magnitude? negative (Nat.toDigits 10 n ++ rest) =
      some (.int (if negative then -n else n), rest) := by
  obtain ⟨c, more, hhead, hc, hzero⟩ := toDigits_head n
  have hall : ∀ d ∈ Nat.toDigits 10 n, d.isDigit := fun d hd =>
    Nat.isDigit_of_mem_toDigits (by decide) (by decide) hd
  have hvalue : Nat.ofDigitChars 10 (Nat.toDigits 10 n) 0 = n := Nat.ofDigitChars_ten_toDigits
  have hadd := addDigits_append hrest (Nat.toDigits 10 n) hall 0 (by rwa [hvalue])
  rw [hvalue] at hadd
  have hlead : ¬ (c = '0' ∧ ((more ++ rest).head?.map Char.isDigit).getD false) := by
    rintro ⟨h, hnext⟩
    rw [hzero h] at hnext
    cases rest with
    | nil => exact absurd hnext (by decide)
    | cons d _ => rcases hrest with rfl | rfl | rfl <;> exact absurd hnext Bool.false_ne_true
  rw [hhead, List.cons_append] at hadd ⊢
  rw [magnitude?]
  simp only [hc, not_true_eq_false, if_false, hlead, hadd, Bool.false_eq_true]
  have hplain : (if ¬ negative then pure (Json.int n, rest)
      else if n = 0 ∨ 0x8000000000000000 < n then pure (.float (-n.toUInt64.toFloat), rest)
      else pure (.int (-n), rest) : Option (Json × List Char)) =
      some (.int (if negative then -n else n), rest) := by
    cases negative with
    | false => simp
    | true =>
        have := hsigned rfl
        have hrange : ¬ (n = 0 ∨ 0x8000000000000000 < n) := by omega
        simp [hrange]
  cases rest with
  | nil => exact hplain
  | cons d _ => rcases hrest with rfl | rfl | rfl <;> exact hplain

/-- Whole numbers from the least signed to the greatest unsigned one of 64 bits. -/
def FitsWord (i : Int) : Prop := -0x8000000000000000 ≤ i ∧ i ≤ significandLimit

/-- **A whole number reads back** from its digits. -/
theorem number?_intChars {rest : List Char} (hrest : Delimited rest) {i : Int} (hi : FitsWord i) :
    number? (intChars i ++ rest) = some (.int i, rest) := by
  obtain ⟨hlow, hhigh⟩ := hi
  cases i with
  | ofNat n =>
      obtain ⟨c, more, hhead, hc, -⟩ := toDigits_head n
      have hsign : c ≠ '-' := by rintro rfl; exact absurd hc (by decide)
      have hread := magnitude?_toDigits hrest false n (by simpa using hhigh) (by simp)
      rw [intChars]
      rw [hhead, List.cons_append] at hread ⊢
      rw [number?.eq_2 _ (by rintro cs h; exact hsign (List.cons.inj h).1), hread]
      rfl
  | negSucc n =>
      have hbound : n + 1 ≤ 0x8000000000000000 := by omega
      have hread := magnitude?_toDigits hrest true (n + 1)
        (hbound.trans (by decide)) (fun _ => ⟨Nat.succ_ne_zero n, hbound⟩)
      rw [intChars, List.cons_append, number?, hread]
      rfl

end MixRounds.Json
