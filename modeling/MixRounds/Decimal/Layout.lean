import MixRounds.Decimal.Shortest

/-!
# Laying out a decimal

The digits of a floating-point number are settled (`Decimal.shortest`); this module decides how they
are spread over the line.  A layout says which of two equally short and equally near decimals is
written, for which magnitudes the number is written positionally, whether a whole number keeps its
`.0`, how an exponent is signed, and what stands for the values that have no digits.
-/

namespace MixRounds

/-- How a floating-point number is spelled. -/
structure FloatLayout where
  /-- The choice between two equally near decimals. -/
  tie : Tie
  /-- Written without an exponent, given the power of ten of the leading digit. -/
  positional : Int → Bool
  /-- Whole numbers written positionally end in `.0`. -/
  keepsPoint : Bool
  /-- A positive exponent carries a plus sign. -/
  plusSign : Bool
  nan : String
  infinity : String
  negativeInfinity : String

namespace FloatLayout

/-- The digits of a decimal without an exponent. -/
def plain (keepsPoint : Bool) (d : Decimal) : String :=
  let digits := toString d.coefficient
  if 0 ≤ d.exponent then
    let whole := digits ++ (if d.coefficient = 0 then "" else "".pushn '0' d.exponent.toNat)
    if keepsPoint then whole ++ ".0" else whole
  else
    let places := (-d.exponent).toNat
    let padded := "".pushn '0' (places + 1 - digits.length) ++ digits
    let cs := padded.toList
    String.ofList (cs.take (cs.length - places)) ++ "." ++
      String.ofList (cs.drop (cs.length - places))

/-- One digit, the rest after the point, and the exponent. -/
def scientific (plusSign : Bool) (d : Decimal) (magnitude : Int) : String :=
  let cs := (toString d.coefficient).toList
  let tail := cs.drop 1
  String.ofList (cs.take 1) ++ (if tail.isEmpty then "" else "." ++ String.ofList tail) ++ "e" ++
    (if plusSign && 0 < magnitude then "+" else "") ++ toString magnitude

/-- The text of `x` in this layout: the shortest digits that read back. -/
def text (style : FloatLayout) (x : Float) : String :=
  match Binary64.ofFloat? x with
  | none =>
      if x.toBits.toNat % (1 <<< 52) ≠ 0 then style.nan
      else if Binary64.isNegative x then style.negativeInfinity
      else style.infinity
  | some v =>
      let d := Decimal.shortest style.tie v
      let magnitude : Int := d.exponent + ((toString d.coefficient).length : Int) - 1
      let digits :=
        if d.coefficient = 0 || style.positional magnitude then plain style.keepsPoint d
        else scientific style.plusSign d magnitude
      if Binary64.isNegative x then "-" ++ digits else digits

/-- In JSON answers a number is positional from `0.00001` up to sixteen digits, and a tie goes to the
even digit. -/
def json : FloatLayout :=
  ⟨.even, fun m => -5 ≤ m && m ≤ 15, true, true, "null", "null", "null"⟩

/-- In settings files the same range is positional, and the exponent carries no plus sign. -/
def settings : FloatLayout :=
  ⟨.even, fun m => -5 ≤ m && m ≤ 15, true, false, ".nan", ".inf", "-.inf"⟩

/-- In messages a number is always positional, a whole one has no point, and a tie goes away from
zero. -/
def message : FloatLayout :=
  ⟨.away, fun _ => true, false, false, "NaN", "inf", "-inf"⟩

end FloatLayout

end MixRounds
