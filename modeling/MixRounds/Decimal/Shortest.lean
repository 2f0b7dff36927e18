/-!
# The shortest decimal that reads back

A binary64 value is `m · 2 ^ q`.  The reals that round to it form an interval around it, and among
the decimals inside that interval the shortest is the one to print: with fewer digits the value
would read back as another one, with more it would say something nobody measured.

For one, two, … seventeen digits the two neighbours of the value on that decimal grid are compared
with the ends of the interval, in whole numbers throughout.  The first grid with a hit wins; of two
hits the nearer is taken.  Which of two equally near ones is taken is for the format to say (`Tie`).
-/

namespace MixRounds

/-- A finite nonnegative binary64 value: `mantissa · 2 ^ exponent`, and whether the gap below it is
half of the gap above, as it is at a power of two. -/
structure Binary64 where
  mantissa : Nat
  exponent : Int
  narrowBelow : Bool

namespace Binary64

/-- The magnitude of a finite value; infinities and NaN have none. -/
def ofFloat? (x : Float) : Option Binary64 :=
  let bits : Nat := x.toBits.toNat
  let field : Nat := (bits >>> 52) % 2048
  let fraction : Nat := bits % (1 <<< 52)
  if field = 2047 then none
  else if field = 0 then some ⟨fraction, -1074, false⟩
  else some ⟨fraction + (1 <<< 52), (field : Int) - 1075, fraction == 0 && field != 1⟩

/-- Whether the sign bit is set, also on a zero. -/
def isNegative (x : Float) : Bool := 0x8000000000000000 ≤ x.toBits.toNat

end Binary64

/-- Which of two equally near decimals is printed. -/
inductive Tie where
  /-- The one with the even last digit. -/
  | even
  /-- The one further from zero. -/
  | away
  deriving DecidableEq, Repr

/-- The decimal `coefficient · 10 ^ exponent`. -/
structure Decimal where
  coefficient : Nat
  exponent : Int
  deriving DecidableEq

namespace Decimal

/-- The numerator and denominator of `10 ^ k`. -/
def power (k : Int) : Nat × Nat := (Nat.pow 10 k.toNat, Nat.pow 10 (-k).toNat)

/-- The least `k` at or above the given one with `num / den < 10 ^ k`, within the fuel. -/
def upperPower (num den : Nat) : Nat → Int → Int
  | 0, k => k
  | fuel + 1, k =>
      let (up, down) := power k
      if num * down < up * den then k else upperPower num den fuel (k + 1)

/-- Move trailing zeros of the coefficient into the exponent. -/
def normalize : Nat → Decimal → Decimal
  | 0, d => d
  | fuel + 1, d =>
      if d.coefficient ≠ 0 ∧ d.coefficient % 10 = 0 then
        normalize fuel ⟨d.coefficient / 10, d.exponent + 1⟩
      else d

/-- The point of the grid `10 ^ k` to print for the value `num / den`, if one lies strictly between
`low / den` and `high / den`, or at an end when the ends count. -/
def onGrid (tie : Tie) (num low high den : Nat) (ends : Bool) (k : Int) : Option Decimal :=
  let (up, down) := power k
  let below := num * down / (up * den)
  let inside (d : Nat) : Bool :=
    let p := d * up * den
    if ends then low * down ≤ p && p ≤ high * down else low * down < p && p < high * down
  let above := below + 1
  match inside below, inside above with
  | false, false => none
  | true, false => some ⟨below, k⟩
  | false, true => some ⟨above, k⟩
  | true, true =>
      let short := num * down - below * up * den
      let long := above * up * den - num * down
      if short < long || (short == long && tie == .even && below % 2 == 0) then some ⟨below, k⟩
      else some ⟨above, k⟩

/-- The first grid with a hit, from `used` digits on, for a value below `10 ^ top`. -/
def firstGrid (tie : Tie) (num low high den : Nat) (ends : Bool) (top : Int) : Nat → Nat → Decimal
  | 0, used => ⟨num * (power (top - used)).2 / ((power (top - used)).1 * den), top - used⟩
  | fuel + 1, used =>
      match onGrid tie num low high den ends (top - used) with
      | some d => d
      | none => firstGrid tie num low high den ends top fuel (used + 1)

/-- The shortest decimal that reads back as the value. -/
def shortest (tie : Tie) (v : Binary64) : Decimal :=
  if v.mantissa = 0 then ⟨0, 0⟩
  else
    let scale := 1 <<< v.exponent.toNat
    let den := 4 <<< (-v.exponent).toNat
    let num := 4 * v.mantissa * scale
    let low := num - (if v.narrowBelow then scale else 2 * scale)
    let high := num + 2 * scale
    let top := upperPower num den 700 (-330)
    normalize 20 (firstGrid tie num low high den (v.mantissa % 2 == 0) top 17 1)

end Decimal

end MixRounds
