/-!
# Reading a number from text

Numbers come from settings files and command lines as text.  A whole number is a run of digits, with a
plus sign at most; a real number is digits with a point and an exponent, either of which may be missing,
or one of the words for infinity and not-a-number.  The binary64 value is the one nearest to the decimal
that was written, however many digits it has.
-/

namespace MixRounds.Decimal

/-- The value of a run of digits below `base`, or none if there is another character or nothing. -/
def digits? (base : Nat) (cs : List Char) : Option Nat :=
  if cs.isEmpty then none
  else cs.foldlM (fun n c =>
    let d :=
      if '0' ≤ c ∧ c ≤ '9' then c.toNat - 48
      else if 'a' ≤ c ∧ c ≤ 'z' then c.toNat - 87
      else if 'A' ≤ c ∧ c ≤ 'Z' then c.toNat - 55
      else base
    if d < base then some (base * n + d) else none) 0

/-- A whole number without a sign, or with a plus sign, below `bound`. -/
def natural? (base bound : Nat) (cs : List Char) : Option Nat := do
  let n ← digits? base (match cs with
    | '+' :: rest => rest
    | _ => cs)
  if n < bound then return n else none

/-- `coefficient · 10 ^ exponent`, rounded to the nearest binary64 value. -/
def toFloat (coefficient : Nat) (exponent : Int) : Float :=
  if coefficient = 0 then 0.0
  else
    let magnitude := exponent + ((Nat.toDigits 10 coefficient).length : Int)
    if 310 < magnitude then 1.0 / 0.0
    else if magnitude < -330 then 0.0
    else if 0 ≤ exponent then Float.ofScientific coefficient false exponent.toNat
    else Float.ofScientific coefficient true (-exponent).toNat

/-- A signed exponent. -/
def exponent? (cs : List Char) : Option Int :=
  match cs with
  | '-' :: rest => (digits? 10 rest).map fun n => -(n : Int)
  | '+' :: rest => (digits? 10 rest).map fun n => (n : Int)
  | _ => (digits? 10 cs).map fun n => (n : Int)

/-- Digits with at most one point, and the power of ten that stands after them. -/
def mantissa? (cs : List Char) (exponent : Int) : Option Float := do
  let whole := cs.takeWhile (· ≠ '.')
  let fraction := (cs.dropWhile (· ≠ '.')).drop 1
  let n ← digits? 10 (whole ++ fraction)
  return toFloat n (exponent - fraction.length)

/-- A real number without a sign. -/
def unsigned? (cs : List Char) : Option Float :=
  let word := String.ofList (cs.map Char.toLower)
  if word = "inf" ∨ word = "infinity" then some (1.0 / 0.0)
  else if word = "nan" then some (0.0 / 0.0)
  else
    let isMark (c : Char) : Bool := c == 'e' || c == 'E'
    let body := cs.takeWhile fun c => !isMark c
    match cs.dropWhile fun c => !isMark c with
    | [] => mantissa? body 0
    | _ :: power => (exponent? power).bind (mantissa? body)

/-- A real number. -/
def real? : List Char → Option Float
  | '-' :: rest => (unsigned? rest).map fun x => -x
  | '+' :: rest => unsigned? rest
  | cs => unsigned? cs

end MixRounds.Decimal
