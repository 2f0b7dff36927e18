import MixRounds.Instant.Basic
import MixRounds.Instant.Calendar
import MixRounds.Text.Blank

/-!
# The text of an instant

Written in one way — `2024-05-06T07:08:09.250Z`, universal time, a fraction of 0, 3, 6 or 9 digits,
whichever is the first to be exact — and read in many: blanks may stand around the numbers, numbers
may lack their leading zeros, any offset from universal time is taken, and digits beyond the
nanosecond are dropped.  A year outside `0000` to `9999` carries a sign.
-/

namespace MixRounds.Instant

/-! ## Writing -/

/-- The last `width` decimal digits of `n`. -/
def fixedDigits : Nat → Nat → List Char
  | 0, _ => []
  | width + 1, n => fixedDigits width (n / 10) ++ [Char.ofNat (48 + n % 10)]

/-- A year: four digits, or a sign and at least four digits. -/
def yearChars (year : Int) : List Char :=
  let size := year.natAbs
  let digits := if size < 10000 then fixedDigits 4 size else Nat.toDigits 10 size
  if 0 ≤ year ∧ year ≤ 9999 then digits
  else if year < 0 then '-' :: digits
  else '+' :: digits

/-- The fraction of a second with its point, or nothing. -/
def fractionChars (nanos : Nat) : List Char :=
  if nanos = 0 then []
  else if nanos % 1000000 = 0 then '.' :: fixedDigits 3 (nanos / 1000000)
  else if nanos % 1000 = 0 then '.' :: fixedDigits 6 (nanos / 1000)
  else '.' :: fixedDigits 9 nanos

/-- The text of an instant. -/
def chars (t : Instant) : List Char :=
  let date := Date.ofDays (t.seconds / 86400)
  let clock := (t.seconds % 86400).toNat
  let second := if t.nanos < 1000000000 then clock % 60 else clock % 60 + 1
  let nanos := if t.nanos < 1000000000 then t.nanos else t.nanos - 1000000000
  yearChars date.year ++ '-' :: (fixedDigits 2 date.month ++ '-' :: (fixedDigits 2 date.day ++
    'T' :: (fixedDigits 2 (clock / 3600) ++ ':' :: (fixedDigits 2 (clock / 60 % 60) ++
      ':' :: (fixedDigits 2 second ++ (fractionChars nanos ++ ['Z']))))))

/-- The text of an instant as a string. -/
def text (t : Instant) : String := String.ofList t.chars

/-! ## Reading -/

/-- The value of a run of digits. -/
def digitsValue (digits : List Char) : Nat :=
  digits.foldl (fun n c => 10 * n + (c.toNat - 48)) 0

/-- The digits at the head of the text, at most `width` of them. -/
def leadingDigits : Nat → List Char → List Char × List Char
  | 0, cs => ([], cs)
  | _ + 1, [] => ([], [])
  | width + 1, c :: cs =>
      if c.isDigit then
        let (digits, rest) := leadingDigits width cs
        (c :: digits, rest)
      else ([], c :: cs)

/-- Blanks and a number of one to `width` digits. -/
def number? (width : Nat) (cs : List Char) : Option (Nat × List Char) :=
  let (digits, rest) := leadingDigits width (Text.trimLeft cs)
  if digits.isEmpty then none else some (digitsValue digits, rest)

/-- Blanks and a number of one or two digits between the two bounds. -/
def ranged? (low high : Nat) (cs : List Char) : Option (Nat × List Char) := do
  let (n, rest) ← number? 2 cs
  if low ≤ n ∧ n ≤ high then return (n, rest) else none

/-- Blanks and the expected mark. -/
def mark? (m : Char) (cs : List Char) : Option (List Char) :=
  match Text.trimLeft cs with
  | c :: rest => if c = m then some rest else none
  | [] => none

/-- Blanks and a year: up to four digits, or a sign and any number of digits. -/
def year? (cs : List Char) : Option (Int × List Char) := do
  match Text.trimLeft cs with
  | '-' :: rest =>
      let digits := rest.takeWhile Char.isDigit
      if digits.isEmpty then none
      else return (-(digitsValue digits : Int), rest.dropWhile Char.isDigit)
  | '+' :: rest =>
      let digits := rest.takeWhile Char.isDigit
      if digits.isEmpty then none
      else return ((digitsValue digits : Int), rest.dropWhile Char.isDigit)
  | rest =>
      let (n, rest) ← number? 4 rest
      return ((n : Int), rest)

/-- An optional fraction of a second, in nanoseconds. -/
def fraction? : List Char → Option (Nat × List Char)
  | '.' :: rest =>
      let (digits, more) := leadingDigits 9 rest
      if digits.isEmpty then none
      else some (digitsValue digits * Nat.pow 10 (9 - digits.length), more.dropWhile Char.isDigit)
  | rest => some (0, rest)

/-- Hours and minutes east of universal time after the sign, in seconds. -/
def offsetSize? : List Char → Option (Nat × List Char)
  | h1 :: h2 :: rest =>
      if h1.isDigit ∧ h2.isDigit then
        match rest.dropWhile fun c => c == ':' || Text.isBlank c with
        | m1 :: m2 :: rest =>
            if '0' ≤ m1 ∧ m1 ≤ '5' ∧ m2.isDigit then
              some (digitsValue [h1, h2] * 3600 + digitsValue [m1, m2] * 60, rest)
            else none
        | _ => none
      else none
  | _ => none

/-- The offset from universal time in seconds: `Z`, `UTC` or signed hours and minutes. -/
def offset? (cs : List Char) : Option (Int × List Char) :=
  let head := String.ofList ((cs.take 3).map Char.toLower)
  if head = "utc" then some (0, cs.drop 3)
  else
    match cs with
    | [] => none
    | c :: rest =>
        if c = 'Z' ∨ c = 'z' then some (0, rest)
        else if c = '+' then (offsetSize? rest).map fun r => ((r.1 : Int), r.2)
        else if c = '-' ∨ c.toNat = 0x2212 then (offsetSize? rest).map fun r => (-(r.1 : Int), r.2)
        else none

/-- The years that can be named. -/
def yearInRange (year : Int) : Bool := -262143 ≤ year && year ≤ 262142

/-- Reads the text of an instant. -/
def ofChars? (cs : List Char) : Option Instant := do
  let (year, cs) ← year? cs
  let cs ← mark? '-' cs
  let (month, cs) ← ranged? 1 12 cs
  let cs ← mark? '-' cs
  let (day, cs) ← ranged? 1 31 cs
  let cs ← match cs with
    | c :: rest => if c = 'T' ∨ c = 't' ∨ c = ' ' then some rest else none
    | [] => none
  let (hour, cs) ← ranged? 0 23 cs
  let cs ← mark? ':' cs
  let (minute, cs) ← ranged? 0 59 cs
  let cs ← mark? ':' cs
  let (second, cs) ← ranged? 0 60 cs
  let (nanos, cs) ← fraction? cs
  let (offset, cs) ← offset? (Text.trimLeft cs)
  if ¬ (Text.trimLeft cs).isEmpty then none
  else
    let date : Date := ⟨year, month, day⟩
    if ¬ date.isValid ∨ ¬ yearInRange year ∨ 86400 ≤ offset.natAbs then none
    else
      let leap := second == 60
      let clock : Nat := hour * 3600 + minute * 60 + (if leap then 59 else second)
      let seconds := date.toDays * 86400 + clock - offset
      if ¬ yearInRange (Date.ofDays (seconds / 86400)).year then none
      else return ⟨seconds, if leap then nanos + 1000000000 else nanos⟩

/-- Reads the text of an instant. -/
def ofText? (s : String) : Option Instant := ofChars? s.toList

end MixRounds.Instant
