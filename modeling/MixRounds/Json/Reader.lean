import MixRounds.Json.Value

/-!
# Reading JSON text

A reader for the whole of JSON: values nest at most `depthLimit` deep, strings name characters
beyond the basic plane by pairs of surrogates and nothing else, and a whole number that fits 64 bits
stays whole.

Every other number becomes binary64 by a plain rule: the digits are collected into a 64-bit
significand, digits that no longer fit are dropped, and the significand is multiplied or divided once
by a power of ten.  A number whose magnitude exceeds every finite value is no number.
-/

namespace MixRounds.Json

/-- Arrays and objects nest no deeper than this. -/
def depthLimit : Nat := 127

/-- Blanks between the tokens. -/
def isBlank (c : Char) : Bool := c == ' ' || c == '\n' || c == '\t' || c == '\r'

/-- The text from its first character that is not a blank. -/
def skipBlanks (cs : List Char) : List Char := cs.dropWhile isBlank

/-! ## Strings -/

/-- The value of a hexadecimal digit. -/
def hexDigit? (c : Char) : Option Nat :=
  if '0' ≤ c ∧ c ≤ '9' then some (c.toNat - 48)
  else if 'a' ≤ c ∧ c ≤ 'f' then some (c.toNat - 87)
  else if 'A' ≤ c ∧ c ≤ 'F' then some (c.toNat - 55)
  else none

/-- Four hexadecimal digits. -/
def codeUnit? : List Char → Option (Nat × List Char)
  | a :: b :: c :: d :: rest => do
      let a ← hexDigit? a
      let b ← hexDigit? b
      let c ← hexDigit? c
      let d ← hexDigit? d
      return (((a * 16 + b) * 16 + c) * 16 + d, rest)
  | _ => none

/-- The character named after `\u`, which takes a second name when the first is a high surrogate. -/
def namedChar? (cs : List Char) : Option (Char × List Char) := do
  let (unit, rest) ← codeUnit? cs
  if unit < 0xD800 ∨ 0xDFFF < unit then return (Char.ofNat unit, rest)
  else if unit < 0xDC00 then
    match rest with
    | '\\' :: 'u' :: rest => do
        let (low, rest) ← codeUnit? rest
        if 0xDC00 ≤ low ∧ low ≤ 0xDFFF then
          return (Char.ofNat (0x10000 + (unit - 0xD800) * 0x400 + (low - 0xDC00)), rest)
        else none
    | _ => none
  else none

/-- The character that a backslash and `c` stand for. -/
def simpleEscape? (c : Char) : Option Char :=
  if c = '"' ∨ c = '\\' ∨ c = '/' then some c
  else if c = 'b' then some (Char.ofNat 8)
  else if c = 'f' then some (Char.ofNat 12)
  else if c = 'n' then some '\n'
  else if c = 'r' then some '\r'
  else if c = 't' then some '\t'
  else none

/-- The rest of a string whose opening quote has been read; the fuel is the text's length. -/
def stringBody? : Nat → List Char → Option (List Char × List Char)
  | 0, _ => none
  | _ + 1, [] => none
  | fuel + 1, c :: cs =>
      if c = '"' then some ([], cs)
      else if c = '\\' then
        match cs with
        | [] => none
        | e :: rest =>
            if e = 'u' then do
              let (named, rest) ← namedChar? rest
              let (body, rest) ← stringBody? fuel rest
              return (named :: body, rest)
            else do
              let plain ← simpleEscape? e
              let (body, rest) ← stringBody? fuel rest
              return (plain :: body, rest)
      else if c.toNat < 32 then none
      else do
        let (body, rest) ← stringBody? fuel cs
        return (c :: body, rest)

/-! ## Numbers -/

/-- The greatest significand. -/
def significandLimit : Nat := UInt64.size - 1

/-- `significand · 10 ^ exponent` as binary64: one multiplication or division by a power of ten, after
as many divisions by `10 ^ 308` as bring the exponent into range. -/
def scaled? : Nat → Float → Int → Option Float
  | 0, x, _ => some x
  | fuel + 1, x, exponent =>
      if exponent.natAbs ≤ 308 then
        if 0 ≤ exponent then
          let y := x * Float.ofScientific 1 false exponent.natAbs
          if y.isInf then none else some y
        else some (x / Float.ofScientific 1 false exponent.natAbs)
      else if x == 0 then some x
      else if 0 ≤ exponent then none
      else scaled? fuel (x / Float.ofScientific 1 false 308) (exponent + 308)

/-- The number of that sign, significand and power of ten. -/
def scaleNumber? (negative : Bool) (significand : Nat) (exponent : Int) : Option Float := do
  let x ← scaled? (exponent.natAbs / 308 + 2) significand.toUInt64.toFloat exponent
  return if negative then -x else x

/-- Digits added to the significand while they fit: the new significand, how many digits were added,
whether one did not fit, and the text from the first digit left out. -/
def addDigits (significand : Nat) : List Char → Nat × Nat × Bool × List Char
  | [] => (significand, 0, false, [])
  | c :: cs =>
      if c.isDigit then
        let next := significand * 10 + (c.toNat - 48)
        if significandLimit < next then (significand, 0, true, c :: cs)
        else
          let (s, n, full, rest) := addDigits next cs
          (s, n + 1, full, rest)
      else (significand, 0, false, c :: cs)

/-- Exponents from here on count as boundless. -/
def exponentLimit : Nat := 0x7FFFFFFF

/-- The number after its `e`. -/
def exponentPart? (negative : Bool) (significand : Nat) (start : Int) (cs : List Char) :
    Option (Float × List Char) := do
  let (below, cs) := match cs with
    | '+' :: rest => (false, rest)
    | '-' :: rest => (true, rest)
    | _ => (false, cs)
  let digits := cs.takeWhile Char.isDigit
  let rest := cs.dropWhile Char.isDigit
  if digits.isEmpty then none
  else
    let size := digits.foldl (fun n c => 10 * n + (c.toNat - 48)) 0
    if exponentLimit < size then
      if significand ≠ 0 ∧ ¬ below then none
      else return ((if negative then -0.0 else 0.0), rest)
    else
      let x ← scaleNumber? negative significand (if below then start - size else start + size)
      return (x, rest)

/-- The number from its exponent on, if it has one. -/
def afterDigits? (negative : Bool) (significand : Nat) (exponent : Int) (cs : List Char) :
    Option (Float × List Char) := do
  match cs with
  | 'e' :: rest => exponentPart? negative significand exponent rest
  | 'E' :: rest => exponentPart? negative significand exponent rest
  | _ =>
      let x ← scaleNumber? negative significand exponent
      return (x, cs)

/-- The number after its point; digits that do not fit the significand are dropped. -/
def fractionPart? (negative : Bool) (significand : Nat) (start : Int) (cs : List Char) :
    Option (Float × List Char) :=
  let (s, n, full, rest) := addDigits significand cs
  if full then afterDigits? negative s (start - n) (rest.dropWhile Char.isDigit)
  else if n = 0 then none
  else afterDigits? negative s (start - n) rest

/-- A number without its sign. -/
def magnitude? (negative : Bool) (cs : List Char) : Option (Json × List Char) := do
  let finish (r : Float × List Char) : Json × List Char := (.float r.1, r.2)
  match cs with
  | [] => none
  | c :: after =>
      if ¬ c.isDigit then none
      else if c = '0' ∧ (after.head?.map Char.isDigit).getD false then none
      else
        let (s, _, full, rest) := addDigits 0 cs
        if full then
          let dropped := (rest.takeWhile Char.isDigit).length
          match rest.dropWhile Char.isDigit with
          | '.' :: rest => finish <$> fractionPart? negative s dropped rest
          | rest => finish <$> afterDigits? negative s dropped rest
        else
          match rest with
          | '.' :: rest => finish <$> fractionPart? negative s 0 rest
          | 'e' :: rest => finish <$> exponentPart? negative s 0 rest
          | 'E' :: rest => finish <$> exponentPart? negative s 0 rest
          | _ =>
              if ¬ negative then return (.int s, rest)
              else if s = 0 ∨ 0x8000000000000000 < s then return (.float (-s.toUInt64.toFloat), rest)
              else return (.int (-s), rest)

/-- A number. -/
def number? : List Char → Option (Json × List Char)
  | '-' :: cs => magnitude? true cs
  | cs => magnitude? false cs

/-! ## Values -/

/-- The rest of the text after the expected word. -/
def afterWord? : List Char → List Char → Option (List Char)
  | [], cs => some cs
  | w :: ws, c :: cs => if w = c then afterWord? ws cs else none
  | _ :: _, [] => none

mutual

/-- A value at the head of the text; `depth` is how much deeper values may nest. -/
def value? : Nat → Nat → List Char → Option (Json × List Char)
  | 0, _, _ => none
  | fuel + 1, depth, cs =>
      match skipBlanks cs with
      | [] => none
      | 'n' :: rest => do return (.null, ← afterWord? ['u', 'l', 'l'] rest)
      | 't' :: rest => do return (.bool true, ← afterWord? ['r', 'u', 'e'] rest)
      | 'f' :: rest => do return (.bool false, ← afterWord? ['a', 'l', 's', 'e'] rest)
      | '"' :: rest => do
          let (body, rest) ← stringBody? (rest.length + 1) rest
          return (.str (String.ofList body), rest)
      | '[' :: rest =>
          if depth = 0 then none
          else
            match skipBlanks rest with
            | ']' :: rest => some (.arr [], rest)
            | rest => do
                let (items, rest) ← items? fuel (depth - 1) rest
                return (.arr items, rest)
      | '\x7b' :: rest =>
          if depth = 0 then none
          else
            match skipBlanks rest with
            | '\x7d' :: rest => some (.obj [], rest)
            | rest => do
                let (members, rest) ← members? fuel (depth - 1) rest
                return (.obj members, rest)
      | cs => number? cs

/-- Items up to the closing bracket; at least one. -/
def items? : Nat → Nat → List Char → Option (List Json × List Char)
  | 0, _, _ => none
  | fuel + 1, depth, cs => do
      let (item, rest) ← value? fuel depth cs
      match skipBlanks rest with
      | ',' :: rest => do
          let (items, rest) ← items? fuel depth rest
          return (item :: items, rest)
      | ']' :: rest => return ([item], rest)
      | _ => none

/-- Members up to the closing brace; at least one. -/
def members? : Nat → Nat → List Char → Option (List (String × Json) × List Char)
  | 0, _, _ => none
  | fuel + 1, depth, cs =>
      match skipBlanks cs with
      | '"' :: rest => do
          let (body, rest) ← stringBody? (rest.length + 1) rest
          match skipBlanks rest with
          | ':' :: rest => do
              let (value, rest) ← value? fuel depth rest
              let member := (String.ofList body, value)
              match skipBlanks rest with
              | ',' :: rest => do
                  let (members, rest) ← members? fuel depth rest
                  return (member :: members, rest)
              | '\x7d' :: rest => return ([member], rest)
              | _ => none
          | _ => none
      | _ => none
end

/-- The value that the whole text spells. -/
def parse? (text : String) : Option Json := do
  let cs := text.toList
  let (value, rest) ← value? (2 * cs.length + 2) depthLimit cs
  if (skipBlanks rest).isEmpty then return value else none

end MixRounds.Json
