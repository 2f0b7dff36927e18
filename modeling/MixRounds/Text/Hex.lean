/-!
# Hexadecimal text

Keys, seeds and signatures are written as two digits per byte, lower case, high digit first.
Reading takes digits of either case; **`decode?_encode`** says that what was written reads back.
-/

namespace MixRounds.Hex

/-- The digit of `n < 16`. -/
def digit (n : Nat) : Char := if n < 10 then Char.ofNat (48 + n) else Char.ofNat (87 + n)

/-- The value of a digit of either case. -/
def value? (c : Char) : Option Nat :=
  let n := c.toNat
  if 48 ≤ n ∧ n ≤ 57 then some (n - 48)
  else if 97 ≤ n ∧ n ≤ 102 then some (n - 87)
  else if 65 ≤ n ∧ n ≤ 70 then some (n - 55)
  else none

/-- Two digits for each byte. -/
def encodeChars : List UInt8 → List Char
  | [] => []
  | b :: rest => digit (b.toNat / 16) :: digit (b.toNat % 16) :: encodeChars rest

/-- The bytes of an even number of digits. -/
def decodeChars? : List Char → Option (List UInt8)
  | [] => some []
  | [_] => none
  | hi :: lo :: rest => do
      let h ← value? hi
      let l ← value? lo
      let tail ← decodeChars? rest
      return UInt8.ofNat (16 * h + l) :: tail

/-- Lower-case hexadecimal text of the bytes. -/
def encode (bytes : List UInt8) : String := String.ofList (encodeChars bytes)

/-- The bytes that the text spells, if it consists of pairs of digits. -/
def decode? (text : String) : Option (List UInt8) := decodeChars? text.toList

/-- The digits of `n` without leading zeros. -/
def natDigits (n : Nat) : List Char := Nat.toDigits 16 n

theorem value?_digit {n : Nat} (h : n < 16) : value? (digit n) = some n := by
  have : n ∈ List.range 16 := List.mem_range.2 h
  revert n
  decide

theorem decodeChars?_encodeChars (bytes : List UInt8) :
    decodeChars? (encodeChars bytes) = some bytes := by
  induction bytes with
  | nil => rfl
  | cons b rest ih =>
      have hb : b.toNat < 256 := b.toNat_lt
      have hsum : 16 * (b.toNat / 16) + b.toNat % 16 = b.toNat := Nat.div_add_mod _ _
      simp only [encodeChars, decodeChars?, ih, value?_digit (show b.toNat / 16 < 16 by omega),
        value?_digit (show b.toNat % 16 < 16 by omega), Option.bind_eq_bind, Option.bind_some,
        hsum, UInt8.ofNat_toNat]
      rfl

/-- What was written reads back. -/
theorem decode?_encode (bytes : List UInt8) : decode? (encode bytes) = some bytes := by
  simp [decode?, encode, decodeChars?_encodeChars]

end MixRounds.Hex
