/-!
# The 512-bit digest

The message is padded to whole blocks of sixteen 64-bit words.  A block is stretched to eighty words,
and eighty rounds stir them into eight words of state; the state before the block is added at the end.
The constants are what the standard says they are — the first 64 bits of the fractional parts of the
square roots of the first eight primes, and of the cube roots of the first eighty — and are computed
here rather than listed.
-/

namespace MixRounds.Sha512

/-- The greatest `r` with `r ^ k ≤ n`, found bit by bit from `bits` down. -/
def root (k n : Nat) : Nat → Nat → Nat
  | 0, r => r
  | bit + 1, r =>
      let next := r + (1 <<< bit)
      if Nat.pow next k ≤ n then root k n bit next else root k n bit r

/-- The first primes, as many as asked for, at or above the candidate. -/
def primesFrom : Nat → Nat → Nat → List Nat
  | 0, _, _ => []
  | _, 0, _ => []
  | fuel + 1, count + 1, candidate =>
      if (List.range candidate).all fun d => d < 2 || candidate % d != 0 then
        candidate :: primesFrom fuel count (candidate + 1)
      else primesFrom fuel (count + 1) (candidate + 1)

/-- The first `count` primes. -/
def primes (count : Nat) : List Nat := primesFrom 500 count 2

/-- The first 64 bits of the fractional part of the `k`-th root of `p`. -/
def fractionBits (k p : Nat) : UInt64 := UInt64.ofNat (root k (p <<< (64 * k)) 72 0)

/-- The words the rounds add. -/
def roundWords : Array UInt64 := ((primes 80).map (fractionBits 3)).toArray

/-- Eight words of state. -/
structure State where
  a : UInt64
  b : UInt64
  c : UInt64
  d : UInt64
  e : UInt64
  f : UInt64
  g : UInt64
  h : UInt64

/-- The state before the first block. -/
def initial : State :=
  match (primes 8).map (fractionBits 2) with
  | [a, b, c, d, e, f, g, h] => ⟨a, b, c, d, e, f, g, h⟩
  | _ => ⟨0, 0, 0, 0, 0, 0, 0, 0⟩

/-- Rotate right. -/
def rotate (x : UInt64) (n : UInt64) : UInt64 := (x >>> n) ||| (x <<< (64 - n))

/-- One word more of a stretched block. -/
def stretchOne (w : Array UInt64) : Array UInt64 :=
  let t := w.size
  let back (n : Nat) : UInt64 := (w[t - n]?).getD 0
  let s0 := rotate (back 15) 1 ^^^ rotate (back 15) 8 ^^^ (back 15 >>> 7)
  let s1 := rotate (back 2) 19 ^^^ rotate (back 2) 61 ^^^ (back 2 >>> 6)
  w.push (back 16 + s0 + back 7 + s1)

/-- One round. -/
def stir (s : State) (k w : UInt64) : State :=
  let s1 := rotate s.e 14 ^^^ rotate s.e 18 ^^^ rotate s.e 41
  let choice := (s.e &&& s.f) ^^^ (~~~ s.e &&& s.g)
  let t1 := s.h + s1 + choice + k + w
  let s0 := rotate s.a 28 ^^^ rotate s.a 34 ^^^ rotate s.a 39
  let majority := (s.a &&& s.b) ^^^ (s.a &&& s.c) ^^^ (s.b &&& s.c)
  ⟨t1 + s0 + majority, s.a, s.b, s.c, s.d + t1, s.e, s.f, s.g⟩

/-- Take in one block of sixteen words. -/
def absorb (s : State) (block : Array UInt64) : State :=
  let w := (List.range 64).foldl (fun w _ => stretchOne w) block
  let r := (List.range 80).foldl
    (fun r t => stir r ((roundWords[t]?).getD 0) ((w[t]?).getD 0)) s
  ⟨s.a + r.a, s.b + r.b, s.c + r.c, s.d + r.d, s.e + r.e, s.f + r.f, s.g + r.g, s.h + r.h⟩

/-- A number as `count` bytes, high byte first. -/
def bigEndian : Nat → Nat → List UInt8
  | 0, _ => []
  | count + 1, n => bigEndian count (n / 256) ++ [UInt8.ofNat (n % 256)]

/-- The message, a one bit, zeros, and the length in bits in the last sixteen bytes. -/
def pad (message : List UInt8) : List UInt8 :=
  let len := message.length
  let zeros := (111 + 128 - len % 128) % 128
  message ++ 0x80 :: (List.replicate zeros 0 ++ bigEndian 16 (8 * len))

/-- Bytes gathered into words. -/
def words : List UInt8 → List UInt64
  | a :: b :: c :: d :: e :: f :: g :: h :: rest =>
      [a, b, c, d, e, f, g, h].foldl (fun w byte => (w <<< 8) ||| byte.toUInt64) 0 :: words rest
  | _ => []

/-- Words gathered into blocks of sixteen; the fuel is the number of words. -/
def blocks : Nat → List UInt64 → List (Array UInt64)
  | 0, _ => []
  | _, [] => []
  | fuel + 1, ws => (ws.take 16).toArray :: blocks fuel (ws.drop 16)

/-- The 64 bytes of the digest. -/
def digest (message : List UInt8) : List UInt8 :=
  let ws := words (pad message)
  let s := (blocks ws.length ws).foldl absorb initial
  [s.a, s.b, s.c, s.d, s.e, s.f, s.g, s.h].flatMap fun w => bigEndian 8 w.toNat

end MixRounds.Sha512
