/-!
# The curve the signatures live on

The twisted Edwards curve `-x² + y² = 1 + d x² y²` over the integers modulo `2²⁵⁵ − 19`.  A point is
kept in extended coordinates `(X : Y : Z : T)` with `x = X / Z`, `y = Y / Z`, `x y = T / Z`, so that
adding needs no division; one formula adds any two points, also a point to itself.
-/

namespace MixRounds.Curve

/-- The prime of the field. -/
def prime : Nat := (1 <<< 255) - 19

/-- The order of the base point. -/
def order : Nat := (1 <<< 252) + 27742317777372353535851937790883648493

def addMod (a b : Nat) : Nat := (a + b) % prime

def subMod (a b : Nat) : Nat := (a + prime - b) % prime

def mulMod (a b : Nat) : Nat := a * b % prime

/-- `a ^ n`, by squaring; `bits` bounds the length of `n`. -/
def powMod (a : Nat) : Nat → Nat → Nat
  | 0, _ => 1
  | bits + 1, n =>
      if n = 0 then 1
      else
        let half := powMod (mulMod a a) bits (n / 2)
        if n % 2 = 1 then mulMod half a else half

/-- The inverse of a number that is not zero. -/
def invMod (a : Nat) : Nat := powMod a 256 (prime - 2)

/-- The constant `d = -121665 / 121666`. -/
def d : Nat := mulMod (prime - 121665) (invMod 121666)

/-- Twice `d`, as the addition needs it. -/
def twiceD : Nat := mulMod 2 d

/-- A point in extended coordinates. -/
structure Point where
  x : Nat
  y : Nat
  z : Nat
  t : Nat

instance : Inhabited Point := ⟨⟨0, 1, 1, 0⟩⟩

/-- The neutral element. -/
def zero : Point := ⟨0, 1, 1, 0⟩

/-- The point with these affine coordinates. -/
def ofAffine (x y : Nat) : Point := ⟨x, y, 1, mulMod x y⟩

/-- The sum of two points. -/
def add (p q : Point) : Point :=
  let a := mulMod (subMod p.y p.x) (subMod q.y q.x)
  let b := mulMod (p.y + p.x) (q.y + q.x)
  let c := mulMod (mulMod p.t twiceD) q.t
  let e := subMod b a
  let zz := mulMod (2 * p.z) q.z
  let f := subMod zz c
  let g := zz + c
  let h := b + a
  ⟨mulMod e f, mulMod g h, mulMod f g, mulMod e h⟩

/-- The opposite point. -/
def neg (p : Point) : Point := ⟨subMod 0 p.x, p.y, p.z, subMod 0 p.t⟩

/-- The `y` of the base point is four fifths. -/
def baseY : Nat := mulMod 4 (invMod 5)

/-- A square root of `(y² − 1) / (d y² + 1)` that is even, if there is one. -/
def evenRoot (y : Nat) : Nat :=
  let yy := mulMod y y
  let square := mulMod (subMod yy 1) (invMod (addMod (mulMod d yy) 1))
  let candidate := powMod square 256 ((prime + 3) / 8)
  let root :=
    if mulMod candidate candidate = square then candidate
    else mulMod candidate (powMod 2 256 ((prime - 1) / 4))
  if root % 2 = 0 then root else subMod 0 root

/-- The base point: the one with an even `x`. -/
def base : Point := ofAffine (evenRoot baseY) baseY

/-- The first `n` multiples of `p` after `start`, itself included. -/
def multiples (p : Point) : Nat → Point → List Point
  | 0, _ => []
  | n + 1, start => start :: multiples p n (add start p)

/-- `p` doubled `n` times. -/
def doubled : Nat → Point → Point
  | 0, p => p
  | n + 1, p => doubled n (add p p)

/-- Sixteen multiples of `16 ^ i · p`, for `i` up to `n`. -/
def tables : Nat → Point → List (Array Point)
  | 0, _ => []
  | n + 1, p => (multiples p 16 zero).toArray :: tables n (doubled 4 p)

/-- The multiples of the base point. -/
def baseTables : Array (Array Point) := (tables 64 base).toArray

/-- The hexadecimal digits of a number below `2 ^ 256`, low digit first. -/
def hexDigits : Nat → Nat → List Nat
  | 0, _ => []
  | count + 1, n => n % 16 :: hexDigits count (n / 16)

/-- The base point `n` times, for `n` below `2 ^ 256`. -/
def mulBase (n : Nat) : Point :=
  ((hexDigits 64 n).zip (List.range 64)).foldl (fun acc (digit, i) =>
    add acc ((((baseTables[i]?).getD #[])[digit]?).getD zero)) zero

/-- The point `n` times, for `n` below `2 ^ 256`. -/
def mul (n : Nat) (p : Point) : Point :=
  let table := (multiples p 16 zero).toArray
  (hexDigits 64 n).reverse.foldl (fun acc digit =>
    add (doubled 4 acc) ((table[digit]?).getD zero)) zero

/-- A number as `count` bytes, low byte first. -/
def littleEndian : Nat → Nat → List UInt8
  | 0, _ => []
  | count + 1, n => UInt8.ofNat (n % 256) :: littleEndian count (n / 256)

/-- The number whose bytes these are, low byte first. -/
def ofLittleEndian (bytes : List UInt8) : Nat :=
  bytes.foldr (fun byte n => 256 * n + byte.toNat) 0

/-- The 32 bytes of a point: `y`, and in the top bit whether `x` is odd. -/
def encode (p : Point) : List UInt8 :=
  let inv := invMod p.z
  let x := mulMod p.x inv
  let y := mulMod p.y inv
  littleEndian 32 (y + (if x % 2 = 1 then 1 <<< 255 else 0))

end MixRounds.Curve
