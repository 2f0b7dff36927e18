import MixRounds.Signature.Curve
import MixRounds.Signature.Sha512

/-!
# Signing and verifying

The deterministic Edwards-curve scheme with 32-byte seeds, 32-byte public keys and 64-byte signatures.
A signature is the encoding of a point `R` and a scalar `s` below the order of the base point; it is
good for a message when `s · B − h · A` encodes to the same 32 bytes as `R`, where `h` is the digest of
`R`, the public key and the message.
-/

namespace MixRounds

/-- The public half of a key pair: a point and its encoding. -/
structure PublicKey where
  point : Curve.Point
  bytes : List UInt8

/-- A key pair made from a seed. -/
structure SigningKey where
  /-- The secret scalar. -/
  scalar : Nat
  /-- The second half of the seed's digest, from which nonces are drawn. -/
  nonceSeed : List UInt8
  pub : PublicKey

namespace SigningKey

/-- The secret scalar: the lowest three bits cleared, the top bit cleared, the next one set. -/
def clamp (n : Nat) : Nat := n % (1 <<< 254) / 8 * 8 + (1 <<< 254)

/-- The key pair of a 32-byte seed. -/
def ofSeed (seed : List UInt8) : SigningKey :=
  let expanded := Sha512.digest seed
  let scalar := clamp (Curve.ofLittleEndian (expanded.take 32))
  let point := Curve.mulBase scalar
  ⟨scalar, expanded.drop 32, point, Curve.encode point⟩

/-- The signature of a message. -/
def sign (key : SigningKey) (message : List UInt8) : List UInt8 :=
  let r := Curve.ofLittleEndian (Sha512.digest (key.nonceSeed ++ message)) % Curve.order
  let commitment := Curve.encode (Curve.mulBase r)
  let h := Curve.ofLittleEndian (Sha512.digest (commitment ++ key.pub.bytes ++ message)) % Curve.order
  commitment ++ Curve.littleEndian 32 ((r + h * key.scalar) % Curve.order)

end SigningKey

namespace PublicKey

/-- Whether the signature is good for the message. -/
def verifies (key : PublicKey) (message signature : List UInt8) : Bool :=
  if signature.length ≠ 64 then false
  else
    let commitment := signature.take 32
    let s := Curve.ofLittleEndian (signature.drop 32)
    if Curve.order ≤ s then false
    else
      let h := Curve.ofLittleEndian (Sha512.digest (commitment ++ key.bytes ++ message)) % Curve.order
      Curve.encode (Curve.add (Curve.mulBase s) (Curve.neg (Curve.mul h key.point))) == commitment

end PublicKey

end MixRounds
