import MixRounds.Codec.Payload
import MixRounds.Signature.Scheme

/-!
# Signed payloads

What is signed is the compact JSON text of the payload, byte for byte.  Verifying writes the payload
again and checks the signature over that, so a payload that was changed on the way does not pass.
-/

namespace MixRounds

/-- Values that can be signed: those with a JSON form. -/
class Payload (α : Type) where
  toJson : α → Json

instance : Payload RoundInfo := ⟨RoundInfo.toJson⟩
instance : Payload RoundError := ⟨RoundError.toJson⟩
instance : Payload Json := ⟨id⟩

/-- The bytes that are signed. -/
def Payload.bytes {α : Type} [Payload α] (a : α) : List UInt8 :=
  (Payload.toJson a).compact.toUTF8.toList

/-- A payload together with a signature over its JSON text. -/
structure Signed (α : Type) where
  payload : α
  signature : List UInt8

namespace Signed

variable {α : Type} [Payload α]

/-- Sign a payload. -/
def sign (key : SigningKey) (payload : α) : Signed α := ⟨payload, key.sign (Payload.bytes payload)⟩

/-- Whether the signature is the key's signature over this payload. -/
def isVerified (s : Signed α) (key : PublicKey) : Bool :=
  key.verifies (Payload.bytes s.payload) s.signature

/-- The payload and the bytes of the signature. -/
def toJson (s : Signed α) : Json :=
  .obj [("payload", Payload.toJson s.payload),
    ("signature", .arr (s.signature.map fun byte => .nat byte.toNat))]

/-- A signed payload that `read` can read. -/
def ofJson? {β : Type} (read : Json → Option β) (j : Json) : Option (Signed β) := do
  let field ← j.asRecord? ["payload", "signature"]
  let payload ← (field "payload").bind read
  let bytes ← (field "signature").bind fun j => j.listOf? fun b => b.asBelow? 256
  return ⟨payload, bytes.map UInt8.ofNat⟩

/-- As `isVerified`, with the refusal as a fault. -/
def verify (s : Signed α) (key : PublicKey) : Except Fault Unit :=
  if s.isVerified key then .ok () else .error .badSignature

end Signed

end MixRounds
