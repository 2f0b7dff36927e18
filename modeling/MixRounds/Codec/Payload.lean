import MixRounds.Codec.Words
import MixRounds.Json.Printer
import MixRounds.Node.Notification
import MixRounds.Round.Record

/-!
# JSON for payloads

Notifications, round broadcasts and failure records.  Members are written in a fixed order and read in
any; stamps are written in the order of the life cycle whatever order they came in.
-/

namespace MixRounds

namespace Stamps

def toJson (s : Stamps) : Json := .obj (s.map fun e => (e.1.word, e.2.toJson))

/-- Each stamp goes to its place in the life cycle; of two for one phase the later is kept. -/
def ofMembers? : List (String × Json) → Stamps → Option Stamps
  | [], s => some s
  | (word, time) :: rest, s => do
      let p ← Phase.ofWord? word
      let t ← Instant.ofJson? time
      ofMembers? rest (s.insert p t)

def ofJson? : Json → Option Stamps
  | .obj members => ofMembers? members []
  | _ => none

end Stamps

namespace Notification

def fieldNames : List String :=
  ["node", "from-activity", "to-activity", "from-status", "to-status", "at"]

def toJson (n : Notification) : Json :=
  .obj [("node", .str n.node), ("from-activity", n.fromActivity.toJson),
    ("to-activity", n.toActivity.toJson), ("from-status", n.fromStatus.toJson),
    ("to-status", n.toStatus.toJson), ("at", n.time.toJson)]

def ofJson? (j : Json) : Option Notification := do
  let field ← j.asRecord? fieldNames
  let node ← (field "node").bind Json.asString?
  let fromActivity ← (field "from-activity").bind Activity.ofJson?
  let toActivity ← (field "to-activity").bind Activity.ofJson?
  let fromStatus ← (field "from-status").bind Status.ofJson?
  let toStatus ← (field "to-status").bind Status.ofJson?
  let time ← (field "at").bind Instant.ofJson?
  return ⟨node, fromActivity, toActivity, fromStatus, toStatus, time⟩

end Notification

/-- A list of node names. -/
def nodesOfJson? (j : Json) : Option (List NodeId) := j.listOf? Json.asString?

/-- A whole number that fits 32 bits. -/
def batchOfJson? (j : Json) : Option UInt32 := (j.asBelow? UInt32.size).map UInt32.ofNat

namespace RoundInfo

def fieldNames : List String :=
  ["id", "phase", "topology", "batch-size", "timestamps", "update-id"]

def toJson (info : RoundInfo) : Json :=
  .obj [("id", info.id.toJson), ("phase", info.phase.toJson), ("topology", .strings info.topology),
    ("batch-size", .nat info.batch.toNat), ("timestamps", info.stamps.toJson),
    ("update-id", .nat info.updateId.toNat)]

def ofJson? (j : Json) : Option RoundInfo := do
  let field ← j.asRecord? fieldNames
  let id ← (field "id").bind RoundId.ofJson?
  let phase ← (field "phase").bind Phase.ofJson?
  let topology ← (field "topology").bind nodesOfJson?
  let batch ← (field "batch-size").bind batchOfJson?
  let stamps ← (field "timestamps").bind Stamps.ofJson?
  let updateId ← (field "update-id").bind Json.asUInt64?
  return ⟨id, phase, topology, batch, stamps, updateId⟩

end RoundInfo

namespace RoundError

def fieldNames : List String := ["round-id", "node", "cause", "at"]

def toJson (e : RoundError) : Json :=
  .obj [("round-id", e.round.toJson), ("node", .ofOption .str e.node), ("cause", e.cause.toJson),
    ("at", e.time.toJson)]

def ofJson? (j : Json) : Option RoundError := do
  let field ← j.asRecord? fieldNames
  let round ← (field "round-id").bind RoundId.ofJson?
  let node ← Json.optional? Json.asString? ((field "node").getD .null)
  let cause ← (field "cause").bind Cause.ofJson?
  let time ← (field "at").bind Instant.ofJson?
  return ⟨round, node, cause, time⟩

end RoundError

end MixRounds
