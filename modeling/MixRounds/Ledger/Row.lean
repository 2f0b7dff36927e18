import MixRounds.Ledger.UpdateLog

/-!
# Rows for readers

Answers show domain values as short rows of JSON: a refusal by its name and its sentence, a
notification by what changed, a broadcast or a failure record by what it says and whether its signature
is good.
-/

namespace MixRounds

/-- A refusal: its name and its sentence. -/
def Fault.toJson (f : Fault) : Json := .obj [("error", .str f.code), ("message", .str f.message)]

/-- A success with its value. -/
def Json.ok (j : Json) : Json := .obj [("ok", j)]

/-- A value, or the refusal that stands in its place. -/
def Json.ofExcept {α : Type} (f : α → Json) : Except Fault α → Json
  | .ok a => f a
  | .error fault => fault.toJson

/-- A success without a value, or a refusal. -/
def Json.ofUnit : Except Fault Unit → Json := .ofExcept fun _ => .ok .null

/-- A list of node names in order. -/
def Json.sortedNodes (ids : List NodeId) : Json := .strings (sortNodes ids)

/-- A list of round numbers in order. -/
def Json.sortedRounds (ids : List RoundId) : Json := .arr ((RoundId.sort ids).map RoundId.toJson)

/-- What a notification says, with its time in milliseconds. -/
def Notification.row (n : Notification) : Json :=
  .obj [("node", .str n.node), ("from_activity", n.fromActivity.toJson),
    ("to_activity", n.toActivity.toJson), ("from_status", n.fromStatus.toJson),
    ("to_status", n.toStatus.toJson), ("at", .int n.time.toMillis),
    ("changes_status", .bool n.changesStatus)]

/-- Phases with their times in milliseconds; the time of allocation is not shown. -/
def Stamps.row (stamps : Stamps) : Json :=
  .arr (stamps.map fun (p, t) => .arr [p.toJson, if p = .pending then .null else .int t.toMillis])

/-- The words of the stamped phases. -/
def Stamps.words (stamps : Stamps) : Json := .strings (stamps.phases.map Phase.word)

/-- The state of a round. -/
def RoundInfo.row (info : RoundInfo) : Json :=
  .obj [("id", info.id.toJson), ("phase", info.phase.toJson), ("topology", .strings info.topology),
    ("batch", .nat info.batch.toNat), ("phases", info.stamps.words),
    ("update_id", .nat info.updateId.toNat)]

/-- An entry of the update log. -/
def UpdateLog.updateRow (key : PublicKey) (u : Signed RoundInfo) : Json :=
  let info := u.payload
  .arr [.nat info.updateId.toNat, info.id.toJson, info.phase.toJson, .sortedNodes info.topology,
    .nat info.batch.toNat, info.stamps.words, .bool (u.isVerified key)]

/-- A failure record of the update log. -/
def UpdateLog.errorRow (key : PublicKey) (e : Signed RoundError) : Json :=
  .arr [e.payload.round.toJson, .ofOption .str e.payload.node, .str e.payload.cause.text,
    .bool (e.isVerified key)]

/-- The entries and the failure records that `log` has beyond those of `before`. -/
def UpdateLog.newRows (log before : UpdateLog) (key : PublicKey) : List (String × Json) :=
  [("updates", .arr ((log.updates.drop before.updates.length).map (updateRow key))),
    ("errors", .arr ((log.errors.drop before.errors.length).map (errorRow key)))]

end MixRounds
