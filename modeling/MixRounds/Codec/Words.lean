import MixRounds.Instant.Text
import MixRounds.Json.Value
import MixRounds.Node.Activity
import MixRounds.Node.Status
import MixRounds.Region
import MixRounds.Round.Id
import MixRounds.Round.Phase

/-!
# JSON for the small values

Words, names, numbers and times as they stand in a payload.
-/

namespace MixRounds

namespace Activity

def toJson (a : Activity) : Json := .str a.word

def ofJson? (j : Json) : Option Activity := j.asWord?.bind ofWord?

end Activity

namespace Status

def toJson (s : Status) : Json := .str s.word

def ofJson? (j : Json) : Option Status := j.asWord?.bind ofWord?

end Status

namespace Phase

def toJson (p : Phase) : Json := .str p.word

def ofJson? (j : Json) : Option Phase := j.asWord?.bind ofWord?

end Phase

namespace TimedPhase

def toJson (p : TimedPhase) : Json := .str p.word

def ofJson? (j : Json) : Option TimedPhase := j.asWord?.bind ofWord?

end TimedPhase

namespace Cause

def toJson : Cause → Json
  | timeout phase => .obj [("timeout", phase.toJson)]
  | nodeError => .str "node_error"
  | nodeBanned => .str "node_banned"

/-- A timeout comes with its phase, the other causes with nothing. -/
def ofJson? (j : Json) : Option Cause :=
  match j.asTagged? with
  | some ("timeout", some phase) => (TimedPhase.ofJson? phase).map timeout
  | some ("node_error", none) => some nodeError
  | some ("node_error", some .null) => some nodeError
  | some ("node_banned", none) => some nodeBanned
  | some ("node_banned", some .null) => some nodeBanned
  | _ => none

end Cause

namespace Region

def toJson (r : Region) : Json := .str r.tag

def ofJson? (j : Json) : Option Region := j.asWord?.bind ofTag?

end Region

namespace RoundId

def toJson (id : RoundId) : Json := .nat id.toNat

def ofJson? (j : Json) : Option RoundId := j.asUInt64?.map RoundId.mk

end RoundId

namespace Instant

def toJson (t : Instant) : Json := .str t.text

def ofJson? (j : Json) : Option Instant := j.asString?.bind ofText?

end Instant

end MixRounds
