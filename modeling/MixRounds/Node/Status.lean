/-!
# The standing of a node

Whether a node takes part at all is decided apart from what it is doing: it is admitted by the
operator, swept offline when it stops polling, and may be banned for good.
-/

namespace MixRounds

/-- Administrative standing of a node. -/
inductive Status where
  /-- Known, not admitted. -/
  | unregistered
  /-- Admitted and polling. -/
  | active
  /-- Swept offline after missing its polls. -/
  | inactive
  /-- Excluded for good. -/
  | banned
  deriving DecidableEq, Repr

namespace Status

def all : List Status := [unregistered, active, inactive, banned]

/-- The word for a status. -/
def word : Status → String
  | unregistered => "unregistered"
  | active => "active"
  | inactive => "inactive"
  | banned => "banned"

/-- The status of that word. -/
def ofWord? (s : String) : Option Status := all.find? fun a => a.word = s

theorem ofWord?_word (a : Status) : ofWord? a.word = some a := by cases a <;> decide

end Status

end MixRounds
