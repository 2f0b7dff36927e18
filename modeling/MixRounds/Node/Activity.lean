/-!
# What a node is doing

A node reports its activity with every poll and walks a fixed cycle:
not started → waiting → precomputing → standby → realtime → completed → waiting.
From anywhere it may fall into error, and from error the only way back is to wait again.
`Activity.mayBecome` is the one definition of that cycle; whatever trusts a report trusts it.
-/

namespace MixRounds

/-- What a node reports to be doing. -/
inductive Activity where
  | notStarted
  | waiting
  | precomputing
  | standby
  | realtime
  | completed
  | error
  deriving DecidableEq, Repr

namespace Activity

/-- The activities in order of declaration. -/
def all : List Activity :=
  [notStarted, waiting, precomputing, standby, realtime, completed, error]

/-- The word for an activity. -/
def word : Activity → String
  | notStarted => "not_started"
  | waiting => "waiting"
  | precomputing => "precomputing"
  | standby => "standby"
  | realtime => "realtime"
  | completed => "completed"
  | error => "error"

/-- The activity of that word. -/
def ofWord? (s : String) : Option Activity := all.find? fun a => a.word = s

theorem mem_all (a : Activity) : a ∈ all := by cases a <;> decide

theorem ofWord?_word (a : Activity) : ofWord? a.word = some a := by cases a <;> decide

/-- Whether a node may report `next` directly after `current`. -/
def mayBecome (current next : Activity) : Bool :=
  match current, next with
  | error, waiting => true
  | error, _ => false
  | _, error => true
  | notStarted, waiting => true
  | waiting, precomputing => true
  | precomputing, standby => true
  | standby, realtime => true
  | realtime, completed => true
  | completed, waiting => true
  | _, _ => false

/-- Reports that make sense only from a node that holds a round. -/
def requiresRound : Activity → Bool
  | standby | completed => true
  | _ => false

/-- No activity follows itself: a repeated report is a heartbeat, not a step. -/
theorem not_mayBecome_self (a : Activity) : a.mayBecome a = false := by cases a <;> rfl

end Activity

end MixRounds
