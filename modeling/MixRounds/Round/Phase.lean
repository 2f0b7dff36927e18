/-!
# The phases of a round

A round is allocated pending, and once started it only moves forward: precomputing, realtime,
completed.  From any phase that is not the end it may fail.  Phases are compared by their place in
that order; `Phase.rank` gives the place.
-/

namespace MixRounds

/-- Where a round stands in its life. -/
inductive Phase where
  /-- Allocated, not yet started. -/
  | pending
  | precomputing
  | realtime
  | completed
  | failed
  deriving DecidableEq, Repr

namespace Phase

/-- The phases in the order of the life cycle. -/
def all : List Phase := [pending, precomputing, realtime, completed, failed]

/-- The place in the life cycle. -/
def rank : Phase → Nat
  | pending => 0
  | precomputing => 1
  | realtime => 2
  | completed => 3
  | failed => 4

/-- The word for a phase. -/
def word : Phase → String
  | pending => "pending"
  | precomputing => "precomputing"
  | realtime => "realtime"
  | completed => "completed"
  | failed => "failed"

/-- The phase of that word. -/
def ofWord? (s : String) : Option Phase := all.find? fun p => p.word = s

theorem mem_all (p : Phase) : p ∈ all := by cases p <;> decide

theorem ofWord?_word (p : Phase) : ofWord? p.word = some p := by cases p <;> decide

/-- The life of a round ends here. -/
def isTerminal : Phase → Bool
  | completed | failed => true
  | _ => false

/-- One step forward, or failure from a phase that is not the end. -/
def mayAdvance (current next : Phase) : Bool :=
  match current, next with
  | pending, precomputing => true
  | precomputing, realtime => true
  | realtime, completed => true
  | pending, failed => true
  | precomputing, failed => true
  | realtime, failed => true
  | _, _ => false

theorem rank_lt_of_mayAdvance {p q : Phase} (h : p.mayAdvance q = true) : p.rank < q.rank := by
  cases p <;> cases q <;> first | exact absurd h (by decide) | decide

theorem not_mayAdvance_of_isTerminal {p : Phase} (h : p.isTerminal = true) (q : Phase) :
    p.mayAdvance q = false := by
  cases p <;> cases q <;> first | rfl | exact absurd h (by decide)

end Phase

/-- The two phases that are timed. -/
inductive TimedPhase where
  | precomputation
  | realtime
  deriving DecidableEq, Repr

namespace TimedPhase

def all : List TimedPhase := [precomputation, realtime]

/-- The word for a timed phase. -/
def word : TimedPhase → String
  | precomputation => "precomputation"
  | realtime => "realtime"

/-- The timed phase of that word. -/
def ofWord? (s : String) : Option TimedPhase := all.find? fun p => p.word = s

theorem ofWord?_word (p : TimedPhase) : ofWord? p.word = some p := by cases p <;> decide

/-- The phase that a timer watches. -/
def watched : TimedPhase → Phase
  | precomputation => .precomputing
  | realtime => .realtime

/-- What a timeout in phase `p` is called: of realtime once the round is past precomputing. -/
def classify (p : Phase) : TimedPhase :=
  if Phase.rank .precomputing < p.rank then realtime else precomputation

end TimedPhase

/-- Why a round was failed. -/
inductive Cause where
  | timeout (phase : TimedPhase)
  | nodeError
  | nodeBanned
  deriving DecidableEq, Repr

namespace Cause

/-- The cause in a sentence. -/
def text : Cause → String
  | timeout phase => "round timed out in " ++ phase.word
  | nodeError => "node reported an error"
  | nodeBanned => "node was banned"

/-- Whether a timer was the cause. -/
def isTimeout : Cause → Bool
  | timeout _ => true
  | _ => false

end Cause

end MixRounds
