/-!
# How deep a pattern nests

A pattern may nest no deeper than 250 levels.  A character stands on no level of its own.  A group, a
repetition and a set are one level above what they hold, and so is a row of parts that has more than one
of them; a row of a single part is that part.
-/

namespace MixRounds.Command.Pattern

/-- The most levels that a pattern may have. -/
def mostLevels : Nat := 250

/-- The parts of a row, by their levels: how many there are, the levels of the deepest one before the
last, and those of the last one. -/
structure Row where
  size : Nat
  deepest : Nat
  last : Nat
  deriving DecidableEq, Repr

namespace Row

/-- No parts. -/
def empty : Row := ⟨0, 0, 0⟩

/-- One more part. -/
def add (r : Row) (levels : Nat) : Row := ⟨r.size + 1, max r.deepest r.last, levels⟩

/-- The last part is repeated. -/
def repeatLast (r : Row) : Row := { r with last := r.last + 1 }

/-- The levels of the whole row. -/
def levels (r : Row) : Nat := if r.size ≤ 1 then r.last else max r.deepest r.last + 1

@[simp]
theorem levels_empty : empty.levels = 0 := rfl

theorem levels_add_empty (n : Nat) : (empty.add n).levels = n := rfl

/-- A row is no shallower for one more part. -/
theorem le_levels_add (r : Row) (n : Nat) (h : r.size = 0 → r = empty) :
    r.levels ≤ (r.add n).levels ∧ n ≤ (r.add n).levels := by
  unfold levels add
  by_cases h₀ : r.size = 0
  · simp [h h₀, empty]
  · by_cases h₁ : r.size ≤ 1 <;> simp [h₀, h₁] <;> omega

end Row

end MixRounds.Command.Pattern
