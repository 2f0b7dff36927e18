/-!
# Points in time

An instant is a whole number of seconds since the start of 1970 and a number of nanoseconds.  Clocks
show less than 10⁹ nanoseconds; more than that names a moment inside a leap second, and counts as the
last second of the minute for everything but its text.
-/

namespace MixRounds

/-- A point in time. -/
structure Instant where
  seconds : Int
  nanos : Nat
  deriving DecidableEq, Repr

namespace Instant

/-- Nanoseconds since the start of 1970. -/
def total (t : Instant) : Int := t.seconds * 1000000000 + t.nanos

/-- The instant that many nanoseconds after the start of 1970. -/
def ofNanos (n : Int) : Instant := ⟨n / 1000000000, (n % 1000000000).toNat⟩

/-- The instant that many milliseconds after the start of 1970. -/
def ofMillis (ms : Int) : Instant := ofNanos (ms * 1000000)

/-- Milliseconds since the start of 1970, rounded down. -/
def toMillis (t : Instant) : Int := t.total / 1000000

/-- The instant `ms` milliseconds later; a negative number leads into the past. -/
def addMillis (t : Instant) (ms : Int) : Instant := ofNanos (t.total + ms * 1000000)

/-- The instant `s` seconds later; a negative number leads into the past. -/
def addSeconds (t : Instant) (s : Int) : Instant := ⟨t.seconds + s, t.nanos⟩

/-- The nanoseconds from `earlier` to `t`. -/
def since (t earlier : Instant) : Int := t.total - earlier.total

theorem total_ofNanos (n : Int) : (ofNanos n).total = n := by
  unfold ofNanos total
  simp only
  omega

theorem total_addMillis (t : Instant) (ms : Int) :
    (t.addMillis ms).total = t.total + ms * 1000000 := total_ofNanos _

theorem toMillis_ofMillis (ms : Int) : (ofMillis ms).toMillis = ms := by
  unfold toMillis ofMillis
  rw [total_ofNanos]
  omega

end Instant

end MixRounds
