/-!
# Character classes as runs

A class of characters is written as run lengths: from code point zero on, a run of characters outside
the class, a run of characters inside it, and so on in turn up to the last code point.  The lengths are
hexadecimal words with one blank between them.  Looking a character up halves the table.
-/

namespace MixRounds.Text

/-- The value of hexadecimal digits. -/
def hexValue (digits : List Char) : Nat :=
  digits.foldl (fun n c => 16 * n + (if c.isDigit then c.toNat - 48 else c.toNat - 87)) 0

/-- The code points at which a run begins, with whether the run is one of the class. -/
def runStarts (lengths : String) : Array (Nat × Bool) :=
  let lengths := (lengths.splitOn " ").map fun word => hexValue word.toList
  (lengths.foldl (fun (acc : Array (Nat × Bool) × Nat × Bool) len =>
    (acc.1.push (acc.2.1, acc.2.2), acc.2.1 + len, !acc.2.2)) (#[], 0, false)).1

/-- The last entry of `runs` that begins at or before `n`, found by halving `lo ≤ i < hi`. -/
def runAt (runs : Array (Nat × Bool)) (n : Nat) : Nat → Nat → Nat → Bool
  | 0, lo, _ => (runs[lo]?.map Prod.snd).getD false
  | fuel + 1, lo, hi =>
      if hi ≤ lo + 1 then (runs[lo]?.map Prod.snd).getD false
      else
        let mid := (lo + hi) / 2
        if (runs[mid]?.map Prod.fst).getD 0 ≤ n then runAt runs n fuel mid hi
        else runAt runs n fuel lo mid

/-- Whether the character is in the class. -/
def inRuns (runs : Array (Nat × Bool)) (c : Char) : Bool := runAt runs c.toNat 20 0 runs.size

end MixRounds.Text
