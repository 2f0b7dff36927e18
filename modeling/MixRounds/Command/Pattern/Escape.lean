import MixRounds.Text.Blank
import MixRounds.Text.Hex

/-!
# Escapes in patterns

A backslash gives a mark its plain meaning and a letter a special one: a character by its number, a
control character, a class of characters, or a place between characters.  What a pattern may ask for
depends on the flags in force.  Over whole characters the classes that need a table of all characters
cannot be had; over bytes they can, because only ASCII counts there.
-/

namespace MixRounds.Command.Pattern

/-- The flags in force. -/
structure Flags where
  /-- Matches characters, and not bytes. -/
  whole : Bool
  ignoresCase : Bool
  /-- Blanks and comments in the pattern do not count. -/
  spaced : Bool
  deriving DecidableEq, Repr

/-- Whether a character may stand for itself: without a table, the case of a whole character cannot be
ignored. -/
def Flags.mayStand (f : Flags) : Bool := !(f.whole && f.ignoresCase)

/-- What an escape or a character stands for. -/
inductive Atom where
  /-- One character. -/
  | single (c : Char)
  /-- A class of characters. -/
  | kind
  /-- A place between characters. -/
  | place
  deriving DecidableEq, Repr

/-! ## Blanks -/

/-- Drop blanks and comments, with fuel for each of them. -/
def skipBlanksFor : Nat → List Char → List Char
  | 0, cs => cs
  | fuel + 1, cs =>
      match cs with
      | c :: rest =>
          if Text.isBlank c then skipBlanksFor fuel rest
          else if c == '#' then skipBlanksFor fuel ((rest.dropWhile (· ≠ '\n')).drop 1)
          else cs
      | [] => []

/-- Drop blanks and comments where they do not count. -/
def skipBlanks (f : Flags) (cs : List Char) : List Char :=
  if f.spaced then skipBlanksFor cs.length cs else cs

/-- The next character that is not a blank, for a look ahead.  The look goes over the mark of a comment,
but not over the comment. -/
def glance (f : Flags) (cs : List Char) : Option Char :=
  if f.spaced then
    match cs.dropWhile Text.isBlank with
    | '#' :: rest => (rest.dropWhile Text.isBlank).head?
    | rest => rest.head?
  else cs.head?

/-! ## Characters by number -/

/-- A number of so many digits after the digits that give `n`; blanks may stand before each. -/
def number? (f : Flags) : Nat → Nat → List Char → Option (Nat × List Char)
  | 0, n, cs => some (n, cs)
  | count + 1, n, cs =>
      match skipBlanks f cs with
      | c :: rest => (Hex.value? c).bind fun d => number? f count (16 * n + d) rest
      | [] => none

/-- A character by its number, of `count` digits; two digits are a byte where bytes are matched, and half
a character matches nothing. -/
def numbered? (f : Flags) (count : Nat) (cs : List Char) : Option (Atom × List Char) := do
  let (n, rest) ← number? f count 0 cs
  if !n.isValidChar ∨ (!f.whole ∧ 128 ≤ n ∧ count = 2) then none
  else return (.single (Char.ofNat n), rest)

/-! ## Escapes -/

/-- The letters for control characters. -/
def controls : List (Char × Char) :=
  [('a', '\x07'), ('f', '\x0c'), ('t', '\t'), ('n', '\n'), ('r', '\r'), ('v', '\x0b')]

/-- The letters for characters by number, with the number of digits. -/
def widths : List (Char × Nat) := [('x', 2), ('u', 4), ('U', 8)]

/-- What can stand for itself after a backslash: all of ASCII but letters, digits and angle brackets. -/
def isEscapable (c : Char) : Bool := c.toNat < 128 && !c.isAlphanum && c != '<' && c != '>'

/-- What follows a backslash. -/
def escape? (f : Flags) : List Char → Option (Atom × List Char)
  | [] => none
  | c :: rest =>
      match widths.lookup c, controls.lookup c with
      | some count, _ => numbered? f count rest
      | none, some control => some (.single control, rest)
      | none, none =>
          if isEscapable c then some (.single c, rest)
          else if ['A', 'z'].contains c then some (.place, rest)
          else if f.whole then none
          else if ['d', 's', 'w'].contains c then some (.kind, rest)
          else if ['b', 'B', '<', '>'].contains c then some (.place, rest)
          else none

end MixRounds.Command.Pattern
