import MixRounds.Command.Pattern.Escape
import MixRounds.Command.Pattern.Nesting

/-!
# Sets of characters in patterns

A set stands in brackets: characters, ranges, named classes and other sets, joined by operators.  A
caret before them turns the set round, which over bytes would let it match half a character.  Hyphens at
the very beginning stand for themselves, and so does a bracket that is not preceded by one.
-/

namespace MixRounds.Command.Pattern

/-- A set that is open: its members since the last operator, and the levels of what stands before that
operator. -/
structure Bracket where
  members : Row
  left : Option Nat
  deriving DecidableEq, Repr

namespace Bracket

/-- One more member. -/
def add (b : Bracket) (levels : Nat) : Bracket := { b with members := b.members.add levels }

/-- The levels of everything up to here; each operator is one level above its two sides. -/
def levels (b : Bracket) : Nat :=
  match b.left with
  | none => b.members.levels
  | some left => max left b.members.levels + 1

/-- An operator: everything up to here is its left side. -/
def operate (b : Bracket) : Bracket := ⟨.empty, some b.levels⟩

end Bracket

/-! ## Members -/

/-- Classes that a set can name. -/
def classNames : List String :=
  ["alnum", "alpha", "ascii", "blank", "cntrl", "digit", "graph", "lower", "print", "punct", "space",
    "upper", "word", "xdigit"]

/-- A named class after its bracket, `:name:]` or `:^name:]`: whether it is turned round, and the
rest. -/
def namedClass? : List Char → Option (Bool × List Char)
  | ':' :: rest =>
      let (inverse, body) := match rest with
        | '^' :: more => (true, more)
        | _ => (false, rest)
      let name := body.takeWhile (· ≠ ':')
      match body.drop name.length with
      | ':' :: ']' :: more =>
          if classNames.contains (String.ofList name) then some (inverse, more) else none
      | _ => none
  | _ => none

/-- One character or class of a set; over bytes only ASCII. -/
def member? (f : Flags) (cs : List Char) : Option (Atom × List Char) := do
  let (atom, rest) ← match cs with
    | [] => none
    | '\\' :: rest => escape? f rest
    | c :: rest => some (.single c, rest)
  match atom with
  | .single c => if !f.whole && 128 ≤ c.toNat then none else return (atom, rest)
  | _ => return (atom, rest)

/-- A member or a range of a set, and the rest.  A hyphen before another one, or before the closing
bracket, makes no range. -/
def range? (f : Flags) (cs : List Char) : Option (List Char) := do
  let (low, rest) ← member? f cs
  let rest := skipBlanks f rest
  let after := glance f (rest.drop 1)
  if rest.head? = some '-' ∧ after ≠ some ']' ∧ after ≠ some '-' then
    let (high, rest) ← member? f (skipBlanks f (rest.drop 1))
    match low, high with
    | .single a, .single b => if a ≤ b then some rest else none
    | _, _ => none
  else if low = .place then none
  else return rest

/-! ## Sets -/

/-- The hyphens with which a set begins. -/
def hyphens (f : Flags) : Nat → Bracket → List Char → Bracket × List Char
  | 0, b, cs => (b, cs)
  | fuel + 1, b, cs =>
      match cs with
      | '-' :: rest => hyphens f fuel (b.add 0) (skipBlanks f rest)
      | _ => (b, cs)

/-- The head of a set after its bracket. -/
def bracket? (f : Flags) (cs : List Char) : Option (Bracket × List Char) := do
  let body ← match skipBlanks f cs with
    | '^' :: rest => if f.whole then some (skipBlanks f rest) else none
    | rest => some rest
  let (b, rest) := hyphens f body.length ⟨.empty, none⟩ body
  let (b, rest) := match rest with
    | ']' :: more => if b.members.size = 0 then (b.add 0, more) else (b, rest)
    | _ => (b, rest)
  if b.members.size ≠ 0 ∧ !f.mayStand then none else return (b, rest)

/-- The levels of a set that is open inside the sets `outer`, and the rest of the pattern after it. -/
def set? (f : Flags) : Nat → List Bracket → Bracket → List Char → Option (Nat × List Char)
  | 0, _, _, _ => none
  | fuel + 1, outer, b, cs =>
      match skipBlanks f cs with
      | [] => none
      | '[' :: rest =>
          match namedClass? rest with
          | some (inverse, more) =>
              if f.mayStand ∧ (f.whole ∨ !inverse) then set? f fuel outer (b.add 0) more else none
          | none => do
              let (inner, rest) ← bracket? f rest
              set? f fuel (b :: outer) inner rest
      | ']' :: rest =>
          match outer with
          | [] => some (b.levels + 1, rest)
          | o :: outer => set? f fuel outer (o.add (b.levels + 1)) rest
      | '&' :: '&' :: rest => set? f fuel outer b.operate rest
      | '-' :: '-' :: rest => set? f fuel outer b.operate rest
      | '~' :: '~' :: rest => set? f fuel outer b.operate rest
      | cs =>
          if f.mayStand then (range? f cs).bind (set? f fuel outer (b.add 0))
          else none

end MixRounds.Command.Pattern
