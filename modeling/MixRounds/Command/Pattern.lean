import MixRounds.Command.Pattern.Bracket
import MixRounds.Text.Alphanumeric

/-!
# Patterns

A log filter can ask for the value of a field by a pattern: characters, sets of characters in brackets,
groups, choices and repetitions, with escapes and flags.  Nothing is ever matched here; this module says
which texts are patterns.  Inside a field no brace closes before the pattern ends, so what needs one — a
counted repetition, a number in braces — is never complete.

Patterns run over whole characters unless a flag turns to bytes.  The classes that need a table of all
characters (letters, digits and blanks of every script, word boundaries, letters regardless of case) can
be asked for over bytes only, and over bytes nothing may match half a character.
-/

namespace MixRounds.Command.Pattern

/-! ## Heads of groups -/

/-- The name of a group, after its angle bracket: a letter or an underscore, and then letters, numbers
and a few marks. -/
def groupName? (cs : List Char) : Option (String × List Char) :=
  let name := cs.takeWhile (· ≠ '>')
  match name, cs.drop name.length with
  | c :: more, _ :: rest =>
      if (c == '_' || Text.isAlphabetic c) &&
          more.all fun d => ['_', '.', '[', ']'].contains d || Text.isAlphanumeric d then
        some (String.ofList name, rest)
      else none
  | _, _ => none

/-- Flags up to the mark that ends them: each letter once, after one hyphen at most the ones that are
turned off.  The flags then in force, the mark, and the rest. -/
def flags? : List Char → List Char → Bool → Flags → Option (Flags × Char × List Char)
  | [], _, _, _ => none
  | c :: rest, seen, on, f =>
      if c == ':' || c == ')' then
        if seen.head? = some '-' then none else some (f, c, rest)
      else if seen.contains c then none
      else
        match c with
        | '-' => flags? rest (c :: seen) false f
        | 'i' => flags? rest (c :: seen) on { f with ignoresCase := on }
        | 'u' => flags? rest (c :: seen) on { f with whole := on }
        | 'x' => flags? rest (c :: seen) on { f with spaced := on }
        | 'm' | 's' | 'U' | 'R' => flags? rest (c :: seen) on f
        | _ => none

/-! ## Reading -/

/-- A group that is open: the flags around it, and the choices and the row in which it stands. -/
structure Group where
  flags : Flags
  choices : Row
  row : Row

/-- How far a pattern has been read: its rest, the flags in force, the open groups, the earlier choices
of the innermost one and the row of its last choice, whether that row ends in something that can be
repeated, and the names of all groups. -/
structure Reading where
  rest : List Char
  flags : Flags
  outer : List Group
  choices : Row
  row : Row
  repeatable : Bool
  names : List String

namespace Reading

/-- Everything is still to be read. -/
def start (cs : List Char) : Reading := ⟨cs, ⟨true, false, false⟩, [], .empty, .empty, false, []⟩

/-- The levels of all choices of the innermost group. -/
def levels (r : Reading) : Nat := (r.choices.add r.row.levels).levels

/-- Go on at `rest` after a part that can be repeated. -/
def part (r : Reading) (levels : Nat) (rest : List Char) : Reading :=
  { r with rest := rest, row := r.row.add levels, repeatable := true }

/-- Go on at `rest`, inside a group that has just been opened. -/
def enter (r : Reading) (rest : List Char) (f : Flags) : Reading :=
  { r with
    rest := rest
    flags := f
    outer := ⟨r.flags, r.choices, r.row⟩ :: r.outer
    choices := .empty
    row := .empty
    repeatable := false }

/-- Go on at `rest`, after the group that has just been closed. -/
def leave? (r : Reading) (rest : List Char) : Option Reading :=
  match r.outer with
  | [] => none
  | g :: outer =>
      some ({ r with flags := g.flags, outer := outer, choices := g.choices, row := g.row }.part
        (r.levels + 1) rest)

/-- Go on at `rest`, at another choice. -/
def choose (r : Reading) (rest : List Char) : Reading :=
  { r with rest := rest, choices := r.choices.add r.row.levels, row := .empty, repeatable := false }

/-- Go on after a repetition of the last part; it may be a reluctant one. -/
def repeat? (r : Reading) (rest : List Char) : Option Reading :=
  if r.repeatable then
    some { r with
      rest := if rest.head? = some '?' then rest.drop 1 else rest
      row := r.row.repeatLast }
  else none

/-- Read what follows the opening parenthesis of a group. -/
def group? (r : Reading) (cs : List Char) : Option Reading :=
  let named (cs : List Char) : Option Reading := do
    let (name, rest) ← groupName? cs
    if r.names.contains name then none
    else return { r.enter rest r.flags with names := name :: r.names }
  match cs with
  | '?' :: '=' :: _ | '?' :: '!' :: _ | '?' :: '<' :: '=' :: _ | '?' :: '<' :: '!' :: _ => none
  | '?' :: 'P' :: '<' :: rest => named rest
  | '?' :: '<' :: rest => named rest
  | '?' :: rest => do
      let (f, mark, after) ← flags? rest [] true r.flags
      if mark == ':' then return r.enter after f
      else if rest.head? = some ')' then none
      else return { r.part 0 after with flags := f, repeatable := false }
  | _ => some (r.enter cs r.flags)

/-- Read one element. -/
def element? (r : Reading) : Option Reading :=
  match r.rest with
  | [] => some r
  | '(' :: rest => r.group? (skipBlanks r.flags rest)
  | ')' :: rest => r.leave? rest
  | '|' :: rest => some (r.choose rest)
  | '[' :: rest => do
      let (b, body) ← bracket? r.flags rest
      let (levels, rest) ← set? r.flags (rest.length + 1) [] b body
      return r.part levels rest
  | '\x7b' :: _ => none
  | '\\' :: rest => do
      let (atom, rest) ← escape? r.flags rest
      match atom with
      | .single _ => if r.flags.mayStand then return r.part 0 rest else none
      | _ => return r.part 0 rest
  | '.' :: rest => if r.flags.whole then some (r.part 0 rest) else none
  | c :: rest =>
      if c == '*' || c == '+' || c == '?' then r.repeat? rest
      else if c == '^' || c == '$' || r.flags.mayStand then some (r.part 0 rest)
      else none

/-- Whether what is left completes the pattern. -/
def isComplete : Nat → Reading → Bool
  | 0, _ => false
  | fuel + 1, r =>
      let r := { r with rest := skipBlanks r.flags r.rest }
      if r.rest.isEmpty then r.outer.isEmpty && r.levels ≤ mostLevels
      else
        match r.element? with
        | some next => isComplete fuel next
        | none => false

end Reading

/-- Whether the text is a pattern. -/
def isPattern (cs : List Char) : Bool := Reading.isComplete (cs.length + 1) (.start cs)

end MixRounds.Command.Pattern
