import MixRounds.Yaml.Property

/-!
# Scalars

A scalar is written plainly, between quotes, or as a block of lines below its head.  Where a plain or
quoted one goes over several lines, the blanks around a line break do not count, one break stands for a
blank, and of several breaks the first is dropped.  In a block every line is kept or joined to the one
before as the head says, and what is indented by the same amount belongs to it.

A tab is a blank, but it does not indent: where a line has to be indented to some column, a tab before
that column makes the text unreadable.
-/

namespace MixRounds.Yaml

/-! ## Gaps -/

/-- Blanks on a line, and the breaks after it if it ends there. -/
structure Gap where
  blanks : List Char
  breaks : List Char
  deriving DecidableEq, Repr

/-- What a gap stands for inside a scalar. -/
def Gap.text (g : Gap) : List Char :=
  match g.breaks with
  | [] => g.blanks
  | ['\n'] => [' ']
  | '\n' :: more => more
  | breaks => breaks

/-- Go over breaks and the blanks that begin lines, and collect the breaks, last one first; fails at a
tab left of `indent`. -/
def breaks? (indent : Nat) : Nat → Cursor → List Char → Option (List Char × Cursor)
  | 0, c, acc => some (acc, c)
  | fuel + 1, c, acc =>
      match c.rest with
      | d :: _ =>
          if isBreak d then breaks? indent fuel c.next (d :: acc)
          else if isBlank d then
            if d == '\t' && c.column < indent then none else breaks? indent fuel c.next acc
          else some (acc, c)
      | [] => some (acc, c)

/-- Go over a gap. -/
def gap? (indent : Nat) (c : Cursor) : Option (Gap × Cursor) :=
  let (blanks, d) := c.span isBlank
  match d.rest with
  | [] => some (⟨blanks, []⟩, d)
  | e :: _ =>
      if isBreak e then
        (breaks? indent d.rest.length d []).map fun (breaks, f) => (⟨blanks, breaks.reverse⟩, f)
      else some (⟨blanks, []⟩, d)

/-! ## Quoted scalars -/

/-- The characters that have an escape of one letter. -/
def letterEscape? (c : Char) : Option Nat :=
  [('0', 0), ('a', 7), ('b', 8), ('t', 9), ('\t', 9), ('n', 10), ('v', 11), ('f', 12), ('r', 13),
    ('e', 27), (' ', 32), ('"', 34), ('/', 47), ('\\', 92), ('N', 0x85), ('_', 0xA0), ('L', 0x2028),
    ('P', 0x2029)].lookup c

/-- How many digits follow an escape that names a character. -/
def escapeDigits? (c : Char) : Option Nat := [('x', 2), ('u', 4), ('U', 8)].lookup c

/-- The character that a backslash and what follows stand for, and how much that is. -/
def escape? : List Char → Option (Char × Nat)
  | [] => none
  | c :: rest =>
      match escapeDigits? c with
      | some count => do
          let digits := rest.take count
          if digits.length < count then none
          else
            let n ← hexValue? digits
            if n.isValidChar then return (Char.ofNat n, count + 1) else none
      | none => (letterEscape? c).map fun n => (Char.ofNat n, 1)

/-- A scalar in double quotes, after the opening one; a line break after a backslash is not part of
it. -/
def doubleQuoted? : Nat → Cursor → List Char → Option (List Char × Cursor)
  | 0, _, _ => none
  | fuel + 1, c, acc =>
      if c.atBoundary then none
      else
        match c.rest with
        | [] => none
        | '"' :: _ => some (acc.reverse, c.advance 1)
        | '\\' :: rest =>
            if rest.head?.any isBreak then do
              let (breaks, d) ← breaks? 0 rest.length (c.advance 1).next []
              doubleQuoted? fuel d (breaks ++ acc)
            else do
              let (d, used) ← escape? rest
              doubleQuoted? fuel (c.advance (used + 1)) (d :: acc)
        | d :: _ =>
            if isBlank d || isBreak d then do
              let (g, e) ← gap? 0 c
              doubleQuoted? fuel e (g.text.reverse ++ acc)
            else doubleQuoted? fuel (c.advance 1) (d :: acc)

/-- A scalar in single quotes, after the opening one; a quote inside is written twice. -/
def singleQuoted? : Nat → Cursor → List Char → Option (List Char × Cursor)
  | 0, _, _ => none
  | fuel + 1, c, acc =>
      if c.atBoundary then none
      else
        match c.rest with
        | [] => none
        | '\x27' :: '\x27' :: _ => singleQuoted? fuel (c.advance 2) ('\x27' :: acc)
        | '\x27' :: _ => some (acc.reverse, c.advance 1)
        | d :: _ =>
            if isBlank d || isBreak d then do
              let (g, e) ← gap? 0 c
              singleQuoted? fuel e (g.text.reverse ++ acc)
            else singleQuoted? fuel (c.advance 1) (d :: acc)

/-! ## Plain scalars -/

/-- Characters that a plain scalar cannot begin with. -/
def isIndicator (c : Char) : Bool :=
  ['-', '?', ':', ',', '[', ']', '\x7b', '\x7d', '#', '&', '*', '!', '|', '>', '\x27', '"', '%', '@',
    '\x60'].contains c

/-- Marks of bracketed values, which end a plain scalar inside brackets. -/
def isFlowMark (c : Char) : Bool := [',', '[', ']', '\x7b', '\x7d'].contains c

/-- Whether a plain scalar can begin here: three of the marks may begin one if no gap follows, two of
these only outside brackets. -/
def beginsPlain (flow : Bool) : List Char → Bool
  | [] => false
  | c :: rest =>
      if c == '-' then !(rest.head?.any isBlank)
      else if c == '?' || c == ':' then !flow && !atGap rest
      else !(isIndicator c || isBlank c || isBreak c)

/-- A plain scalar, and whether the place after it is at the beginning of a line.  It goes on over lines
indented to `indent`, inside brackets over all lines; `gap` is what was read since its last character,
and `broken` whether there was a line break in it. -/
def plain? (flow : Bool) (indent : Nat) :
    Nat → Cursor → List Char → List Char → Bool → Option (List Char × Bool × Cursor)
  | 0, _, _, _, _ => none
  | fuel + 1, c, acc, gap, broken =>
      match c.rest with
      | [] => some (acc.reverse, broken, c)
      | d :: rest =>
          if isBlank d || isBreak d then do
            let (g, e) ← gap? indent c
            let broken := !g.breaks.isEmpty
            if !flow && e.column < indent then return (acc.reverse, broken, e)
            else plain? flow indent fuel e acc g.text broken
          else if c.atBoundary || (d == '#' && !gap.isEmpty) then some (acc.reverse, broken, c)
          else if flow && d == ':' && rest.head?.any fun e => e == '?' || isFlowMark e then none
          else if (d == ':' && atGap rest) || (flow && isFlowMark d) then some (acc.reverse, broken, c)
          else plain? flow indent fuel (c.advance 1) (d :: (gap.reverse ++ acc)) [] false

/-! ## Blocks of lines -/

/-- What becomes of the line breaks at the end of a block. -/
inductive Chomp where
  /-- The first is kept. -/
  | clip
  /-- None is kept. -/
  | strip
  /-- All are kept. -/
  | keep
  deriving DecidableEq, Repr

/-- What the head of a block says, after its mark: a sign for the breaks at the end and a digit for the
indentation, either of which may be missing, in any order.  The rest of the line is empty. -/
def blockHead? (c : Cursor) : Option (Chomp × Option Nat × Cursor) := do
  let sign? (c : Cursor) : Option Chomp :=
    if c.startsWith '+' then some .keep else if c.startsWith '-' then some .strip else none
  let digit? (c : Cursor) : Option Nat :=
    c.rest.head?.bind fun d => if d.isDigit then some (d.toNat - 48) else none
  let (sign, digit, c) :=
    match sign? c, digit? c with
    | some sign, _ =>
        match digit? (c.advance 1) with
        | some n => (some sign, some n, c.advance 2)
        | none => (some sign, none, c.advance 1)
    | none, some n =>
        match sign? (c.advance 1) with
        | some sign => (some sign, some n, c.advance 2)
        | none => (none, some n, c.advance 1)
    | none, none => (none, none, c)
  if digit = some 0 then none
  let d ← c.endLine?
  return (sign.getD .clip, digit, d)

/-- Go over empty lines and the indentation of the next one, and collect the breaks, last one first, with
the width of the widest indentation; `indent` is zero while it is not known.  Fails at a tab in the
place of indentation. -/
def blockBreaks? (indent : Nat) : Nat → Cursor → List Char → Nat → Option (List Char × Nat × Cursor)
  | 0, c, acc, widest => some (acc, widest, c)
  | fuel + 1, c, acc, widest =>
      let blanks := (c.rest.takeWhile (· == ' ')).length
      let d := c.advance (if indent = 0 then blanks else min blanks (indent - c.column))
      let widest := max widest d.column
      if (indent = 0 || d.column < indent) && d.startsWith '\t' then none
      else
        match d.rest with
        | e :: _ =>
            if isBreak e then blockBreaks? indent fuel d.next (e :: acc) widest
            else some (acc, widest, d)
        | [] => some (acc, widest, d)

/-- What has been read of a block: its text, last character first, the break that ended the last line, the
breaks of the empty lines since, and whether the last line began with a blank. -/
structure BlockText where
  text : List Char
  lineBreak : Option Char
  breaks : List Char
  indented : Bool
  deriving DecidableEq, Repr

namespace BlockText

/-- Add a line and the break that ends it.  In a block that joins its lines, a break between two lines
that do not begin with a blank is a blank, or nothing if empty lines follow it. -/
def addLine (b : BlockText) (style : Style) (line : List Char) (lineBreak : Option Char) : BlockText :=
  let indented := line.head?.any isBlank
  let joint :=
    if style = .folded ∧ b.lineBreak = some '\n' ∧ !b.indented ∧ !indented then
      if b.breaks.isEmpty then [' '] else []
    else b.lineBreak.toList
  ⟨line.reverse ++ (b.breaks ++ (joint ++ b.text)), lineBreak, [], indented⟩

/-- The text of the block. -/
def finish (b : BlockText) (chomp : Chomp) : List Char :=
  let text := if chomp = .strip then b.text else b.lineBreak.toList ++ b.text
  (if chomp = .keep then b.breaks ++ text else text).reverse

end BlockText

/-- The lines of a block that are indented to `indent`. -/
def blockLines? (style : Style) (indent : Nat) : Nat → Cursor → BlockText → Option (BlockText × Cursor)
  | 0, c, b => some (b, c)
  | fuel + 1, c, b =>
      if c.column ≠ indent ∨ c.rest.isEmpty then some (b, c)
      else do
        let (line, d) := c.span fun e => !isBreak e
        let b := b.addLine style line d.rest.head?
        let (breaks, _, e) ← blockBreaks? indent d.rest.length d.next [] 0
        blockLines? style indent fuel e { b with breaks := breaks }

/-- A block after its mark, inside a block whose content is indented to `floor` at least. -/
def blockScalar? (style : Style) (floor : Nat) (c : Cursor) : Option (List Char × Cursor) := do
  let (chomp, digit, c) ← blockHead? c
  let given := match digit with
    | some n => floor - 1 + n
    | none => 0
  let (breaks, widest, c) ← blockBreaks? given c.rest.length c [] 0
  let indent := if given = 0 then max 1 (max floor widest) else given
  let (b, c) ← blockLines? style indent c.rest.length c ⟨[], none, breaks, false⟩
  return (b.finish chomp, c)

end MixRounds.Yaml
