/-!
# Places in a text

A settings file is read from its first character to its last, with the line and the column of the next
character kept beside the rest of the text, because indentation is what gives a block its shape.  Lines
end in one of three characters: the ordinary one, which stands for every spelling of an ordinary line
break, and the separators of lines and of paragraphs, which stay what they are.
-/

namespace MixRounds.Yaml

/-! ## Characters -/

/-- Whether a character may occur in a text. -/
def isAllowed (c : Char) : Bool :=
  let n := c.toNat
  n == 9 || n == 10 || n == 13 || (32 ≤ n && n ≤ 126) || n == 0x85 ||
    (0xA0 ≤ n && n ≠ 0xFFFE && n ≠ 0xFFFF)

/-- A blank within a line. -/
def isBlank (c : Char) : Bool := c == ' ' || c == '\t'

/-- The end of a line. -/
def isBreak (c : Char) : Bool := c == '\n' || c.toNat == 0x2028 || c.toNat == 0x2029

/-- The mark of byte order, which may begin a line. -/
def isOrderMark (c : Char) : Bool := c.toNat == 0xFEFF

/-- The characters of names: ASCII letters, digits, hyphens and underscores. -/
def isWord (c : Char) : Bool := c.isAlphanum || c == '-' || c == '_'

/-- Whether the line ends here. -/
def atBreak (cs : List Char) : Bool := cs.head?.all isBreak

/-- Whether the text ends or goes on with a blank or in a new line. -/
def atGap (cs : List Char) : Bool := cs.head?.all fun c => isBlank c || isBreak c

/-- Every ordinary line break as one character. -/
def normalizeBreaks : List Char → List Char
  | [] => []
  | '\r' :: '\n' :: rest => '\n' :: normalizeBreaks rest
  | c :: rest => (if c == '\r' || c.toNat == 0x85 then '\n' else c) :: normalizeBreaks rest

/-- How many bytes characters take. -/
def byteLength (cs : List Char) : Nat := cs.foldl (fun n c => n + c.utf8Size) 0

/-! ## Places -/

/-- The rest of a text, how many bytes were read, and the line and column of the next character. -/
structure Cursor where
  rest : List Char
  index : Nat
  line : Nat
  column : Nat
  deriving DecidableEq, Repr

namespace Cursor

/-- The head of a text. -/
def ofText (cs : List Char) : Cursor := ⟨cs, 0, 0, 0⟩

/-- Go over `n` characters of a line. -/
def advance (c : Cursor) (n : Nat) : Cursor :=
  ⟨c.rest.drop n, c.index + byteLength (c.rest.take n), c.line, c.column + n⟩

/-- Go over one character, perhaps into a new line. -/
def next (c : Cursor) : Cursor :=
  match c.rest with
  | [] => c
  | d :: rest =>
      if isBreak d then ⟨rest, c.index + d.utf8Size, c.line + 1, 0⟩ else c.advance 1

/-- Go over the characters of a line that are of a kind. -/
def skipWhile (p : Char → Bool) (c : Cursor) : Cursor := c.advance (c.rest.takeWhile p).length

/-- The characters of a line that are of a kind, and the place after them. -/
def span (p : Char → Bool) (c : Cursor) : List Char × Cursor := (c.rest.takeWhile p, c.skipWhile p)

/-- Whether the text goes on with the character. -/
def startsWith (c : Cursor) (d : Char) : Bool := c.rest.head? == some d

/-- Go over a comment. -/
def skipComment (c : Cursor) : Cursor :=
  if c.startsWith '#' then c.skipWhile fun d => !isBreak d else c

/-- Go over what may follow on a line, and into the next one; fails if there is anything but blanks and
a comment. -/
def endLine? (c : Cursor) : Option Cursor :=
  let d := (c.skipWhile isBlank).skipComment
  if atBreak d.rest then some d.next else none

/-- Whether a line consists of three of the character, or begins so and goes on with a blank. -/
def atMarker (c : Cursor) (d : Char) : Bool :=
  c.column == 0 && c.rest.take 3 == [d, d, d] && atGap (c.rest.drop 3)

/-- Whether a line here begins or ends a document. -/
def atBoundary (c : Cursor) : Bool := c.atMarker '-' || c.atMarker '.'

end Cursor

end MixRounds.Yaml
