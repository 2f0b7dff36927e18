import MixRounds.Yaml.Cursor
import MixRounds.Yaml.Token

/-!
# Names, tags and directives

A value can be named, referred to by name, and given a tag.  A tag is written in full between angle
brackets, or as a handle and a suffix; a directive before the document says what a handle stands for.
-/

namespace MixRounds.Yaml

/-! ## Names -/

/-- A name after its mark: at least one character, and then a gap or a mark that may follow a name. -/
def name? (c : Cursor) : Option (String × Cursor) :=
  let (word, d) := c.span isWord
  let mayFollow (e : Char) : Bool :=
    ['?', ':', ',', ']', '\x7d', '%', '@', '\x60'].contains e
  if word.isEmpty ∨ !(atGap d.rest || d.rest.head?.any mayFollow) then none
  else some (String.ofList word, d)

/-! ## Tags -/

/-- The value of a hexadecimal digit. -/
def hexDigit? (c : Char) : Option Nat :=
  if c.isDigit then some (c.toNat - 48)
  else if 'a' ≤ c ∧ c ≤ 'f' then some (c.toNat - 87)
  else if 'A' ≤ c ∧ c ≤ 'F' then some (c.toNat - 55)
  else none

/-- The value of hexadecimal digits. -/
def hexValue? (digits : List Char) : Option Nat :=
  digits.foldlM (fun n c => (hexDigit? c).map (16 * n + ·)) 0

/-- A byte written as a percent sign and two digits. -/
def escapedByte? : List Char → Option (UInt8 × List Char)
  | '%' :: a :: b :: rest => (hexValue? [a, b]).map fun n => (UInt8.ofNat n, rest)
  | _ => none

/-- How many bytes follow the first one of a character. -/
def tailLength? (byte : UInt8) : Option Nat :=
  if byte < 0x80 then some 0
  else if byte < 0xC0 then none
  else if byte < 0xE0 then some 1
  else if byte < 0xF0 then some 2
  else if byte < 0xF8 then some 3
  else none

/-- So many bytes that continue a character. -/
def escapedTail? : Nat → List Char → Option (Tag × List Char)
  | 0, cs => some ([], cs)
  | count + 1, cs => do
      let (byte, rest) ← escapedByte? cs
      if byte / 64 = 2 then
        let (tail, rest) ← escapedTail? count rest
        return (byte :: tail, rest)
      else none

/-- The bytes of a character, each escaped.  Only their shape counts, so they may be more bytes than the
character has, or those of none. -/
def escapedChar? (cs : List Char) : Option (Tag × List Char) := do
  let (byte, rest) ← escapedByte? cs
  let (tail, rest) ← escapedTail? (← tailLength? byte) rest
  return (byte :: tail, rest)

/-- The characters of a tag; a comma and brackets only where the tag is written in full. -/
def isTagChar (full : Bool) (c : Char) : Bool :=
  isWord c || [';', '/', '?', ':', '@', '&', '=', '+', '$', '.', '%', '!', '~', '*', '\x27', '(',
    ')'].contains c || (full && [',', '[', ']'].contains c)

/-- The bytes that tag characters stand for after those in `acc`, which has its last one first. -/
def tagText? (full : Bool) : Nat → Cursor → Tag → Option (Tag × Cursor)
  | 0, c, acc => some (acc.reverse, c)
  | fuel + 1, c, acc =>
      match c.rest with
      | '%' :: _ => do
          let (bytes, rest) ← escapedChar? c.rest
          tagText? full fuel (c.advance (c.rest.length - rest.length)) (bytes.reverse ++ acc)
      | d :: _ =>
          if isTagChar full d then tagText? full fuel (c.advance 1) (UInt8.ofNat d.toNat :: acc)
          else some (acc.reverse, c)
      | [] => some (acc.reverse, c)

/-- Bytes up to the first zero, which ends a tag. -/
def untilZero (bytes : Tag) : Tag := bytes.takeWhile (· ≠ 0)

/-- Tag characters, at least one. -/
def tagPart? (full : Bool) (c : Cursor) : Option (Tag × Cursor) := do
  let (text, d) ← tagText? full c.rest.length c []
  if text.isEmpty then none else return (untilZero text, d)

/-- The characters of a handle, from its first mark on, and whether a second mark ends it. -/
def handleText (c : Cursor) : List Char × Bool × Cursor :=
  let (word, d) := (c.advance 1).span isWord
  if d.startsWith '!' then ('!' :: (word ++ ['!']), true, d.advance 1) else ('!' :: word, false, d)

/-- A tag from its first mark on, and then a gap, or a comma inside brackets. -/
def tag? (flow : Bool) (c : Cursor) : Option (Token × Cursor) := do
  let (token, d) ←
    if c.rest.take 2 = ['!', '<'] then do
      let (suffix, d) ← tagPart? true (c.advance 2)
      if d.startsWith '>' then some (Token.tag "" suffix, d.advance 1) else none
    else
      let (handle, closed, d) := handleText c
      if closed then do
        let (suffix, d) ← tagPart? false d
        pure (Token.tag (String.ofList handle) suffix, d)
      else do
        let (text, d) ← tagText? false d.rest.length d []
        let suffix := untilZero (Tag.ofAscii (String.ofList (handle.drop 1)) ++ text)
        pure (if suffix.isEmpty then Token.tag "" (.ofAscii "!") else Token.tag "!" suffix, d)
  if atGap d.rest || (flow && d.startsWith ',') then return (token, d) else none

/-! ## Directives -/

/-- A number of at most nine digits. -/
def versionNumber? (c : Cursor) : Option (Nat × Cursor) :=
  let (digits, d) := c.span Char.isDigit
  if digits.isEmpty ∨ 9 < digits.length then none
  else some (digits.foldl (fun n c => 10 * n + (c.toNat - 48)) 0, d)

/-- The version after its word. -/
def version? (c : Cursor) : Option (Token × Cursor) := do
  let (major, c) ← versionNumber? (c.skipWhile isBlank)
  if c.startsWith '.' then
    let (minor, c) ← versionNumber? (c.advance 1)
    return (.version major minor, c)
  else none

/-- A handle and what it stands for, after their word. -/
def handle? (c : Cursor) : Option (Token × Cursor) := do
  let c := c.skipWhile isBlank
  if !c.startsWith '!' then none
  let (handle, closed, d) := handleText c
  if (!closed ∧ handle.length ≠ 1) ∨ !(d.rest.head?.any isBlank) then none
  let (stem, e) ← tagPart? true (d.skipWhile isBlank)
  if atGap e.rest then return (.handle (String.ofList handle) stem, e) else none

/-- A directive from its mark on, to the end of its line. -/
def directive? (c : Cursor) : Option (Token × Cursor) := do
  let (word, d) := (c.advance 1).span isWord
  if !atGap d.rest then none
  let (token, e) ←
    if word = "YAML".toList then version? d
    else if word = "TAG".toList then handle? d
    else none
  let e ← e.endLine?
  return (token, e)

end MixRounds.Yaml
