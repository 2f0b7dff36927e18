/-!
# Values of a settings file

A settings file is block-structured text: mappings, sequences and scalars.  How a scalar was written is
kept, because not every spelling can be a number, and a tag that stood before a value is kept with it.
Tags are compared byte by byte: the escapes in them can spell bytes that are not those of any character.

A value can be given a name and be referred to later, even from inside itself, so a reference stays a
reference in the value, and the named values stand beside it in the document.
-/

namespace MixRounds

namespace Yaml

/-- How a scalar is written. -/
inductive Style where
  /-- Without quotes. -/
  | plain
  /-- Between quotes of either kind. -/
  | quoted
  /-- As a block whose lines are kept. -/
  | literal
  /-- As a block whose lines are joined. -/
  | folded
  deriving DecidableEq, Repr

/-- The bytes of a tag. -/
abbrev Tag := List UInt8

/-- The tag whose bytes are ASCII characters. -/
def Tag.ofAscii (s : String) : Tag := s.toList.map fun c => UInt8.ofNat c.toNat

end Yaml

/-- A value of a settings file. -/
inductive Yaml where
  | scalar (style : Yaml.Style) (text : String)
  | sequence (items : List Yaml)
  | mapping (entries : List (Yaml × Yaml))
  | tagged (tag : Yaml.Tag) (value : Yaml)
  /-- The value that was given this number. -/
  | reference (number : Nat)

namespace Yaml

/-- The value left out. -/
def absent : Yaml := .scalar .plain ""

instance : Inhabited Yaml := ⟨absent⟩

/-- The text of a scalar, whatever its tag. -/
def text? : Yaml → Option String
  | scalar _ text => some text
  | tagged _ value => text? value
  | _ => none

/-- A document: its value, and the named values under their numbers in the order in which they begin. -/
structure Document where
  root : Yaml
  named : Array (Nat × Yaml)

/-- The value itself, or what it refers to: of several values under one number, the last. -/
def Document.follow (d : Document) : Yaml → Yaml
  | .reference number => ((d.named.toList.reverse.find? fun e => e.1 = number).map Prod.snd).getD absent
  | v => v

end Yaml

end MixRounds
