import MixRounds.Yaml.Value

/-!
# Tokens

A text is cut into tokens: the marks of its layout, the properties and scalars between them, and the
beginnings and ends of blocks, which no character of their own marks.
-/

namespace MixRounds.Yaml

/-- A piece of a text. -/
inductive Token where
  /-- The version that the text is written in. -/
  | version (major minor : Nat)
  /-- The beginning that tags with a handle stand for. -/
  | handle (name : String) (stem : Tag)
  | documentStart
  | documentEnd
  | blockSequence
  | blockMapping
  | blockEnd
  | openBracket
  | closeBracket
  | openBrace
  | closeBrace
  | comma
  | dash
  /-- What follows is a key. -/
  | key
  /-- What follows is the value of a key. -/
  | value
  | anchor (name : String)
  | reference (name : String)
  | tag (handle : String) (suffix : Tag)
  | scalar (style : Style) (text : String)
  deriving DecidableEq, Repr

end MixRounds.Yaml
