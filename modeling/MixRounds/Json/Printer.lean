import MixRounds.Decimal.Layout
import MixRounds.Json.Value
import MixRounds.Text.Hex

/-!
# Compact JSON text

The text that is signed and sent: no blanks, members in their order, a string between double quotes
with `"`, `\` and the controls escaped and everything else as it stands.
-/

namespace MixRounds.Json

/-- One character of a JSON string. -/
def escapedChar (c : Char) : List Char :=
  if c = '"' then ['\\', '"']
  else if c = '\\' then ['\\', '\\']
  else if c.toNat < 32 then
    if c.toNat = 8 then ['\\', 'b']
    else if c.toNat = 9 then ['\\', 't']
    else if c.toNat = 10 then ['\\', 'n']
    else if c.toNat = 12 then ['\\', 'f']
    else if c.toNat = 13 then ['\\', 'r']
    else ['\\', 'u', '0', '0', Hex.digit (c.toNat / 16), Hex.digit (c.toNat % 16)]
  else [c]

/-- A JSON string with its quotes. -/
def stringChars (s : String) : List Char := '"' :: (s.toList.flatMap escapedChar ++ ['"'])

/-- Join pieces with commas. -/
def commaJoin : List (List Char) → List Char
  | [] => []
  | [piece] => piece
  | piece :: rest => piece ++ ',' :: commaJoin rest

/-- The decimal digits of a whole number. -/
def intChars : Int → List Char
  | .ofNat n => Nat.toDigits 10 n
  | .negSucc n => '-' :: Nat.toDigits 10 (n + 1)

mutual

/-- The compact text of a value. -/
def chars : Json → List Char
  | .null => ['n', 'u', 'l', 'l']
  | .bool true => ['t', 'r', 'u', 'e']
  | .bool false => ['f', 'a', 'l', 's', 'e']
  | .int i => intChars i
  | .float x => (FloatLayout.json.text x).toList
  | .str s => stringChars s
  | .arr items => '[' :: (commaJoin (itemChars items) ++ [']'])
  | .obj members => '\x7b' :: (commaJoin (membersChars members) ++ ['\x7d'])

/-- The texts of the items. -/
def itemChars : List Json → List (List Char)
  | [] => []
  | item :: rest => chars item :: itemChars rest

/-- The texts of the members. -/
def membersChars : List (String × Json) → List (List Char)
  | [] => []
  | member :: rest => memberChars member :: membersChars rest

/-- A name, a colon and a value. -/
def memberChars : String × Json → List Char
  | (name, value) => stringChars name ++ ':' :: chars value
end

/-- The compact text of a value as a string. -/
def compact (j : Json) : String := String.ofList j.chars

end MixRounds.Json
