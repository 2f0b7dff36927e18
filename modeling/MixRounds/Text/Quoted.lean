import MixRounds.Text.Hex
import MixRounds.Text.Visible

/-!
# Text quoted inside a message

A message that repeats a text it was given — an unknown region tag — puts it between double quotes
and makes every character of it visible: the quote and the backslash take a backslash, four controls
have letters of their own, and any other character that does not show is written `\u` with its
number in braces.
-/

namespace MixRounds.Text

/-- One character inside double quotes. -/
def quotedChar (c : Char) : List Char :=
  if c = '"' then ['\\', '"']
  else if c = '\\' then ['\\', '\\']
  else if c = '\n' then ['\\', 'n']
  else if c = '\r' then ['\\', 'r']
  else if c = '\t' then ['\\', 't']
  else if c.toNat = 0 then ['\\', '0']
  else if isVisible c then [c]
  else ['\\', 'u', '\x7b'] ++ Hex.natDigits c.toNat ++ ['\x7d']

/-- The text between double quotes, every character of it visible. -/
def quoted (s : String) : String :=
  String.ofList ('"' :: s.toList.flatMap quotedChar ++ ['"'])

end MixRounds.Text
