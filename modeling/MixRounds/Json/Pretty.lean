import MixRounds.Json.Printer

/-!
# Indented JSON text

The same value over several lines: each item and each member on a line of its own, two blanks further
in than what holds it.
-/

namespace MixRounds.Json

/-- A new line at a depth. -/
def newLine (depth : Nat) : String := "\n" ++ "".pushn ' ' (2 * depth)

/-- Pieces on lines of their own between brackets. -/
def bracketed (left right : String) (depth : Nat) (pieces : List String) : String :=
  match pieces with
  | [] => left ++ right
  | pieces =>
      left ++ newLine (depth + 1) ++ String.intercalate ("," ++ newLine (depth + 1)) pieces ++
        newLine depth ++ right

mutual

/-- The indented text of a value. -/
def indented (depth : Nat) : Json → String
  | .arr items => bracketed "[" "]" depth (indentedItems (depth + 1) items)
  | .obj members => bracketed "\x7b" "\x7d" depth (indentedMembers (depth + 1) members)
  | .null => "null"
  | .bool b => if b then "true" else "false"
  | .int i => String.ofList (intChars i)
  | .float x => FloatLayout.json.text x
  | .str s => String.ofList (stringChars s)

/-- The texts of the items. -/
def indentedItems (depth : Nat) : List Json → List String
  | [] => []
  | item :: rest => indented depth item :: indentedItems depth rest

/-- The texts of the members. -/
def indentedMembers (depth : Nat) : List (String × Json) → List String
  | [] => []
  | member :: rest => indentedMember depth member :: indentedMembers depth rest

/-- A name, a colon, a blank and a value. -/
def indentedMember (depth : Nat) : String × Json → String
  | (name, value) => String.ofList (stringChars name) ++ ": " ++ indented depth value
end

/-- The indented text of a value. -/
def pretty (j : Json) : String := indented 0 j

end MixRounds.Json
