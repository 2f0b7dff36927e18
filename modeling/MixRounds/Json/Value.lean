/-!
# JSON values

What an answer is made of and what a request is read into.  Whole numbers are kept apart from
floating-point ones because the difference is visible: a field that counts something refuses `1.0`.
An object keeps its members in the order in which they were written.
-/

namespace MixRounds

/-- A JSON value. -/
inductive Json where
  | null
  | bool (b : Bool)
  | int (i : Int)
  | float (x : Float)
  | str (s : String)
  | arr (items : List Json)
  | obj (members : List (String × Json))

namespace Json

instance : Inhabited Json := ⟨.null⟩

/-- A count as a JSON number. -/
def nat (n : Nat) : Json := .int n

/-- A list of texts. -/
def strings (xs : List String) : Json := .arr (xs.map .str)

/-- The value or null. -/
def ofOption {α : Type} (f : α → Json) : Option α → Json
  | none => .null
  | some a => f a

/-- The last member of that name: a later member replaces an earlier one. -/
def memberOf (name : String) : List (String × Json) → Option Json
  | [] => none
  | (key, value) :: rest =>
      match memberOf name rest with
      | some later => some later
      | none => if key = name then some value else none

/-- The member `name` of an object. -/
def field? (name : String) : Json → Option Json
  | .obj members => memberOf name members
  | _ => none

/-- The member `name`, where a missing one reads as null. -/
def field (name : String) (j : Json) : Json := (j.field? name).getD .null

/-! ## Reading a plain value -/

def asString? : Json → Option String
  | .str s => some s
  | _ => none

def asList? : Json → Option (List Json)
  | .arr items => some items
  | _ => none

/-- A whole number from zero up to, but not including, `bound`. -/
def asBelow? (bound : Nat) : Json → Option Nat
  | .int (.ofNat n) => if n < bound then some n else none
  | _ => none

/-- A whole number that fits 64 bits without a sign. -/
def asUInt64? (j : Json) : Option UInt64 := (j.asBelow? UInt64.size).map UInt64.ofNat

/-- A whole number that fits 64 bits with a sign. -/
def asInt64? : Json → Option Int
  | .int i => if -0x8000000000000000 ≤ i ∧ i < 0x8000000000000000 then some i else none
  | _ => none

/-- A floating-point number, or a whole number taken as one. -/
def asFloat? : Json → Option Float
  | .float x => some x
  | .int (.ofNat n) => some n.toUInt64.toFloat
  | .int (.negSucc n) => some (-(n + 1).toUInt64.toFloat)
  | _ => none

/-- Every item read by `f`; one refusal refuses the list. -/
def listOf? {α : Type} (f : Json → Option α) (j : Json) : Option (List α) :=
  j.asList?.bind fun items => items.mapM f

/-- Null or a value read by `f`. -/
def optional? {α : Type} (f : Json → Option α) : Json → Option (Option α)
  | .null => some none
  | j => (f j).map some

/-! ## Records and words -/

/-- The fields of a record: an object gives them by name, ignoring names that are not asked for, and a
list gives them by position, in the order of `names` and with none left over. -/
def asRecord? (names : List String) : Json → Option (String → Option Json)
  | .obj members => some fun name => memberOf name members
  | .arr items =>
      if names.length < items.length then none
      else some fun name => (names.zip items).lookup name
  | _ => none

/-- A word alone, or a word with one value: `"word"` or an object of a single member. -/
def asTagged? : Json → Option (String × Option Json)
  | .str s => some (s, none)
  | .obj members =>
      match members with
      | [] => none
      | (name, _) :: _ =>
          if members.all fun m => m.1 = name then
            (memberOf name members).map fun value => (name, some value)
          else none
  | _ => none

/-- A word with nothing to it. -/
def asWord? (j : Json) : Option String :=
  match j.asTagged? with
  | some (word, none) => some word
  | some (word, some .null) => some word
  | _ => none

end Json

end MixRounds
