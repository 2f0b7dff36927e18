import MixRounds.Decimal.Scan
import MixRounds.Settings.Basic
import MixRounds.Yaml.Document

/-!
# Settings files

A settings file has one entry, `scheduler`, and under it the fields by name.  What is left out has its
built-in value, names that mean nothing are passed over, and a name given twice is an error, as is a
value that is no number of the right kind.  Numbers are plain scalars, or blocks that are tagged as
numbers: whole ones decimal, hexadecimal, octal or binary, real ones decimal or one of the words for
infinity and not-a-number.
-/

namespace MixRounds.Settings

/-! ## Numbers -/

/-- The tag of whole numbers. -/
def wholeTag : Yaml.Tag := .ofAscii "tag:yaml.org,2002:int"

/-- The tag of real numbers. -/
def realTag : Yaml.Tag := .ofAscii "tag:yaml.org,2002:float"

/-- The text of a scalar that can be a number: a plain one, whatever its tag, or a block with the tag of
the number. -/
def numberText? (tag : Yaml.Tag) : Yaml → Option (List Char)
  | .scalar .plain text => some text.toList
  | .tagged _ (.scalar .plain text) => some text.toList
  | .tagged t (.scalar .literal text) => if t = tag then some text.toList else none
  | _ => none

/-- Whether a zero stands before other digits. -/
def hasLeadingZero : List Char → Bool
  | '0' :: rest => !rest.isEmpty && rest.all Char.isDigit
  | _ => false

/-- A whole number below `bound`. -/
def wholeNumber? (bound : Nat) (cs : List Char) : Option Nat :=
  let body := match cs with
    | '+' :: rest => rest
    | _ => cs
  let limited (base : Nat) (digits : List Char) : Option Nat :=
    (Decimal.digits? base digits).bind fun n => if n < bound then some n else none
  let prefixed := match body with
    | '0' :: 'x' :: rest => limited 16 rest
    | '0' :: 'o' :: rest => limited 8 rest
    | '0' :: 'b' :: rest => limited 2 rest
    | _ => none
  match prefixed with
  | some n => some n
  | none => if hasLeadingZero body then none else limited 10 body

/-- A real number; beyond the greatest finite one only the word for infinity reaches. -/
def realNumber? (cs : List Char) : Option Float :=
  let (body, signed) := match cs with
    | '+' :: rest => (rest, true)
    | _ => (cs, false)
  if signed ∧ (body.head?.any fun c => c == '+' || c == '-') then none
  else if [".inf", ".Inf", ".INF"].contains (String.ofList body) then some (1.0 / 0.0)
  else if ["-.inf", "-.Inf", "-.INF"].contains (String.ofList cs) then some (-1.0 / 0.0)
  else if [".nan", ".NaN", ".NAN"].contains (String.ofList cs) then some (0.0 / 0.0)
  else (Decimal.real? body).bind fun x => if x.isFinite then some x else none

/-- A value of the kind. -/
def Kind.ofYaml? (k : Kind) (v : Yaml) : Option Value :=
  let whole? (bound : Nat) : Option Nat := do
    let n ← wholeNumber? UInt64.size (← numberText? wholeTag v)
    if n < bound then return n else none
  match k with
  | .word64 => (whole? UInt64.size).map fun n => .word64 (UInt64.ofNat n)
  | .word32 => (whole? UInt32.size).map fun n => .word32 (UInt32.ofNat n)
  | .fraction => ((numberText? realTag v).bind realNumber?).map .fraction

/-! ## Records -/

/-- The entries of a record with the text of their names; a value left out is a record without
entries. -/
def entriesOf? (d : Yaml.Document) : Yaml → Option (List (String × Yaml))
  | .mapping entries => entries.mapM fun (key, value) =>
      (d.follow key).text?.map fun name => (name, d.follow value)
  | .scalar .plain text => if text.isEmpty then some [] else none
  | .tagged _ value => entriesOf? d value
  | _ => none

/-- The fields of the record, each at most once. -/
def readFields? : List (String × Yaml) → List String → Settings → Option Settings
  | [], _, s => some s
  | (name, value) :: rest, seen, s =>
      match fields.lookup name with
      | none => readFields? rest seen s
      | some kind =>
          if name ∈ seen then none
          else
            match kind.ofYaml? value with
            | none => none
            | some v => readFields? rest (name :: seen) (s.set name v)

/-- Settings from the value of the entry `scheduler`. -/
def ofYaml? (d : Yaml.Document) (v : Yaml) : Option Settings := do
  readFields? (← entriesOf? d v) [] builtIn

/-- Settings from a whole file. -/
def ofDocument? : Option Yaml.Document → Option Settings
  | none => some builtIn
  | some d => do
      let entries ← entriesOf? d d.root
      match entries.filter fun e => e.1 = "scheduler" with
      | [] => some builtIn
      | [(_, value)] => ofYaml? d value
      | _ => none

/-- Settings from the text of a file. -/
def ofFile? (text : String) : Option Settings := do
  ofDocument? (← Yaml.Document.ofText? text)

/-! ## Writing -/

def Value.text : Value → String
  | .word64 n => toString n.toNat
  | .word32 n => toString n.toNat
  | .fraction x => FloatLayout.settings.text x

/-- The text of a settings file with every field. -/
def toFile (s : Settings) : String :=
  "scheduler:\n" ++ String.join (s.entries.map fun e => "  " ++ e.1 ++ ": " ++ e.2.text ++ "\n")

end MixRounds.Settings
