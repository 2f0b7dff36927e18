import MixRounds.Command.Pattern
import MixRounds.Decimal.Scan
import MixRounds.Text.Alphanumeric
import MixRounds.Text.Blank

/-!
# Log filters

A log level is given as a list of directives between commas.  A directive names a level, or a target
with or without a span in brackets and a level after an equals sign; a span may ask for the value of a
field, as a truth value, a number or a pattern.  The program logs nothing of its own accord, so a filter
is only checked: which lists are directives is what this module says.

The marks of a directive are looked for without the blanks around it, and their places, in bytes, are
then used in the text with its blanks.  So a blank before a directive moves every part that ends at a
mark towards the front of the text, and if a part then begins or ends inside a character, nothing can be
read at all.
-/

namespace MixRounds.Command.LogFilter

/-- Why a filter cannot be used. -/
inductive Flaw where
  /-- A directive is none. -/
  | malformed
  /-- A part of a directive begins or ends inside a character. -/
  | misaligned
  deriving DecidableEq, Repr

/-! ## Parts of a text -/

/-- The text from its byte `n` on, unless that is inside a character. -/
def dropBytes? : List Char → Nat → Option (List Char)
  | cs, 0 => some cs
  | [], _ + 1 => none
  | c :: cs, n + 1 => if c.utf8Size ≤ n + 1 then dropBytes? cs (n + 1 - c.utf8Size) else none

/-- The text up to its byte `n`, unless that is inside a character. -/
def takeBytes? : List Char → Nat → Option (List Char)
  | _, 0 => some []
  | [], _ + 1 => none
  | c :: cs, n + 1 =>
      if c.utf8Size ≤ n + 1 then (takeBytes? cs (n + 1 - c.utf8Size)).map (c :: ·) else none

/-- The part of a text from one byte to another, or to its end. -/
def part (cs : List Char) (start : Nat) (stop : Option Nat) : Except Flaw (List Char) :=
  let tail := dropBytes? cs start
  let part := match stop with
    | some stop => tail.bind fun rest => takeBytes? rest (stop - start)
    | none => tail
  match part with
  | some cs => .ok cs
  | none => .error .misaligned

/-! ## Levels and fields -/

/-- The words for a level. -/
def levelWords : List String := ["", "error", "warn", "info", "debug", "trace", "off"]

/-- Whether a text names a level: a word, in either case, or a number up to five. -/
def isLevel (word : List Char) : Bool :=
  let digits := match word with
    | '+' :: rest => rest
    | _ => word
  levelWords.contains (String.ofList (word.map Char.toLower)) ||
    (!digits.isEmpty && digits.all Char.isDigit &&
      digits.foldl (fun n c => 10 * n + (c.toNat - 48)) 0 ≤ 5)

/-- Whether a text asks for a field: a name, and what stands between the first two equals signs is a
number or a pattern. -/
def isField (cs : List Char) : Bool :=
  match cs.dropWhile (· ≠ '=') with
  | [] => !cs.isEmpty
  | _ :: rest =>
      let value := rest.takeWhile (· ≠ '=')
      (Decimal.real? value).isSome || Pattern.isPattern value

/-! ## Directives -/

/-- Where the reading of a directive stands; a part that has begun is given by the byte it begins at. -/
inductive State where
  | start
  | levelOrTarget (first : Nat)
  | span (first : Nat)
  | field (first : Nat)
  /-- After the fields of a span. -/
  | fields
  /-- After a span. -/
  | target
  | level (first : Nat)
  deriving DecidableEq, Repr

/-- Whether a character may begin a target. -/
def beginsTarget (c : Char) : Bool :=
  c == '-' || c == ':' || c == '_' || Text.isAlphanumeric c

/-- Read the character at byte `i` of a directive that stands in `text`. -/
def step (text : List Char) (i : Nat) : State → Char → Except Flaw State
  | .start, '[' => .ok (.span (i + 1))
  | .start, c => if beginsTarget c then .ok (.levelOrTarget i) else .error .malformed
  | .levelOrTarget first, '=' => (part text first (some i)).map fun _ => .level (i + 1)
  | .levelOrTarget first, '[' => (part text first (some i)).map fun _ => .span (i + 1)
  | .levelOrTarget first, _ => .ok (.levelOrTarget first)
  | .span first, ']' => (part text first (some i)).map fun _ => .target
  | .span first, '\x7b' => (part text first (some i)).map fun _ => .field (i + 1)
  | .span first, _ => .ok (.span first)
  | .field first, '\x7d' => do
      let field ← part text first (some i)
      if isField field then .ok .fields else .error .malformed
  | .field first, _ => .ok (.field first)
  | .fields, ']' => .ok .target
  | .fields, _ => .error .malformed
  | .target, '=' => .ok (.level (i + 1))
  | .target, _ => .error .malformed
  | .level first, _ => .ok (.level first)

/-- Read characters from byte `i` on. -/
def steps (text : List Char) : Nat → State → List Char → Except Flaw State
  | _, state, [] => .ok state
  | i, state, c :: rest => do
      let next ← step text i state c
      steps text (i + c.utf8Size) next rest

/-- Whether a directive may end here. -/
def finish (text : List Char) : State → Except Flaw Unit
  | .levelOrTarget first => (part text first none).map fun _ => ()
  | .target => .ok ()
  | .level first => do
      let word ← part text first none
      if isLevel word then .ok () else .error .malformed
  | _ => .error .malformed

/-- The text without the blanks around it. -/
def trim (cs : List Char) : List Char := (Text.trimLeft (Text.trimLeft cs).reverse).reverse

/-- Check that the text is a directive. -/
def checkDirective (text : List Char) : Except Flaw Unit := do
  let state ← steps text 0 .start (trim text)
  finish text state

/-- Check that the text is a list of directives; empty ones between commas are passed over, and the first
one with a flaw decides. -/
def check (text : String) : Except Flaw Unit :=
  (text.splitOn ",").forM fun part =>
    if part.isEmpty then .ok () else checkDirective part.toList

end MixRounds.Command.LogFilter
