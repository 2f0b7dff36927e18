import MixRounds.Yaml.Event

/-!
# Documents

A document is built from its events with a pile of the sequences and mappings that have begun and not
ended.  A named value is entered among the named ones when it begins, so that a reference from inside it
finds it.

Names are numbered by how many names are known already, and a name that is used again counts as known.
It then shares its new number with the next new name, and a reference goes to whichever began last.
-/

namespace MixRounds.Yaml

/-- A sequence or mapping that has not ended: its tag, its place among the named values, and its parts so
far, last one first. -/
structure Frame where
  tag : Option Tag
  slot : Option Nat
  parts : List Yaml

/-- A document that is being built. -/
structure Builder where
  frames : List Frame
  names : List (String × Nat)
  named : Array (Nat × Yaml)
  root : Option Yaml

namespace Builder

/-- Enter a name; the place of its value. -/
def enter (b : Builder) : Option String → Option Nat × Builder
  | none => (none, b)
  | some name =>
      let number := b.names.length
      let others := b.names.filter fun e => e.1 ≠ name
      (some b.named.size,
        { b with names := (name, number) :: others, named := b.named.push (number, absent) })

/-- Add a finished value to what it is part of. -/
def add (b : Builder) (tag : Option Tag) (slot : Option Nat) (v : Yaml) : Builder :=
  let v := match tag with
    | some t => .tagged t v
    | none => v
  let named := match slot with
    | some i => b.named.modify i fun e => (e.1, v)
    | none => b.named
  match b.frames with
  | [] => { b with named := named, root := some v }
  | f :: more => { b with named := named, frames := { f with parts := v :: f.parts } :: more }

/-- Begin a sequence or mapping. -/
def openFrame (b : Builder) (p : Properties) : Builder :=
  let (slot, b) := b.enter p.anchor
  { b with frames := ⟨p.tag, slot, []⟩ :: b.frames }

/-- End a sequence or mapping. -/
def closeFrame? (b : Builder) (make : List Yaml → Yaml) : Option Builder :=
  match b.frames with
  | [] => none
  | f :: more => some ({ b with frames := more }.add f.tag f.slot (make f.parts.reverse))

/-- Keys and values in turn. -/
def pairs : List Yaml → List (Yaml × Yaml)
  | key :: value :: rest => (key, value) :: pairs rest
  | _ => []

/-- Take one event. -/
def step? (b : Builder) : Event → Option Builder
  | .reference name => (b.names.lookup name).map fun n => b.add none none (.reference n)
  | .scalar p style text =>
      let (slot, b) := b.enter p.anchor
      some (b.add p.tag slot (.scalar style text))
  | .sequence p => some (b.openFrame p)
  | .mapping p => some (b.openFrame p)
  | .sequenceEnd => b.closeFrame? .sequence
  | .mappingEnd => b.closeFrame? fun parts => .mapping (pairs parts)

end Builder

/-- The document that a list of events describes. -/
def Document.ofEvents? (events : List Event) : Option Document := do
  let b ← events.foldlM Builder.step? ⟨[], [], #[], none⟩
  let root ← b.root
  return ⟨root, b.named⟩

/-- The only document of a text, none for a text without one; or the text cannot be read. -/
def Document.ofText? (text : String) : Option (Option Document) := do
  match ← Event.ofTokens? (← Token.ofText? text) with
  | none => return none
  | some events => return some (← Document.ofEvents? events)

end MixRounds.Yaml
