import MixRounds.Yaml.Layout

/-!
# Events

A document is a list of events: its values in the order in which they begin, with the ends of sequences
and mappings between them.  The events are found from the tokens by goals: on top of the pile of goals
stands what has to come next, and a value that has parts puts the goals for its parts on the pile.
Where a value is left out, the empty scalar stands for it.
-/

namespace MixRounds.Yaml

/-- The name and the tag that a value was given. -/
structure Properties where
  anchor : Option String
  tag : Option Tag
  deriving DecidableEq, Repr

/-- A value, or a part of one. -/
inductive Event where
  | reference (name : String)
  | scalar (p : Properties) (style : Style) (text : String)
  | sequence (p : Properties)
  | mapping (p : Properties)
  /-- The end of a sequence. -/
  | sequenceEnd
  /-- The end of a mapping. -/
  | mappingEnd
  deriving DecidableEq, Repr

namespace Event

/-- The empty scalar. -/
def empty : Event := .scalar ⟨none, none⟩ .plain ""

end Event

/-- What has to come next. -/
inductive Goal where
  /-- A value; whether it may be a block, and whether its items may stand without a block of their
  own. -/
  | node (block loose : Bool)
  /-- The next item of a block, or its end. -/
  | item
  /-- The next item without a block, if there is one. -/
  | looseItem
  /-- The next key of a block, or its end. -/
  | entry
  /-- The value of a key in a block. -/
  | entryValue
  /-- The next item between brackets, or their end. -/
  | flowItem (first : Bool)
  /-- The key of an item that is a single entry. -/
  | pairKey
  | pairValue
  | pairEnd
  /-- The next entry between braces, or their end. -/
  | flowEntry (first : Bool)
  | flowValue
  /-- The missing value of a key between braces. -/
  | missing
  deriving DecidableEq, Repr

/-- The tokens to come, the goals, and the events so far, last one first. -/
structure Grammar where
  tokens : List Token
  goals : List Goal
  events : List Event

namespace Grammar

/-- Whether the next token is one of these. -/
def sees (g : Grammar) (ts : List Token) : Bool := g.tokens.head?.any ts.contains

/-- Add an event. -/
def emit (g : Grammar) (e : Event) : Grammar := { g with events := e :: g.events }

/-- Put a goal on the pile. -/
def want (g : Grammar) (goal : Goal) : Grammar := { g with goals := goal :: g.goals }

/-- Go over a token. -/
def skip (g : Grammar) : Grammar := { g with tokens := g.tokens.drop 1 }

/-- A value, and then another goal, unless one of these tokens says that the value is left out. -/
def nodeUnless (g : Grammar) (ts : List Token) (block loose : Bool) (next : Goal) : Grammar :=
  if g.sees ts then (g.emit .empty).want next else (g.want next).want (.node block loose)

/-! ## Values -/

/-- The tag that a handle and a suffix stand for. -/
def tag? (handles : List (String × Tag)) (handle : String) (suffix : Tag) : Option Tag :=
  if handle = "" then some suffix else (handles.lookup handle).map (· ++ suffix)

/-- Properties in any order, each at most once. -/
def properties? (handles : List (String × Tag)) (g : Grammar) : Option (Properties × Grammar) :=
  match g.tokens with
  | .anchor name :: .tag handle suffix :: _ =>
      (tag? handles handle suffix).map fun t => (⟨some name, some t⟩, g.skip.skip)
  | .tag handle suffix :: .anchor name :: _ =>
      (tag? handles handle suffix).map fun t => (⟨some name, some t⟩, g.skip.skip)
  | .anchor name :: _ => some (⟨some name, none⟩, g.skip)
  | .tag handle suffix :: _ => (tag? handles handle suffix).map fun t => (⟨none, some t⟩, g.skip)
  | _ => some (⟨none, none⟩, g)

/-- A value. -/
def node? (handles : List (String × Tag)) (block loose : Bool) (g : Grammar) : Option Grammar :=
  match g.tokens with
  | .reference name :: _ => some (g.skip.emit (.reference name))
  | _ => do
      let (p, g) ← g.properties? handles
      match g.tokens with
      | .scalar style text :: _ => return g.skip.emit (.scalar p style text)
      | .openBracket :: _ => return (g.skip.emit (.sequence p)).want (.flowItem true)
      | .openBrace :: _ => return (g.skip.emit (.mapping p)).want (.flowEntry true)
      | t :: _ =>
          if t = .dash ∧ loose then return (g.emit (.sequence p)).want .looseItem
          else if t = .blockSequence ∧ block then return (g.skip.emit (.sequence p)).want .item
          else if t = .blockMapping ∧ block then return (g.skip.emit (.mapping p)).want .entry
          else if p = ⟨none, none⟩ then none
          else return g.emit (.scalar p .plain "")
      | [] => if p = ⟨none, none⟩ then none else return g.emit (.scalar p .plain "")

/-! ## Blocks -/

/-- An item of a block. -/
def item? (g : Grammar) : Option Grammar :=
  if g.sees [.dash] then some (g.skip.nodeUnless [.dash, .blockEnd] true false .item)
  else if g.sees [.blockEnd] then some (g.skip.emit .sequenceEnd)
  else none

/-- An item without a block of its own. -/
def looseItem (g : Grammar) : Grammar :=
  if g.sees [.dash] then
    g.skip.nodeUnless [.dash, .key, .value, .blockEnd] true false .looseItem
  else g.emit .sequenceEnd

/-- A key of a block. -/
def entry? (g : Grammar) : Option Grammar :=
  if g.sees [.key] then some (g.skip.nodeUnless [.key, .value, .blockEnd] true true .entryValue)
  else if g.sees [.blockEnd] then some (g.skip.emit .mappingEnd)
  else none

/-- The value of a key in a block. -/
def entryValue (g : Grammar) : Grammar :=
  if g.sees [.value] then g.skip.nodeUnless [.key, .value, .blockEnd] true true .entry
  else (g.emit .empty).want .entry

/-! ## Brackets -/

/-- Go over the comma before an item or entry that is not the first. -/
def separator? (g : Grammar) (first : Bool) : Option Grammar :=
  if first then some g else if g.sees [.comma] then some g.skip else none

/-- An item between brackets; one with the mark of a key is a mapping with a single entry. -/
def flowItem? (g : Grammar) (first : Bool) : Option Grammar :=
  if g.sees [.closeBracket] then some (g.skip.emit .sequenceEnd)
  else do
    let g ← g.separator? first
    if g.sees [.key] then
      return ((g.skip.emit (.mapping ⟨none, none⟩)).want (.flowItem false)).want .pairKey
    else if g.sees [.closeBracket] then return g.skip.emit .sequenceEnd
    else return (g.want (.flowItem false)).want (.node false false)

/-- The key of a single entry; the token before which it is left out goes with it. -/
def pairKey (g : Grammar) : Grammar :=
  if g.sees [.value, .comma, .closeBracket] then (g.skip.emit .empty).want .pairValue
  else (g.want .pairValue).want (.node false false)

/-- The value of a single entry. -/
def pairValue (g : Grammar) : Grammar :=
  if g.sees [.value] then g.skip.nodeUnless [.comma, .closeBracket] false false .pairEnd
  else (g.emit .empty).want .pairEnd

/-- An entry between braces. -/
def flowEntry? (g : Grammar) (first : Bool) : Option Grammar :=
  if g.sees [.closeBrace] then some (g.skip.emit .mappingEnd)
  else do
    let g ← g.separator? first
    if g.sees [.key] then
      return g.skip.nodeUnless [.value, .comma, .closeBrace] false false .flowValue
    else if g.sees [.closeBrace] then return g.skip.emit .mappingEnd
    else return (g.want .missing).want (.node false false)

/-- The value of an entry between braces. -/
def flowValue (g : Grammar) : Grammar :=
  if g.sees [.value] then g.skip.nodeUnless [.comma, .closeBrace] false false (.flowEntry false)
  else (g.emit .empty).want (.flowEntry false)

/-- Meet the goal on top of the pile. -/
def step? (handles : List (String × Tag)) (g : Grammar) : Goal → Option Grammar
  | .node block loose => g.node? handles block loose
  | .item => g.item?
  | .looseItem => some g.looseItem
  | .entry => g.entry?
  | .entryValue => some g.entryValue
  | .flowItem first => g.flowItem? first
  | .pairKey => some g.pairKey
  | .pairValue => some g.pairValue
  | .pairEnd => some (g.emit .mappingEnd)
  | .flowEntry first => g.flowEntry? first
  | .flowValue => some g.flowValue
  | .missing => some ((g.emit .empty).want (.flowEntry false))

/-- Meet all goals. -/
def run? (handles : List (String × Tag)) : Nat → Grammar → Option Grammar
  | 0, _ => none
  | fuel + 1, g =>
      match g.goals with
      | [] => some g
      | goal :: goals => do
          let g ← { g with goals := goals }.step? handles goal
          run? handles fuel g

end Grammar

/-! ## Documents -/

/-- The handles that need no directive. -/
def usualHandles : List (String × Tag) :=
  [("!", .ofAscii "!"), ("!!", .ofAscii "tag:yaml.org,2002:")]

/-- The directives before a document: at most one version, which has to be known, and for each handle at
most one meaning.  Whether there were any, the handles, and the tokens after them. -/
def directives? (versioned : Bool) (handles : List (String × Tag)) :
    List Token → Option (Bool × List (String × Tag) × List Token)
  | .version major minor :: rest =>
      if versioned ∨ major ≠ 1 ∨ (minor ≠ 1 ∧ minor ≠ 2) then none
      else directives? true handles rest
  | .handle name stem :: rest =>
      if (handles.lookup name).isSome then none else directives? versioned ((name, stem) :: handles) rest
  | tokens => some (versioned || !handles.isEmpty, handles, tokens)

/-- Whether a document after its marker is left out. -/
def isBare : List Token → Bool
  | [] => true
  | .documentStart :: _ | .documentEnd :: _ | .version _ _ :: _ | .handle _ _ :: _ => true
  | _ => false

/-- The events of the only document of a text, none for a text without one. -/
def Event.ofTokens? (tokens : List Token) : Option (Option (List Event)) := do
  let (seen, handles, rest) ← directives? false [] tokens
  let value (tokens : List Token) : Option (List Token × List Event) := do
    let g ← Grammar.run? (handles ++ usualHandles) (8 * tokens.length + 8)
      ⟨tokens, [.node true false], []⟩
    return (g.tokens, g.events.reverse)
  let (after, events) ←
    match rest with
    | [] => if seen then none else return none
    | .documentStart :: rest => if isBare rest then some (rest, [Event.empty]) else value rest
    | _ => if seen then none else value rest
  if after.all (· == .documentEnd) then return some events else none

end MixRounds.Yaml
