import MixRounds.Yaml.Scalar

/-!
# The layout of a text

A block begins where its first entry stands further to the right than the blocks around it, and it ends
where a line stands further to the left.  Between brackets indentation does not matter.

That something was a key is known only when the colon after it is met.  So the place of a token that may
begin a key is remembered, one for each pair of open brackets, and the colon puts the mark of a key there
afterwards.  Such a key stands on one line and is at most 1024 bytes away from its colon; where a
block leaves nothing else to stand than a key, a token without a colon makes the text unreadable.  A key
that is marked itself has no such limits.
-/

namespace MixRounds.Yaml

/-- A token that may turn out to begin a key: how many tokens stand before it, where it begins, and
whether nothing but a key can stand there. -/
structure Candidate where
  count : Nat
  place : Cursor
  required : Bool

/-- How far a text has been cut into tokens. -/
structure Layout where
  cursor : Cursor
  /-- The tokens so far, last one first. -/
  tokens : List Token
  /-- How many they are. -/
  count : Nat
  /-- The least column of what belongs to the innermost block, one more than that of the block. -/
  floor : Nat
  /-- The same for the blocks around it. -/
  floors : List Nat
  /-- A key that may have begun at the innermost level. -/
  candidate : Option Candidate
  /-- The same for the levels around it, one for each open bracket. -/
  candidates : List (Option Candidate)
  /-- A key may begin here without a mark. -/
  keyAllowed : Bool

namespace Layout

/-- The head of a text. -/
def ofText (cs : List Char) : Layout := ⟨.ofText cs, [], 0, 0, [], none, [], true⟩

/-- Whether a bracket is open. -/
def inFlow (l : Layout) : Bool := !l.candidates.isEmpty

/-- Add a token. -/
def push (l : Layout) (t : Token) : Layout := { l with tokens := t :: l.tokens, count := l.count + 1 }

/-- Add a token of `n` characters. -/
def mark (l : Layout) (t : Token) (n : Nat) : Layout :=
  { l.push t with cursor := l.cursor.advance n }

/-- Add a token that ends at `c`. -/
def read (l : Layout) (t : Token) (c : Cursor) : Layout := { l.push t with cursor := c }

/-! ## Blocks -/

/-- End the blocks whose content is further to the right than `limit`. -/
def closeBlocks (limit : Nat) : List Nat → Layout → Layout
  | [], l => l
  | outer :: more, l =>
      if limit < l.floor then closeBlocks limit more { l.push .blockEnd with floor := outer, floors := more }
      else l

/-- End the blocks that nothing at `column` belongs to, or all of them. -/
def unwind (l : Layout) (column : Option Nat) : Layout :=
  if l.inFlow then l
  else
    closeBlocks (match column with
      | some n => n + 1
      | none => 0) l.floors l

/-- Whether a block has to begin for an entry at this column. -/
def needsBlock (l : Layout) (column : Nat) : Bool := !l.inFlow && l.floor ≤ column

/-- Begin a block at this column. -/
def indent (l : Layout) (column : Nat) : Layout :=
  { l with floor := column + 1, floors := l.floor :: l.floors }

/-- Begin a block for an entry here if there is none. -/
def enterBlock (l : Layout) (t : Token) : Layout :=
  if l.needsBlock l.cursor.column then (l.push t).indent l.cursor.column else l

/-! ## Keys -/

/-- Nothing before this place is a key any more; fails if it had to be one. -/
def dropCandidate? (l : Layout) : Option Layout :=
  if l.candidate.any Candidate.required then none else some { l with candidate := none }

/-- Whether a key may still have begun at the candidate: on this line, and not too far away. -/
def isCurrent (l : Layout) (k : Candidate) : Bool :=
  k.place.line == l.cursor.line && l.cursor.index ≤ k.place.index + 1024

/-- Drop a candidate that is no key any more. -/
def refresh? (l : Layout) : Option Layout :=
  if l.candidate.any fun k => !l.isCurrent k then l.dropCandidate? else some l

/-- The next token may begin a key. -/
def mayBeKey? (l : Layout) : Option Layout :=
  if !l.keyAllowed then some l
  else do
    let required := !l.inFlow && l.floor == l.cursor.column + 1
    let l ← l.dropCandidate?
    return { l with candidate := some ⟨l.count, l.cursor, required⟩ }

/-- Put the mark of a key, and of a block if one begins with it, before the candidate. -/
def insertKey (l : Layout) (k : Candidate) : Layout :=
  let after := l.count - k.count
  let column := k.place.column
  let begins := l.needsBlock column
  let marks := if begins then [Token.key, .blockMapping] else [Token.key]
  let l := { l with
    tokens := l.tokens.take after ++ (marks ++ l.tokens.drop after)
    count := l.count + marks.length
    candidate := none }
  if begins then l.indent column else l

/-! ## Tokens -/

/-- Go over blanks, comments and breaks to the next token.  A tab may stand where no key can begin. -/
def skipGap : Nat → Layout → Layout
  | 0, l => l
  | fuel + 1, l =>
      let c := if l.cursor.column = 0 ∧ l.cursor.rest.head?.any isOrderMark then l.cursor.advance 1
        else l.cursor
      let tabs := l.inFlow || !l.keyAllowed
      let c := (c.skipWhile fun d => d == ' ' || (tabs && d == '\t')).skipComment
      if c.rest.head?.any isBreak then
        skipGap fuel { l with cursor := c.next, keyAllowed := l.keyAllowed || !l.inFlow }
      else { l with cursor := c }

/-- What ends all blocks: the end of the text, a directive, or the marker of a document. -/
def topLevel? (l : Layout) : Option Layout := do
  let l ← (l.unwind none).dropCandidate?
  return { l with keyAllowed := false }

/-- A bracket that begins a value. -/
def openFlow? (l : Layout) (t : Token) : Option Layout := do
  let l ← l.mayBeKey?
  return { l.mark t 1 with
    candidate := none, candidates := l.candidate :: l.candidates, keyAllowed := true }

/-- A bracket that ends a value. -/
def closeFlow? (l : Layout) (t : Token) : Option Layout := do
  let l ← l.dropCandidate?
  let l := match l.candidates with
    | outer :: more => { l with candidate := outer, candidates := more }
    | [] => l
  return { l.mark t 1 with keyAllowed := false }

/-- A comma. -/
def comma? (l : Layout) : Option Layout := do
  let l ← l.dropCandidate?
  return { l.mark .comma 1 with keyAllowed := true }

/-- A hyphen before an item. -/
def dash? (l : Layout) : Option Layout := do
  if !l.inFlow && !l.keyAllowed then none
  let l ← (l.enterBlock .blockSequence).dropCandidate?
  return { l.mark .dash 1 with keyAllowed := true }

/-- A question mark before a key. -/
def key? (l : Layout) : Option Layout := do
  if !l.inFlow && !l.keyAllowed then none
  let l ← (l.enterBlock .blockMapping).dropCandidate?
  return { l.mark .key 1 with keyAllowed := !l.inFlow }

/-- A colon before a value. -/
def value? (l : Layout) : Option Layout :=
  match l.candidate with
  | some k => some { (l.insertKey k).mark .value 1 with keyAllowed := false }
  | none =>
      if !l.inFlow && !l.keyAllowed then none
      else
        let l := l.enterBlock .blockMapping
        some { l.mark .value 1 with keyAllowed := !l.inFlow }

/-- A property or a scalar, which may begin a key. -/
def keyed? (l : Layout) (read : Cursor → Option (Token × Cursor)) : Option Layout := do
  let l ← l.mayBeKey?
  let (t, c) ← read l.cursor
  return { l.read t c with keyAllowed := false }

/-- A block of lines. -/
def blockScalar? (l : Layout) (style : Style) : Option Layout := do
  let l ← l.dropCandidate?
  let (text, c) ← Yaml.blockScalar? style l.floor (l.cursor.advance 1)
  return { l.read (.scalar style (String.ofList text)) c with keyAllowed := true }

/-- A plain scalar; if it ends with a line, the next one may begin a key. -/
def plainScalar? (fuel : Nat) (l : Layout) : Option Layout := do
  let l ← l.mayBeKey?
  let (text, broken, c) ← plain? l.inFlow l.floor fuel l.cursor [] [] false
  return { l.read (.scalar .plain (String.ofList text)) c with keyAllowed := broken }

/-- A name after its mark. -/
def named? (token : String → Token) (c : Cursor) : Option (Token × Cursor) :=
  (name? (c.advance 1)).map fun (name, d) => (token name, d)

/-- A scalar after its opening quote. -/
def quoted? (read : Cursor → List Char → Option (List Char × Cursor)) (c : Cursor) :
    Option (Token × Cursor) :=
  (read (c.advance 1) []).map fun (text, d) => (.scalar .quoted (String.ofList text), d)

/-- The token that begins here; the fuel is more than what is left of the text. -/
def token? (fuel : Nat) (l : Layout) : Option Layout :=
  let c := l.cursor
  let flow := l.inFlow
  match c.rest with
  | [] => none
  | d :: rest =>
      if c.column = 0 ∧ d = '%' then do
        let l ← l.topLevel?
        let (t, e) ← directive? c
        return l.read t e
      else if c.atMarker '-' then l.topLevel?.map fun l => l.mark .documentStart 3
      else if c.atMarker '.' then l.topLevel?.map fun l => l.mark .documentEnd 3
      else if d == '[' then l.openFlow? .openBracket
      else if d == '\x7b' then l.openFlow? .openBrace
      else if d == ']' then l.closeFlow? .closeBracket
      else if d == '\x7d' then l.closeFlow? .closeBrace
      else if d == ',' then l.comma?
      else if d == '-' && atGap rest then l.dash?
      else if d == '?' && (flow || atGap rest) then l.key?
      else if d == ':' && (flow || atGap rest) then l.value?
      else if d == '*' then l.keyed? (named? .reference)
      else if d == '&' then l.keyed? (named? .anchor)
      else if d == '!' then l.keyed? (tag? flow)
      else if d == '|' && !flow then l.blockScalar? .literal
      else if d == '>' && !flow then l.blockScalar? .folded
      else if d == '\x27' then l.keyed? (quoted? (singleQuoted? fuel))
      else if d == '"' then l.keyed? (quoted? (doubleQuoted? fuel))
      else if beginsPlain flow c.rest then l.plainScalar? fuel
      else none

/-- Cut the rest of a text; the fuel is more than what is left of it, as every token takes something. -/
def finish? : Nat → Layout → Option Layout
  | 0, _ => none
  | fuel + 1, l => do
      let l ← (l.skipGap (fuel + 1)).refresh?
      let l := l.unwind (some l.cursor.column)
      if l.cursor.rest.isEmpty then l.topLevel?
      else
        let l ← l.token? (fuel + 1)
        finish? fuel l

end Layout

/-- The tokens of a text. -/
def Token.ofText? (text : String) : Option (List Token) := do
  let cs := text.toList
  if !cs.all isAllowed then none
  let cs := normalizeBreaks cs
  let l ← (Layout.ofText cs).finish? (cs.length + 1)
  return l.tokens.reverse

end MixRounds.Yaml
