import PageLint.Yaml.Token.Block
import PageLint.Yaml.Token.Flowing

/-!
# From glyphs to tokens

Tokens are told from what stands in front, from the blocks that are open, and from whether brackets
are. Two things only show later than they begin. A block ends where something stands left of it. And
a key ends with a colon; so the place where one might have begun is remembered, and when the colon
comes, on the same line and not too far away, the mark of the key is put there.

Each step consumes at least one glyph, so there are no more steps than glyphs.

## Main definitions

* `Yaml.Lexer` — the tokens so far, and what decides about the next one
* `Yaml.tokens?` — the tokens of a text
-/

namespace PageLint.Yaml

open Text (Reader)

/-- Where a key might have begun. -/
structure Candidate where
  /-- How many tokens come before it. -/
  index : Nat
  /-- Only a key can stand there. -/
  required : Bool
  place : Place
deriving DecidableEq, Repr

/-- The tokens so far, and what decides about the next one. -/
structure Lexer where
  tokens : Array Token
  /-- The columns of the open blocks, the innermost first. -/
  blocks : List Nat
  /-- Where a key might have begun, between the innermost brackets. -/
  candidate : Option Candidate
  /-- The same outside each pair of open brackets, the innermost first. -/
  outer : List (Option Candidate)
  /-- A key may begin here. -/
  keyAllowed : Bool

namespace Lexer

/-- The state at the beginning of a text. -/
def start : Lexer := ⟨#[], [], none, [], true⟩

/-- Brackets are open. -/
def inFlow (l : Lexer) : Bool := !l.outer.isEmpty

/-- The leftmost column inside the innermost block. -/
def inner (l : Lexer) : Nat :=
  match l.blocks with
  | [] => 0
  | column :: _ => column + 1

/-- Adds a token. -/
def emit (l : Lexer) (t : Token) : Lexer := { l with tokens := l.tokens.push t }

/-- Says whether a key may begin here. -/
def allowKey (l : Lexer) (allowed : Bool) : Lexer := { l with keyAllowed := allowed }

/-! ## Blocks -/

/-- Opens a block at a column, unless the innermost block has that column already. Its mark goes
before all tokens from the given one on. -/
def openBlock (l : Lexer) (column : Nat) (mark : Token) (index : Nat) : Lexer :=
  if !l.inFlow && l.inner ≤ column then
    { l with
      blocks := column :: l.blocks
      tokens := l.tokens.insertIdxIfInBounds index mark }
  else l

/-- Closes blocks until the given ones are left. -/
def closeTo (l : Lexer) (blocks : List Nat) : Lexer :=
  if l.inFlow then l
  else
    let closed := List.replicate (l.blocks.length - blocks.length) Token.blockEnd
    { l with blocks, tokens := l.tokens ++ closed.toArray }

/-- Closes the blocks that something at a column cannot belong to. -/
def closeBeyond (l : Lexer) (column : Nat) : Lexer := l.closeTo (l.blocks.dropWhile (column < ·))

/-! ## Keys -/

/-- A key that might have begun at a candidate can be none any more at a place: it is on another
line, or too far away. -/
def isStale (now : Place) (c : Candidate) : Bool :=
  c.place.line < now.line || c.place.index + 1024 < now.index

/-- A candidate, unless it is stale at a place. A required one may not be. -/
def expireOne (now : Place) : Option Candidate → Option (Option Candidate)
  | none => some none
  | some c => if isStale now c then if c.required then none else some none else some (some c)

/-- Forgets the candidates that are stale at a place. -/
def expire (l : Lexer) (now : Place) : Option Lexer := do
  let candidate ← expireOne now l.candidate
  let outer ← l.outer.mapM (expireOne now)
  return { l with candidate, outer }

/-- Forgets the candidate, which may not be required. -/
def dropCandidate (l : Lexer) : Option Lexer :=
  if l.candidate.any Candidate.required then none else some { l with candidate := none }

/-- Remembers that a key may begin here. In a block, what stands at its column has to be one. -/
def saveCandidate (l : Lexer) (here : Place) : Option Lexer :=
  if l.keyAllowed then do
    let required := !l.inFlow && l.blocks.head? = some here.column
    return { ← l.dropCandidate with candidate := some ⟨l.tokens.size, required, here⟩ }
  else some l

/-- A token that is the beginning of a node. No key may begin after it. -/
def beginNode (l : Lexer) (here : Place) : Option Lexer :=
  return (← l.saveCandidate here).allowKey false

/-! ## Marks of structure -/

/-- A mark that nothing may go on across: all blocks are closed. -/
def boundary (l : Lexer) : Option Lexer := return (← (l.closeTo []).dropCandidate).allowKey false

/-- An opening bracket. -/
def enterFlow (l : Lexer) (here : Place) (t : Token) : Option Lexer := do
  let l ← l.saveCandidate here
  return { l with candidate := none, outer := l.candidate :: l.outer, keyAllowed := true }.emit t

/-- A closing bracket. -/
def leaveFlow (l : Lexer) (t : Token) : Option Lexer := do
  let l ← l.dropCandidate
  let l :=
    match l.outer with
    | [] => l
    | candidate :: outer => { l with candidate, outer }
  return (l.allowKey false).emit t

/-- A comma. -/
def comma (l : Lexer) : Option Lexer := return ((← l.dropCandidate).allowKey true).emit .comma

/-- A mark that opens a block of its kind, where a key may begin. -/
def blockMark (l : Lexer) (here : Place) (block : Token) : Option Lexer :=
  if l.inFlow then some l
  else if l.keyAllowed then some (l.openBlock here.column block l.tokens.size)
  else none

/-- The hyphen before an item. -/
def item (l : Lexer) (here : Place) : Option Lexer := do
  let l ← (← l.blockMark here .blockSequence).dropCandidate
  return (l.allowKey true).emit .item

/-- The question mark before a key. -/
def key (l : Lexer) (here : Place) : Option Lexer := do
  let l ← (← l.blockMark here .blockMapping).dropCandidate
  return (l.allowKey (!l.inFlow)).emit .key

/-- The colon before a value. If a key might have begun on this line, it did. -/
def value (l : Lexer) (here : Place) : Option Lexer :=
  match l.candidate with
  | some c =>
    let l := { l with tokens := l.tokens.insertIdxIfInBounds c.index .key, candidate := none }
    -- The mark of the block comes last and so in front of the mark of its first key.
    some (((l.openBlock c.place.column .blockMapping c.index).allowKey false).emit .value)
  | none => do
    let l ← l.blockMark here .blockMapping
    return (l.allowKey (!l.inFlow)).emit .value

/-! ## Steps -/

/-- Passes over white space, line breaks and comments up to the next token, and says whether a key
may begin there. A tab may not stand where a block could begin. -/
def skip (inFlow : Bool) : (inComment : Bool) → (keyAllowed : Bool) → List Glyph →
    Bool × List Glyph
  | _, keyAllowed, [] => (keyAllowed, [])
  | inComment, keyAllowed, g :: gs =>
    if isBreak g.char then skip inFlow false (keyAllowed || !inFlow) gs
    else if inComment || g.char = '#' then skip inFlow true keyAllowed gs
    else if g.char = ' ' || (g.char = '\t' && (inFlow || !keyAllowed)) then
      skip inFlow false keyAllowed gs
    else (keyAllowed, g :: gs)

/-- A token that a reader takes off the front. -/
def readToken (l : Lexer) (r : Reader Glyph Token) (gs : List Glyph) :
    Option (Lexer × List Glyph) := do
  let (t, rest) ← r gs
  return (l.emit t, rest)

/-- A plain scalar. -/
def plain (l : Lexer) (here : Place) (gs : List Glyph) : Option (Lexer × List Glyph) := do
  let l ← l.beginNode here
  let (p, rest) ← plainRest l.inFlow l.inner (gs.length + 1) [] [] gs
  return ((l.allowKey p.endsLine).emit (.scalar .plain p.text), rest)

/-- A quoted scalar, after its opening quote. -/
def quoted (l : Lexer) (here : Place) (quote : Char) (style : Style) (gs : List Glyph) :
    Option (Lexer × List Glyph) := do
  let l ← l.beginNode here
  let (s, rest) ← quotedRest quote (gs.length + 1) [] gs
  return (l.emit (.scalar style s), rest)

/-- A block scalar, after its indicator. -/
def block (l : Lexer) (style : Style) (gs : List Glyph) : Option (Lexer × List Glyph) := do
  if l.inFlow then none
  let l ← l.dropCandidate
  (l.allowKey true).readToken (.scalar style <$> blockScalar (style == .folded) l.inner) gs

/-- The next token, given the glyph in front and those after it. -/
def token (l : Lexer) (g : Glyph) (gs : List Glyph) : Option (Lexer × List Glyph) := do
  let here := g.place
  -- The place alone can end keys and blocks, whatever stands there.
  let l := (← l.expire here).closeBeyond here.column
  if here.column = 0 && g.char = '%' then
    (← l.boundary).readToken directive gs
  else if atMarker (g :: gs) then
    return ((← l.boundary).emit (if g.char = '-' then .documentStart else .documentEnd), gs.drop 2)
  else
    match g.char with
    | '[' => return (← l.enterFlow here .flowSequence, gs)
    | '\x7b' => return (← l.enterFlow here .flowMapping, gs)
    | ']' => return (← l.leaveFlow .flowSequenceEnd, gs)
    | '\x7d' => return (← l.leaveFlow .flowMappingEnd, gs)
    | ',' => return (← l.comma, gs)
    | '-' => if endsWord gs then return (← l.item here, gs) else l.plain here (g :: gs)
    | '?' =>
      if l.inFlow || endsWord gs then return (← l.key here, gs) else l.plain here (g :: gs)
    | ':' =>
      if l.inFlow || endsWord gs then return (← l.value here, gs) else l.plain here (g :: gs)
    | '*' => (← l.beginNode here).readToken (.alias <$> anchorName) gs
    | '&' => (← l.beginNode here).readToken (.anchor <$> anchorName) gs
    | '!' => (← l.beginNode here).readToken (tagBody l.inFlow) gs
    | '|' => l.block .literal gs
    | '>' => l.block .folded gs
    | '\'' => l.quoted here '\'' .singleQuoted gs
    | '"' => l.quoted here '"' .doubleQuoted gs
    | c => if "\t#%@`".toList.contains c then none else l.plain here (g :: gs)

/-- The state at the end of a text; at most so many tokens. -/
def run : (fuel : Nat) → Lexer → List Glyph → Option Lexer
  | 0, _, _ => none
  | fuel + 1, l, gs =>
    match skip l.inFlow false l.keyAllowed gs with
    | (_, []) => l.boundary
    | (keyAllowed, g :: gs) =>
      match (l.allowKey keyAllowed).token g gs with
      | some (l, rest) => run fuel l rest
      | none => none

end Lexer

/-- The tokens of a text. -/
def tokens? (s : String) : Option (List Token) := do
  let gs ← glyphs? s
  return (← Lexer.start.run (gs.length + 1) gs).tokens.toList

end PageLint.Yaml
