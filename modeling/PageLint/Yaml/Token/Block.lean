import PageLint.Yaml.Token.Name

/-!
# Block scalars

A block scalar is a text on indented lines below a header. It ends where a line is indented less.
Its lines are kept as they are, or folded. The header may say how deep the lines are indented, and
what happens to the line breaks at the end.

## Main definitions

* `Yaml.Header` — the header of a block scalar
* `Yaml.blockScalar` — the text of a block scalar
-/

namespace PageLint.Yaml

open Text (Reader)
open Text.Reader

/-- What happens to the line breaks at the end of a block scalar. -/
inductive Chomping where
  /-- One stays. -/
  | clip
  | strip
  | keep
deriving DecidableEq, Repr

/-- The header of a block scalar. The depth counts from the block around it. -/
structure Header where
  chomping : Chomping
  depth : Option Nat
deriving DecidableEq, Repr

/-- The sign for what happens at the end. -/
def chompingSign : Reader Glyph (Option Chomping) := do
  if ← taken '+' then return some .keep
  if ← taken '-' then return some .strip
  return none

/-- The digit for the depth, which is not zero. -/
def depthDigit : Reader Glyph (Option Nat) := do
  match front? (← get) with
  | some c =>
    if !c.isDigit then return none
    let _ ← take
    if c = '0' then failure else return some (c.toNat - '0'.toNat)
  | none => return none

/-- The header of a block scalar, with the end of its line. Sign and digit come in any order. -/
def header : Reader Glyph Header := do
  let sign ← chompingSign
  let depth ← depthDigit
  let sign ← if sign.isNone && depth.isSome then chompingSign else pure sign
  endLine
  return ⟨sign.getD .clip, depth⟩

/-- Empty lines and the indentation of the next line. -/
structure Margin where
  breaks : List Char
  /-- The deepest indentation met. -/
  widest : Nat

/-- Passes over indentation and empty lines, up to a column if one is given. A tab may not stand
there. -/
def margin (column : Option Nat) : Margin → List Glyph → Option (Margin × List Glyph)
  | m, [] => some (m, [])
  | m, g :: gs =>
    let left := column.all (g.place.column < ·)
    if left && g.char = ' ' then
      margin column { m with widest := max m.widest (g.place.column + 1) } gs
    else if left && g.char = '\t' then none
    else if isBreak g.char then margin column { m with breaks := m.breaks ++ [g.char] } gs
    else some (m, g :: gs)

/-- What the lines of a block scalar say so far. -/
structure Lines where
  /-- The characters of the lines, last first. -/
  before : List Char
  /-- The line break of the last line. -/
  last : List Char
  /-- The last line begins with white space, so that its line break is not folded. -/
  lastIsMore : Bool
  /-- The line breaks of empty lines after it. -/
  empty : List Char

/-- The line breaks between the last line and the next one. -/
def Lines.between (l : Lines) (fold : Bool) (nextIsMore : Bool) : List Char :=
  if fold && l.last = ['\n'] && !l.lastIsMore && !nextIsMore then
    if l.empty.isEmpty then [' '] else l.empty
  else l.last ++ l.empty

/-- The text of the lines, once what happens at the end is known. -/
def Lines.text (l : Lines) (chomping : Chomping) : String :=
  let body := String.ofList l.before.reverse
  match chomping with
  | .clip => body ++ String.ofList l.last
  | .strip => body
  | .keep => body ++ String.ofList (l.last ++ l.empty)

/-- The lines of a block scalar that begin at a column. -/
def blockLines (fold : Bool) (column : Nat) :
    (fuel : Nat) → Lines → List Glyph → Option (Lines × List Glyph)
  | 0, _, _ => none
  | fuel + 1, l, gs =>
    if atColumn column gs then
      let more := (front? gs).any isBlank
      let (line, rest) := gs.span (!isBreak ·.char)
      match margin (some column) ⟨[], 0⟩ (rest.drop 1) with
      | some (m, gs) =>
        let before :=
          (line.map Glyph.char).reverse ++ (l.between fold more).reverse ++ l.before
        blockLines fold column fuel
          ⟨before, (rest.take 1).map Glyph.char, more, m.breaks⟩ gs
      | none => none
    else some (l, gs)

/-- A block scalar after its indicator. The columns of the block around it end before `inner`. -/
def blockScalar (fold : Bool) (inner : Nat) : Reader Glyph String := do
  let h ← header
  -- Without a digit, what counts is the deepest indentation up to the first line with a text,
  -- unless that is outside of the block.
  let given := h.depth.map (inner - 1 + ·)
  let (m, rest) ← margin given ⟨[], 0⟩ (← get)
  let column := given.getD (max m.widest (max inner 1))
  let (l, rest) ← blockLines fold column (rest.length + 1) ⟨[], [], false, m.breaks⟩ rest
  set rest
  return l.text h.chomping

end PageLint.Yaml
