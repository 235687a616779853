import PageLint.Text.Hex
import PageLint.Text.Reader
import PageLint.Yaml.Glyph

/-!
# Flowing scalars

Plain and quoted scalars may go on over several lines. Where they do, the lines flow together: one
line break between words is a space, and of several line breaks all but the first are kept.

## Main definitions

* `Yaml.folded` — what white space between words stands for
* `Yaml.quotedRest` — a quoted scalar
* `Yaml.Plain`, `Yaml.plainRest` — a plain scalar, and whether it ends at the beginning of a line
-/

namespace PageLint.Yaml

open Text (Reader)

/-- What white space between words stands for. Within a line it stands for itself. -/
def folded (space : List Char) : List Char :=
  match space.filter isBreak with
  | [] => space
  | ['\n'] => [' ']
  | '\n' :: more => more
  | breaks => breaks

/-- The characters of glyphs. -/
def text (gs : List Glyph) : List Char := gs.map Glyph.char

/-- White space in front, and what follows it. -/
def spanSpace (gs : List Glyph) : List Glyph × List Glyph := gs.span (isSpace ·.char)

/-! ## Quoted scalars -/

/-- The character that an escape of one letter stands for. -/
def escaped? (c : Char) : Option Char :=
  match c with
  | '0' => some (Char.ofNat 0)
  | 'a' => some (Char.ofNat 0x7)
  | 'b' => some (Char.ofNat 0x8)
  | 't' | '\t' => some '\t'
  | 'n' => some '\n'
  | 'v' => some (Char.ofNat 0xB)
  | 'f' => some (Char.ofNat 0xC)
  | 'r' => some '\r'
  | 'e' => some (Char.ofNat 0x1B)
  | ' ' => some ' '
  | '"' => some '"'
  | '\'' => some '\''
  | '/' => some '/'
  | '\\' => some '\\'
  | 'N' => some (Char.ofNat 0x85)
  | '_' => some (Char.ofNat 0xA0)
  | 'L' => some (Char.ofNat 0x2028)
  | 'P' => some (Char.ofNat 0x2029)
  | _ => none

/-- How many hexadecimal digits follow the letter of an escape. -/
def escapeWidth? (c : Char) : Option Nat :=
  match c with
  | 'x' => some 2
  | 'u' => some 4
  | 'U' => some 8
  | _ => none

/-- The character that an escape stands for, after the backslash, and what follows it. -/
def escape? : List Glyph → Option (Char × List Glyph)
  | [] => none
  | g :: gs =>
    match escapeWidth? g.char with
    | some width =>
      if (gs.take width).length = width then do
        return (← Text.charOfHex? (text (gs.take width)), gs.drop width)
      else none
    | none => do return (← escaped? g.char, gs)

/-- The rest of a quoted scalar, after the given characters, last first. In single quotes a quote is
written twice and nothing else is escaped. A backslash at the end of a line takes the line break
away, and the white space around it. -/
def quotedRest (quote : Char) :
    (fuel : Nat) → (before : List Char) → List Glyph → Option (String × List Glyph)
  | 0, _, _ => none
  | _, _, [] => none
  | fuel + 1, before, g :: gs =>
    if atMarker (g :: gs) then none
    else if isSpace g.char then
      let (space, rest) := spanSpace (g :: gs)
      quotedRest quote fuel ((folded (text space)).reverse ++ before) rest
    else if g.char = quote then
      if quote = '\'' && front? gs = some quote then
        quotedRest quote fuel (quote :: before) (gs.drop 1)
      else some (String.ofList before.reverse, gs)
    else if g.char = '\\' && quote = '"' then
      if (front? gs).any isBreak then
        -- Only the first break is taken away; each empty line after it keeps its own.
        let (space, rest) := spanSpace (gs.drop 1)
        quotedRest quote fuel (((text space).filter isBreak).reverse ++ before) rest
      else
        match escape? gs with
        | some (c, rest) => quotedRest quote fuel (c :: before) rest
        | none => none
    else quotedRest quote fuel (g.char :: before) gs

/-! ## Plain scalars -/

/-- A plain scalar. After one that ends at the beginning of a line a key may follow. -/
structure Plain where
  text : String
  endsLine : Bool

/-- An indicator that ends a plain scalar between brackets. -/
def endsPlain (c : Char) : Bool := c = ',' || c = '[' || c = ']' || c = '\x7b' || c = '\x7d'

/-- The word in front, up to white space or to what ends a plain scalar. Between brackets a colon
may not stand before another indicator. -/
def plainWord (inFlow : Bool) : List Glyph → Option (List Char × List Glyph)
  | [] => some ([], [])
  | g :: gs =>
    if isSpace g.char then some ([], g :: gs)
    else if inFlow && g.char = ':' && (front? gs).any (fun c => c = '?' || endsPlain c) then none
    else if (g.char = ':' && endsWord gs) || (inFlow && endsPlain g.char) then some ([], g :: gs)
    else
      match plainWord inFlow gs with
      | some (word, rest) => some (g.char :: word, rest)
      | none => none

/-- A tab stands where a line is indented, left of the given column. -/
def tabIndents (inner : Nat) (space : List Glyph) : Bool :=
  (space.dropWhile (isBlank ·.char)).any fun g => g.char = '\t' && g.place.column < inner

/-- A plain scalar, after the given characters, last first, and the white space behind them. It ends
where a line begins left of the given column, unless it stands between brackets. -/
def plainRest (inFlow : Bool) (inner : Nat) : (fuel : Nat) → (before : List Char) →
    (space : List Glyph) → List Glyph → Option (Plain × List Glyph)
  | 0, _, _, _ => none
  | fuel + 1, before, space, gs =>
    let scalar (before : List Char) (space : List Glyph) : Plain :=
      ⟨String.ofList before.reverse, space.any (isBreak ·.char)⟩
    if atMarker gs || front? gs = some '#' then some (scalar before space, gs)
    else
      match plainWord inFlow gs with
      | none => none
      | some ([], _) => some (scalar before space, gs)
      | some (word, rest) =>
        let before := word.reverse ++ (folded (text space)).reverse ++ before
        let (space, rest) := spanSpace rest
        if space.isEmpty then some (scalar before [], rest)
        else if tabIndents inner space then none
        else if !inFlow && rest.head?.any (·.place.column < inner) then
          some (scalar before space, rest)
        else plainRest inFlow inner fuel before space rest

end PageLint.Yaml
