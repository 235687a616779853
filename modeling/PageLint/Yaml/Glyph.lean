/-!
# Glyphs

Where a YAML text stands on its line decides what it means. So a text is read as a list of glyphs,
each a character with its place. A line break is one glyph however it is written: two characters,
the one or the other, or a line break of Unicode; all but two of them become a line feed.

## Main definitions

* `Yaml.Place`, `Yaml.Glyph` — places, and characters at places
* `Yaml.glyphs?` — the glyphs of a text, if YAML allows its characters
-/

namespace PageLint.Yaml

/-- A place in a text: how many characters and lines come before it, and how many characters of its
own line. -/
structure Place where
  index : Nat
  line : Nat
  column : Nat
deriving DecidableEq, Repr, Inhabited

/-- The place after a character that stays on its line. -/
def Place.next (p : Place) : Place := { p with index := p.index + 1, column := p.column + 1 }

/-- The place after a line break of so many characters. -/
def Place.nextLine (p : Place) (width : Nat) : Place := ⟨p.index + width, p.line + 1, 0⟩

/-- A character at its place. -/
structure Glyph where
  char : Char
  place : Place
deriving DecidableEq, Repr, Inhabited

/-- The line break of Unicode that counts as a line feed. -/
def isNextLine (c : Char) : Bool := c.toNat = 0x85

/-- The line breaks of Unicode that are kept as they are. -/
def isSeparator (c : Char) : Bool := c.toNat = 0x2028 || c.toNat = 0x2029

/-- The glyph of a line break. -/
def isBreak (c : Char) : Bool := c = '\n' || isSeparator c

/-- White space within a line. -/
def isBlank (c : Char) : Bool := c = ' ' || c = '\t'

/-- White space. -/
def isSpace (c : Char) : Bool := isBlank c || isBreak c

/-- A character that may stand in a YAML text. -/
def isAllowed (c : Char) : Bool :=
  let n := c.toNat
  n = 0x9 || n = 0xA || n = 0xD || (0x20 ≤ n && n ≤ 0x7E) || n = 0x85 ||
    (0xA0 ≤ n && n ≤ 0xFFFD) || 0x10000 ≤ n

/-- The glyphs of characters from a place on. -/
def glyphsFrom : Place → List Char → List Glyph
  | _, [] => []
  | p, '\r' :: '\n' :: cs => ⟨'\n', p⟩ :: glyphsFrom (p.nextLine 2) cs
  | p, c :: cs =>
    if c = '\n' || c = '\r' || isNextLine c then ⟨'\n', p⟩ :: glyphsFrom (p.nextLine 1) cs
    else if isSeparator c then ⟨c, p⟩ :: glyphsFrom (p.nextLine 1) cs
    else ⟨c, p⟩ :: glyphsFrom p.next cs

/-- The glyphs of a text, if its characters are allowed. A byte order mark in front is left out, but
it takes up its place. -/
def glyphs? (s : String) : Option (List Glyph) :=
  let cs := s.toList
  if cs.all isAllowed then
    match glyphsFrom default cs with
    | g :: gs => some (if g.char = '\ufeff' then gs else g :: gs)
    | [] => some []
  else none

/-! ## What stands in front -/

/-- The character in front. -/
def front? (gs : List Glyph) : Option Char := gs.head?.map Glyph.char

/-- White space or the end stands in front. -/
def endsWord (gs : List Glyph) : Bool := (front? gs).all isSpace

/-- The column in front is the given one. -/
def atColumn (column : Nat) (gs : List Glyph) : Bool := gs.head?.any (·.place.column = column)

/-- The mark of the beginning or the end of a document stands in front: three hyphens or three dots
at the beginning of a line, and white space after them. -/
def atMarker : List Glyph → Bool
  | a :: b :: c :: gs =>
    a.place.column = 0 && (a.char = '-' || a.char = '.') && b.char = a.char && c.char = a.char &&
      endsWord gs
  | _ => false

end PageLint.Yaml
