import PageLint.Text.Hex
import PageLint.Text.Reader
import PageLint.Yaml.Glyph
import PageLint.Yaml.Token

/-!
# Names in YAML

Anchors, aliases, tags and directives begin with an indicator. Tags are addresses: their escapes
spell octets, and the octets may or may not spell a text.

## Main definitions

* `Yaml.anchorName` — the name of an anchor or an alias
* `Yaml.tagBody` — a tag
* `Yaml.directive` — a directive, to the end of its line
-/

namespace PageLint.Yaml

open Text (Reader)
open Text.Reader

/-- A character of a name. -/
def isNameChar (c : Char) : Bool := c.isAlphanum || c = '_' || c = '-'

/-- Takes the characters in front that have a property. -/
def chars (p : Char → Bool) : Reader Glyph (List Char) := do
  return (← takeWhile fun g => p g.char).map Glyph.char

/-- Takes a character off the front, if it stands there. -/
def taken (c : Char) : Reader Glyph Bool := do
  if front? (← get) = some c then
    let _ ← take
    return true
  else return false

/-- Takes a character off the front, where it has to stand. -/
def expect (c : Char) : Reader Glyph Unit := do
  if !(← taken c) then failure

/-- White space or the end has to follow. -/
def expectEnd : Reader Glyph Unit := do
  if !endsWord (← get) then failure

/-- The name of an anchor or an alias, after its indicator. -/
def anchorName : Reader Glyph String := do
  let name ← chars isNameChar
  let gs ← get
  if name.isEmpty then failure
  if endsWord gs || (front? gs).any "?:,]\x7d%@`".toList.contains then
    return String.ofList name
  else failure

/-! ## Tags -/

/-- A character of an address that is written without angle brackets. -/
def isAddressChar (c : Char) : Bool := isNameChar c || ";/?:@&=+$.%!~*'()".toList.contains c

/-- A character of an address that stands for itself between angle brackets. -/
def isWideAddressChar (c : Char) : Bool := isAddressChar c || c = ',' || c = '[' || c = ']'

/-- How many octets a character has whose first octet is the given one. -/
def octetCount? (o : UInt8) : Option Nat :=
  if o < 0x80 then some 1
  else if 0xC0 ≤ o ∧ o < 0xE0 then some 2
  else if 0xE0 ≤ o ∧ o < 0xF0 then some 3
  else if 0xF0 ≤ o ∧ o < 0xF8 then some 4
  else none

/-- An octet that is written as a percent sign and two digits. -/
def octet : Reader Glyph UInt8 := do
  expect '%'
  let high ← take
  let low ← take
  match Text.hexNumber? [high.char, low.char] with
  | some n => return n.toUInt8
  | none => failure

/-- So many octets that continue a character. -/
def trailingOctets : (count : Nat) → Reader Glyph (List UInt8)
  | 0 => return []
  | count + 1 => do
    let o ← octet
    if 0x80 ≤ o ∧ o < 0xC0 then return o :: (← trailingOctets count)
    else failure

/-- The octets of one character of an address: itself, or the escapes that spell it. -/
def addressOctets (c : Char) : Reader Glyph (List UInt8) := do
  if c = '%' then
    let first ← octet
    match octetCount? first with
    | some count => return first :: (← trailingOctets (count - 1))
    | none => failure
  else
    let _ ← take
    return (String.singleton c).toUTF8.toList

/-- The octets of an address, or of the rest of one. -/
def address (isChar : Char → Bool) : (fuel : Nat) → Reader Glyph (List UInt8)
  | 0 => return []
  | fuel + 1 => do
    match front? (← get) with
    | some c =>
      if isChar c then return (← addressOctets c) ++ (← address isChar fuel)
      else return []
    | none => return []

/-- An address counts up to the first octet zero. -/
def upToZero (octets : List UInt8) : List UInt8 := octets.takeWhile (· ≠ 0)

/-- An address that may not be empty. -/
def nonemptyAddress (isChar : Char → Bool) : Reader Glyph (List UInt8) := do
  let octets ← address isChar (← get).length
  if octets.isEmpty then failure
  return upToZero octets

/-- A tag after its exclamation mark: an address between angle brackets, a handle between
exclamation marks and an address, or the rest of an address that begins with the mark. -/
def tagBody (inFlow : Bool) : Reader Glyph Token := do
  let token ←
    if ← taken '<' then
      let octets ← nonemptyAddress isWideAddressChar
      expect '>'
      pure (Token.tag [] octets)
    else
      let name ← chars isNameChar
      if ← taken '!' then
        pure (.tag (['!'] ++ name ++ ['!']) (← nonemptyAddress isAddressChar))
      else
        let rest ← address isAddressChar (← get).length
        let octets := upToZero ((String.ofList name).toUTF8.toList ++ rest)
        pure (if octets.isEmpty then .tag [] ['!'.toUInt8] else .tag ['!'] octets)
  if !(inFlow && front? (← get) = some ',') then expectEnd
  return token

/-! ## Directives -/

/-- White space within a line. -/
def blanks : Reader Glyph Unit := do
  let _ ← chars isBlank

/-- What may stand behind a directive or a header: white space and a comment, to the end of the
line. -/
def endLine : Reader Glyph Unit := do
  blanks
  if front? (← get) = some '#' then
    let _ ← chars (!isBreak ·)
  match ← get with
  | [] => return ()
  | g :: gs => if isBreak g.char then set gs else failure

/-- A part of a version: up to nine digits. -/
def versionPart : Reader Glyph Nat := do
  let digits ← chars Char.isDigit
  if digits.isEmpty || 9 < digits.length then failure
  return digits.foldl (fun n c => n * 10 + (c.toNat - '0'.toNat)) 0

/-- The handle that a directive declares. -/
def declaredHandle : Reader Glyph (List Char) := do
  expect '!'
  let name ← chars isNameChar
  if ← taken '!' then return ['!'] ++ name ++ ['!']
  if name.isEmpty then return ['!'] else failure

/-- A directive after its percent sign, with the end of its line. -/
def directive : Reader Glyph Token := do
  let name ← chars isNameChar
  if name.isEmpty then failure
  expectEnd
  blanks
  let token ←
    if name = "YAML".toList then
      let major ← versionPart
      expect '.'
      pure (Token.version major (← versionPart))
    else if name = "TAG".toList then
      let handle ← declaredHandle
      if !(front? (← get)).any isBlank then failure
      blanks
      let octets ← nonemptyAddress isWideAddressChar
      expectEnd
      pure (.handle handle octets)
    else failure
  endLine
  return token

end PageLint.Yaml
